import Mathlib.Algebra.Group.Nat.Defs
import Glycerine.Setup.Kernel
import Glycerine.Text.Decimal
/-
# The range of ephemeral ports

| here | there |
| --- | --- |
| `parseU16`, `splitWhitespace`        | `str::parse::<u16>`, `str::split_whitespace` |
| `setEphemeralPorts`                  | `set_ephemeral_ports` (`ipv4.rs:127`) |
-/

namespace Glycerine
open Interact Decimal

/-! ## Numbers and words in text -/

/-- `str::parse::<u16>`. -/
def parseU16 (cs : List Char) : Except ParseIntError UInt16 := (parseUnsigned (2 ^ 16) cs).map UInt16.ofNat

/-- `char::is_whitespace`. -/
def isWhitespace (c : Char) : Bool :=
  let n := c.toNat
  (9 ≤ n && n ≤ 13) || n == 0x20 || n == 0x85 || n == 0xA0 || n == 0x1680 || (0x2000 ≤ n && n ≤ 0x200A) ||
    n == 0x2028 || n == 0x2029 || n == 0x202F || n == 0x205F || n == 0x3000

/-- The words between whitespace; `word` is the one that is being read. -/
def splitWords (word : List Char) : List Char → List (List Char)
  | [] => if word = [] then [] else [word]
  | c :: cs =>
    if isWhitespace c then if word = [] then splitWords [] cs else word :: splitWords [] cs
    else splitWords (word ++ [c]) cs

/-- `str::split_whitespace`. -/
def splitWhitespace (s : String) : List (List Char) := splitWords [] s.toList

/-! ## Which texts are numbers -/

/-- `u16` is parsed from an optional `+` followed by digits without overflow. -/
theorem parseU16_eq_ok {cs : List Char} {n : UInt16} : parseU16 cs = .ok n ↔ Numeral n.toNat cs := by
  have hread {m : Nat} : parseUnsigned (2 ^ 16) cs = .ok m ↔ Numeral m cs ∧ m < 2 ^ 16 :=
    parseUnsigned_eq_ok (by decide)
  unfold parseU16
  constructor
  · intro h
    cases hm : parseUnsigned (2 ^ 16) cs with
    | error e =>
      rw [hm] at h
      cases h
    | ok m =>
      rw [hm] at h
      cases h
      obtain ⟨hnum, hlt⟩ := hread.1 hm
      rwa [UInt16.toNat_ofNat_of_lt' hlt]
  · intro h
    rw [hread.2 ⟨h, n.toNat_lt⟩]
    exact congrArg Except.ok (UInt16.ofNat_toNat)

theorem parseU16_toDigits (n : UInt16) : parseU16 (Nat.toDigits 10 n.toNat) = .ok n :=
  parseU16_eq_ok.2 (.plain (digits_toDigits n.toNat))

theorem splitWords_word {w : List Char} (hw : ∀ c ∈ w, isWhitespace c = false) (word rest : List Char) :
    splitWords word (w ++ rest) = splitWords (word ++ w) rest := by
  induction w generalizing word with
  | nil => simp
  | cons c w ih =>
    have hc := hw c (by simp)
    rw [List.cons_append, splitWords, hc, if_neg (by simp), ih (fun c' hc' => hw c' (by simp [hc'])),
      List.append_assoc]
    rfl

/-- The range that a text says, if it is two numbers. -/
def rangeOfText (s : String) : Option (UInt16 × UInt16) :=
  match (splitWhitespace s).map parseU16 with
  | [.ok from', .ok to'] => some (from', to')
  | _ => none

/-- Two numbers with something between them. -/
def rangeText (between : String) (range : UInt16 × UInt16) : String :=
  toString range.1.toNat ++ between ++ toString range.2.toNat ++ "\n"

theorem isWhitespace_of_isDigit {c : Char} (hc : c.isDigit) : isWhitespace c = false := by
  have hle : 48 ≤ c.toNat ∧ c.toNat ≤ 57 := by
    simp only [Char.isDigit, Bool.and_eq_true, decide_eq_true_eq, ge_iff_le, UInt32.le_iff_toNat_le] at hc
    exact hc
  simp only [isWhitespace, Bool.or_eq_false_iff, Bool.and_eq_false_imp, decide_eq_true_eq, decide_eq_false_iff_not,
    beq_eq_false_iff_ne]
  omega

theorem splitWords_toDigits (n : Nat) {c : Char} (hc : isWhitespace c = true) (rest : List Char) :
    splitWords [] (Nat.toDigits 10 n ++ c :: rest) = Nat.toDigits 10 n :: splitWords [] rest := by
  have hw : ∀ d ∈ Nat.toDigits 10 n, isWhitespace d = false := fun d hd =>
    isWhitespace_of_isDigit (Nat.isDigit_of_mem_toDigits (by decide) (by decide) hd)
  rw [splitWords_word hw, List.nil_append, splitWords, if_pos hc, if_neg Nat.toDigits_ne_nil]

theorem rangeOfText_rangeText {c : Char} (hc : isWhitespace c = true) (range : UInt16 × UInt16) :
    rangeOfText (rangeText (String.singleton c) range) = some range := by
  have hlist : (rangeText (String.singleton c) range).toList =
      Nat.toDigits 10 range.1.toNat ++ c :: (Nat.toDigits 10 range.2.toNat ++ '\n' :: []) := by
    simp only [rangeText, String.toList_append, String.toList_singleton, Nat.toString_eq_repr, Nat.toList_repr,
      List.append_assoc, List.cons_append, List.nil_append]
    rfl
  have hwords : splitWhitespace (rangeText (String.singleton c) range) =
      [Nat.toDigits 10 range.1.toNat, Nat.toDigits 10 range.2.toNat] := by
    rw [splitWhitespace, hlist, splitWords_toDigits _ hc, splitWords_toDigits _ (by decide)]
    rfl
  rw [rangeOfText, hwords, List.map_cons, List.map_cons, List.map_nil, parseU16_toDigits, parseU16_toDigits]

/-! ## `set_ephemeral_ports` -/

/-- One of the two numbers of `ip_local_port_range`. -/
def rangePart (part : Option (List Char)) (missing : String) : Except Error UInt16 :=
  match part with
  | none => .error (.ioIpv4Tcp (.custom .invalidData missing))
  | some cs =>
    match parseU16 cs with
    | .ok n => .ok n
    | .error e => .error (.ioIpv4Tcp (.custom .invalidData e.text))

/-- Both numbers are read as the range that the text says. -/
theorem rangePart_of_rangeOfText {s : String} {range : UInt16 × UInt16} (h : rangeOfText s = some range)
    (missing missing' : String) : rangePart (splitWhitespace s)[0]? missing = .ok range.1 ∧
      rangePart (splitWhitespace s)[1]? missing' = .ok range.2 := by
  unfold rangeOfText at h
  split at h
  · rename_i from' to' hparts
    cases h
    match hs : splitWhitespace s with
    | [] | [_] | _ :: _ :: _ :: _ => simp [hs] at hparts
    | [w₁, w₂] =>
      rw [hs] at hparts
      simp only [List.map_cons, List.map_nil, List.cons.injEq, and_true] at hparts
      simp [rangePart, hparts.1, hparts.2]
  · cases h

/-- `set_ephemeral_ports` (ipv4.rs:127); it says whether it had to change them. -/
def setEphemeralPorts (start stop : UInt16) : Setup Error Bool := do
  let ipLocalPortRange ← readLocalPortRange.mapErr .ioIpv4Tcp
  let parts := splitWhitespace ipLocalPortRange
  let prevFrom ← Task.ofExcept (rangePart parts[0]? "missing start port")
  let prevTo ← Task.ofExcept (rangePart parts[1]? "missing end port")
  if start = prevFrom ∧ stop = prevTo then pure false
  else do
    (writeLocalPortRange (toString start.toNat ++ " " ++ toString stop.toNat ++ "\n")).mapErr .ioIpv4Tcp
    pure true

theorem concerns_setEphemeralPorts (start stop : UInt16) :
    Concerns .portRange (setEphemeralPorts start stop) := by
  unfold setEphemeralPorts
  refine (concerns_call (.inr rfl)).bind fun _ => ?_
  refine concerns_ofExcept.bind fun _ => concerns_ofExcept.bind fun _ => ?_
  split
  · exact concerns_ret
  · exact (concerns_call (.inr rfl)).bind fun _ => concerns_ret

end Glycerine
