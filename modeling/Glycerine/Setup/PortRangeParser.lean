import Glycerine.Setup.EphemeralPorts
import Glycerine.Setup.Ports
/-
# Port ranges on the command line

| here | there |
| --- | --- |
| `OsStr.toStr`              | `OsStr::to_str` |
| `clapError`                | `clap_error` (`cli/parsers.rs:167`) |
| `PortRangeParser.parseRef` | `PortRangeParser::parse_ref` (`cli/parsers.rs:94`) |

The port check, the setting of the ephemeral ports and the netfilter rules take the pair that comes out of
here for a range, first port first (`PortRange`). It is one whatever was typed (`parseRef_accepts`).
-/

namespace Glycerine
open Decimal

/-! ## Ranges by two of their ports -/

/-- The ports between two, ends included. -/
def PortRange.between (n m : UInt16) : PortRange :=
  if h : n < m then ⟨n, m, UInt16.le_of_lt h⟩ else ⟨m, n, UInt16.not_lt.1 h⟩

theorem PortRange.between_comm (n m : UInt16) : between n m = between m n := by
  unfold between
  rcases Nat.lt_trichotomy n.toNat m.toNat with h | h | h
  · rw [← UInt16.lt_iff_toNat_lt] at h
    rw [dif_pos h, dif_neg (UInt16.not_lt.2 (UInt16.le_of_lt h))]
  · rw [UInt16.toNat_inj.1 h]
  · rw [← UInt16.lt_iff_toNat_lt] at h
    rw [dif_pos h, dif_neg (UInt16.not_lt.2 (UInt16.le_of_lt h))]

theorem PortRange.pair_between_self (n : UInt16) : (between n n).pair = (n, n) := by
  unfold between
  rw [dif_neg (UInt16.lt_irrefl n)]
  rfl

theorem PortRange.mem_between {n m p : UInt16} :
    p ∈ between n m ↔ p.toNat ∈ Set.Icc (min n.toNat m.toNat) (max n.toNat m.toNat) := by
  unfold between
  split
  · rename_i h
    have hle : n.toNat ≤ m.toNat := UInt16.le_iff_toNat_le.1 (UInt16.le_of_lt h)
    rw [PortRange.mem_iff, Nat.min_eq_left hle, Nat.max_eq_right hle]
  · rename_i h
    have hle : m.toNat ≤ n.toNat := UInt16.le_iff_toNat_le.1 (UInt16.not_lt.1 h)
    rw [PortRange.mem_iff, Nat.min_eq_right hle, Nat.max_eq_left hle]

/-! ## The parser -/

/-- The bytes of an argument, which need not be text. -/
abbrev OsStr := ByteArray

def OsStr.toStr (value : OsStr) : Option String := String.fromUTF8? value

theorem OsStr.toStr_eq_some {value : OsStr} {s : String} : value.toStr = some s ↔ value = s.toUTF8 := by
  unfold OsStr.toStr String.fromUTF8?
  constructor
  · intro h
    split at h
    · cases h
      rfl
    · cases h
  · rintro rfl
    exact dif_pos s.isValidUTF8

namespace Clap

/-- The kinds of errors that the parsers make. -/
inductive ErrorKind where
  | valueValidation
deriving DecidableEq, Repr

/-- `clap::Error`, without the command, which only its rendering uses. -/
structure Error where
  kind : ErrorKind
  message : String
deriving DecidableEq, Repr

end Clap

/-- `clap_error` (parsers.rs:167); `arg` is what the argument is displayed as. -/
def clapError (arg : Option String) (value err : String) : Clap.Error :=
  match value, arg with
  | "", none => ⟨.valueValidation, "invalid value for one of the arguments: " ++ err ++ "\n"⟩
  | "", some arg => ⟨.valueValidation, "invalid value for `" ++ arg ++ "`: " ++ err ++ "\n"⟩
  | value, none =>
    ⟨.valueValidation, "invalid value `" ++ value ++ "` for one of the arguments: " ++ err ++ "\n"⟩
  | value, some arg =>
    ⟨.valueValidation, "invalid value `" ++ value ++ "` for `" ++ arg ++ "`: " ++ err ++ "\n"⟩

namespace PortRangeParser

/-- `parts[i].parse::<u16>()`, with the error of the parser. -/
def parsePort (arg : Option String) (value : String) (part : List Char) : Except Clap.Error UInt16 :=
  match parseU16 part with
  | .ok port => .ok port
  | .error err => .error (clapError arg value ("invalid port: " ++ err.text))

/-- `PortRangeParser::parse_ref` (parsers.rs:94). -/
def parseRef (arg : Option String) (value : OsStr) : Except Clap.Error (UInt16 × UInt16) :=
  match value.toStr with
  | none => .error (clapError arg "" "invalid utf-8")
  | some value =>
    let parts := value.toList.splitOn '-'
    if parts.length > 2 then .error (clapError arg value "invalid port range")
    else
      match parts with
      | [part] => do
        let port ← parsePort arg value part
        .ok (port, port)
      | [part₀, part₁] => do
        let port₀ ← parsePort arg value part₀
        let port₁ ← parsePort arg value part₁
        if port₀ < port₁ then .ok (port₀, port₁) else .ok (port₁, port₀)
      | _ => .error (clapError arg value "invalid port range")

/-! ## What it accepts -/

/-- `N` and `N-M`, with the numbers they are about. -/
inductive Written : List Char → UInt16 → UInt16 → Prop where
  | single {cs} {n : UInt16} : Numeral n.toNat cs → Written cs n n
  | range {cs ds} {n m : UInt16} : Numeral n.toNat cs → Numeral m.toNat ds → Written (cs ++ '-' :: ds) n m

/-- Two numbers as they are printed. -/
theorem written_toDigits (n m : UInt16) :
    Written (Nat.toDigits 10 n.toNat ++ '-' :: Nat.toDigits 10 m.toNat) n m :=
  .range (.plain (digits_toDigits n.toNat)) (.plain (digits_toDigits m.toNat))

theorem dash_notMem {n : Nat} {cs : List Char} (h : Numeral n cs) : '-' ∉ cs := h.not_mem rfl (by decide)

theorem splitOn_dash_single {cs part : List Char} (h : cs.splitOn '-' = [part]) : cs = part := by
  have hjoin : ['-'].intercalate (cs.splitOn '-') = cs := List.intercalate_splitOn '-'
  rw [h] at hjoin
  simpa using hjoin.symm

theorem splitOn_dash_range {cs part₀ part₁ : List Char} (h : cs.splitOn '-' = [part₀, part₁]) :
    cs = part₀ ++ '-' :: part₁ := by
  have hjoin : ['-'].intercalate (cs.splitOn '-') = cs := List.intercalate_splitOn '-'
  rw [h] at hjoin
  simpa [List.intercalate] using hjoin.symm

theorem parsePort_eq_ok {arg : Option String} {value : String} {part : List Char} {n : UInt16} :
    parsePort arg value part = .ok n ↔ Numeral n.toNat part := by
  rw [← parseU16_eq_ok, parsePort]
  split <;> simp_all

theorem parsePort_bind_eq_ok {arg : Option String} {value : String} {part : List Char}
    {f : UInt16 → Except Clap.Error (UInt16 × UInt16)} {range : UInt16 × UInt16} :
    (parsePort arg value part >>= f) = .ok range ↔ ∃ n : UInt16, Numeral n.toNat part ∧ f n = .ok range := by
  constructor
  · intro h
    cases hport : parsePort arg value part with
    | error e =>
      rw [hport] at h
      cases h
    | ok n =>
      rw [hport] at h
      exact ⟨n, parsePort_eq_ok.1 hport, h⟩
  · rintro ⟨n, hn, h⟩
    rw [parsePort_eq_ok.2 hn]
    exact h

/-- The pair, as the range between the two numbers. -/
theorem ite_eq_between (n m : UInt16) :
    (if n < m then Except.ok (n, m) else .ok (m, n) : Except Clap.Error (UInt16 × UInt16)) =
      .ok (PortRange.between n m).pair := by
  unfold PortRange.between
  split <;> rfl

/-- A pair comes out of what the grammar has, and of nothing else. -/
theorem parseRef_eq_ok {arg : Option String} {value : OsStr} {range : UInt16 × UInt16} :
    parseRef arg value = .ok range ↔
      ∃ s n m, value.toStr = some s ∧ Written s.toList n m ∧ range = (PortRange.between n m).pair := by
  unfold parseRef
  cases hvalue : value.toStr with
  | none => simp
  | some s =>
    dsimp only
    constructor
    · intro h
      split at h
      · cases h
      · split at h
        · rename_i part hparts
          obtain ⟨n, hn, h⟩ := parsePort_bind_eq_ok.1 h
          cases h
          refine ⟨s, n, n, rfl, ?_, (PortRange.pair_between_self n).symm⟩
          rw [splitOn_dash_single hparts]
          exact .single hn
        · rename_i part₀ part₁ hparts
          obtain ⟨n, hn, h⟩ := parsePort_bind_eq_ok.1 h
          obtain ⟨m, hm, h⟩ := parsePort_bind_eq_ok.1 h
          rw [ite_eq_between] at h
          cases h
          refine ⟨s, n, m, rfl, ?_, rfl⟩
          rw [splitOn_dash_range hparts]
          exact .range hn hm
        · cases h
    · rintro ⟨s', n, m, hs, hw, rfl⟩
      cases hs
      generalize s.toList = cs at hw
      cases hw with
      | single hn =>
        rw [List.splitOn_eq_singleton (dash_notMem hn), if_neg (by simp)]
        exact parsePort_bind_eq_ok.2 ⟨n, hn, by rw [PortRange.pair_between_self]⟩
      | range hn hm =>
        rw [List.splitOn_append_cons_self_of_not_mem (dash_notMem hn), List.splitOn_eq_singleton (dash_notMem hm),
          if_neg (by simp)]
        exact parsePort_bind_eq_ok.2 ⟨n, hn, parsePort_bind_eq_ok.2 ⟨m, hm, ite_eq_between n m⟩⟩

/-- The same numbers the other way round. -/
theorem parseRef_swap (arg : Option String) {s t : String} {n m : UInt16} (hs : Written s.toList n m)
    (ht : Written t.toList m n) : parseRef arg s.toUTF8 = parseRef arg t.toUTF8 := by
  rw [parseRef_eq_ok.2 ⟨s, n, m, OsStr.toStr_eq_some.2 rfl, hs, rfl⟩,
    parseRef_eq_ok.2 ⟨t, m, n, OsStr.toStr_eq_some.2 rfl, ht, rfl⟩, PortRange.between_comm]

/-- **The parser accepts its grammar**, and what it returns is a range, of the ports between the two numbers. -/
theorem parseRef_accepts (arg : Option String) (s : String) :
    ((∃ range, parseRef arg s.toUTF8 = .ok range) ↔ ∃ n m, Written s.toList n m) ∧
      (∀ a b, parseRef arg s.toUTF8 = .ok (a, b) → a ≤ b) ∧
      ∀ n m, Written s.toList n m → ∃ r : PortRange, parseRef arg s.toUTF8 = .ok r.pair ∧
        (∀ p, p ∈ r ↔ p.toNat ∈ Set.Icc (min n.toNat m.toNat) (max n.toNat m.toNat)) ∧
        ∀ t : String, Written t.toList m n → parseRef arg t.toUTF8 = .ok r.pair := by
  refine ⟨⟨?_, ?_⟩, ?_, ?_⟩
  · rintro ⟨range, h⟩
    obtain ⟨s', n, m, hs, hw, -⟩ := parseRef_eq_ok.1 h
    rw [OsStr.toStr_eq_some.2 rfl, Option.some.injEq] at hs
    exact ⟨n, m, hs ▸ hw⟩
  · rintro ⟨n, m, hw⟩
    exact ⟨_, parseRef_eq_ok.2 ⟨s, n, m, OsStr.toStr_eq_some.2 rfl, hw, rfl⟩⟩
  · intro a b h
    obtain ⟨-, n, m, -, -, hrange⟩ := parseRef_eq_ok.1 h
    cases hrange
    exact (PortRange.between n m).le
  · intro n m hw
    have hok : parseRef arg s.toUTF8 = .ok (PortRange.between n m).pair :=
      parseRef_eq_ok.2 ⟨s, n, m, OsStr.toStr_eq_some.2 rfl, hw, rfl⟩
    refine ⟨PortRange.between n m, hok, fun p => PortRange.mem_between, fun t ht => ?_⟩
    rw [← parseRef_swap arg hw ht, hok]

/-! ## The defaults -/

/-- `default_value` of `--enclave-ephemeral-ports` (cli/host.rs:52). -/
def enclaveEphemeralPortsDefault : String := "40000-60999"

/-- `default_value` of `--host-ephemeral-ports` (cli/host.rs:66). -/
def hostEphemeralPortsDefault : String := "32768-39999"

/-- The defaults are ranges, and no port is in both. -/
theorem defaults_apart (arg : Option String) : ∃ r s : PortRange,
    parseRef arg enclaveEphemeralPortsDefault.toUTF8 = .ok r.pair ∧
      parseRef arg hostEphemeralPortsDefault.toUTF8 = .ok s.pair ∧ ∀ p ∈ s, p ∉ r := by
  have henclave : enclaveEphemeralPortsDefault.toList =
      Nat.toDigits 10 (40000 : UInt16).toNat ++ '-' :: Nat.toDigits 10 (60999 : UInt16).toNat := by decide +kernel
  have hhost : hostEphemeralPortsDefault.toList =
      Nat.toDigits 10 (32768 : UInt16).toNat ++ '-' :: Nat.toDigits 10 (39999 : UInt16).toNat := by decide +kernel
  refine ⟨.between 40000 60999, .between 32768 39999, ?_, ?_, PortRange.apart_iff.2 (.inr (by decide))⟩
  · exact parseRef_eq_ok.2 ⟨_, _, _, OsStr.toStr_eq_some.2 rfl, henclave ▸ written_toDigits _ _, rfl⟩
  · exact parseRef_eq_ok.2 ⟨_, _, _, OsStr.toStr_eq_some.2 rfl, hhost ▸ written_toDigits _ _, rfl⟩

end PortRangeParser

end Glycerine
