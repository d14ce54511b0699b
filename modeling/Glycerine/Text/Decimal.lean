import Mathlib.Data.List.Induction
/-!
# Numbers in decimal notation

`Digits n cs`: the text `cs` is digits that say `n`; zeros may stand in front. `Canonical n cs`: it is the text that
`n` is printed as. A text of digits is canonical exactly if it has no zero in front (`canonical_iff`), so a reader
that refuses such zeros reads back what was printed and nothing else. `parseUnsigned` is a reader that does not: it
reads the numerals of all numbers below a bound (`parseUnsigned_eq_ok`).

`splitOnce` cuts a text at the first separator.
-/
namespace Decimal

/-- The digits of a number, in base ten. -/
structure Digits (n : Nat) (cs : List Char) : Prop where
  ne_nil : cs ≠ []
  digits : ∀ c ∈ cs, c.isDigit
  value : Nat.ofDigitChars 10 cs 0 = n

/-- Digits, with or without a sign. -/
inductive Numeral (n : Nat) : List Char → Prop where
  | plain {cs} : Digits n cs → Numeral n cs
  | signed {cs} : Digits n cs → Numeral n ('+' :: cs)

/-- The text that a number is printed as. -/
def Canonical (n : Nat) (cs : List Char) : Prop := cs = Nat.toDigits 10 n

def LeadingZero (cs : List Char) : Prop := 1 < cs.length ∧ cs.head? = some '0'

instance (cs : List Char) : Decidable (LeadingZero cs) := inferInstanceAs (Decidable (_ ∧ _))

section
variable {n m : Nat} {cs : List Char} {c : Char}

/-! ## Digits -/

theorem toNat_of_isDigit (hc : c.isDigit) : 48 ≤ c.toNat ∧ c.toNat ≤ 57 := by
  simp only [Char.isDigit, Bool.and_eq_true, decide_eq_true_eq, ge_iff_le, UInt32.le_iff_toNat_le] at hc
  exact hc

theorem digitChar_of_isDigit (hc : c.isDigit) : (c.toNat - 48).digitChar = c := by
  obtain ⟨hlow, hhigh⟩ := toNat_of_isDigit hc
  apply Char.toNat_inj.1
  rw [Nat.toNat_digitChar_of_lt_ten (by omega)]
  omega

theorem Digits.not_mem (h : Digits n cs) (hc : c.isDigit = false) : c ∉ cs := by
  intro hmem
  rw [h.digits c hmem] at hc
  cases hc

theorem Numeral.not_mem (h : Numeral n cs) (hc : c.isDigit = false) (hplus : c ≠ '+') : c ∉ cs := by
  cases h with
  | plain h => exact h.not_mem hc
  | signed h => simp [hplus, h.not_mem hc]

theorem digits_toDigits (n : Nat) : Digits n (Nat.toDigits 10 n) where
  ne_nil := Nat.toDigits_ne_nil
  digits := fun _ hc => Nat.isDigit_of_mem_toDigits (by decide) (by decide) hc
  value := Nat.ofDigitChars_ten_toDigits

/-- A text says one number. -/
theorem Digits.unique (h : Digits n cs) (h' : Digits m cs) : n = m := h.value.symm.trans h'.value

/-! ## Without a zero in front -/

theorem not_leadingZero_toDigits (n : Nat) : ¬ LeadingZero (Nat.toDigits 10 n) := by
  induction n using Nat.strongRecOn with
  | ind n ih =>
    by_cases hlt : n < 10
    · rw [Nat.toDigits_of_lt_base hlt]
      simp [LeadingZero]
    · rw [Nat.toDigits_of_base_le (by decide) (by omega)]
      rintro ⟨-, hhead⟩
      by_cases h10 : n / 10 < 10
      · rw [Nat.toDigits_of_lt_base h10] at hhead
        have hchar : (n / 10).digitChar = '0' := by simpa using hhead
        have hval := congrArg Char.toNat hchar
        rw [Nat.toNat_digitChar_of_lt_ten h10] at hval
        have h48 : '0'.toNat = 48 := rfl
        omega
      · have hlen : 1 < (Nat.toDigits 10 (n / 10)).length := by
          have h := Nat.length_toDigits_le_iff (n := n / 10) (k := 1) (b := 10) (by decide) (by decide)
          omega
        obtain ⟨c, cs, hcs⟩ := List.exists_cons_of_ne_nil (Nat.toDigits_ne_nil (n := n / 10) (b := 10))
        refine ih (n / 10) (by omega) ⟨hlen, ?_⟩
        rw [hcs] at hhead ⊢
        exact hhead

theorem toDigits_of_digits (h : Digits n cs) (hz : ¬ LeadingZero cs) : Nat.toDigits 10 n = cs := by
  induction cs using List.reverseRecOn generalizing n with
  | nil => exact absurd rfl h.ne_nil
  | append_singleton cs c ih =>
    have hc : c.isDigit := h.digits c (by simp)
    obtain ⟨hlow, hhigh⟩ := toNat_of_isDigit hc
    have hval : 10 * Nat.ofDigitChars 10 cs 0 + (c.toNat - 48) = n := by
      have hv := h.value
      rw [Nat.ofDigitChars_append, Nat.ofDigitChars_cons, Nat.ofDigitChars_nil] at hv
      exact hv
    have hlast : Nat.toDigits 10 (c.toNat - 48) = [c] := by
      rw [Nat.toDigits_of_lt_base (by omega), digitChar_of_isDigit hc]
    by_cases hnil : cs = []
    · subst hnil
      rw [← hval]
      simpa using hlast
    have hinit : Digits (Nat.ofDigitChars 10 cs 0) cs := ⟨hnil, fun d hd => h.digits d (by simp [hd]), rfl⟩
    have hhead : cs.head? ≠ some '0' := by
      intro heq
      refine hz ⟨?_, ?_⟩
      · have hpos := List.length_pos_iff.2 hnil
        simp
        omega
      · obtain ⟨x, xs, rfl⟩ := List.exists_cons_of_ne_nil hnil
        exact heq
    have hrec := ih hinit fun hz' => hhead hz'.2
    have hpos : 0 < Nat.ofDigitChars 10 cs 0 := by
      rcases Nat.eq_zero_or_pos (Nat.ofDigitChars 10 cs 0) with h0 | hpos
      · rw [h0, Nat.toDigits_zero] at hrec
        exact absurd (by simp [← hrec]) hhead
      · exact hpos
    rw [← hval, ← Nat.toDigits_append_toDigits (by decide) hpos (by omega), hrec, hlast]

/-- **Digits without a zero in front** are what the number is printed as. -/
theorem canonical_iff : Canonical n cs ↔ Digits n cs ∧ ¬ LeadingZero cs := by
  constructor
  · rintro rfl
    exact ⟨digits_toDigits n, not_leadingZero_toDigits n⟩
  · rintro ⟨h, hz⟩
    exact (toDigits_of_digits h hz).symm

end

/-! ## Reading -/

/-- What can be wrong with a numeral. -/
inductive ParseIntError where
  | empty | invalidDigit | posOverflow
deriving DecidableEq, Repr

def ParseIntError.text : ParseIntError → String
  | .empty => "cannot parse integer from empty string"
  | .invalidDigit => "invalid digit found in string"
  | .posOverflow => "number too large to fit in target type"

def digit (c : Char) : Option Nat := if '0' ≤ c ∧ c ≤ '9' then some (c.toNat - '0'.toNat) else none

/-- The digits are taken one by one, and the first that is none or leads out of the range decides. -/
def parseBelow (bound acc : Nat) : List Char → Except ParseIntError Nat
  | [] => .ok acc
  | c :: cs =>
    match digit c with
    | none => .error .invalidDigit
    | some d => if acc * 10 + d < bound then parseBelow bound (acc * 10 + d) cs else .error .posOverflow

/-- A sign may stand in front, but it is no number. -/
def parseUnsigned (bound : Nat) : List Char → Except ParseIntError Nat
  | [] => .error .empty
  | ['+'] => .error .invalidDigit
  | ['-'] => .error .invalidDigit
  | '+' :: cs => parseBelow bound 0 cs
  | cs => parseBelow bound 0 cs

section
variable {bound n : Nat} {cs : List Char}

theorem digit_eq (c : Char) : digit c = if c.isDigit then some (c.toNat - '0'.toNat) else none := by
  have hiff : ('0' ≤ c ∧ c ≤ '9') ↔ c.isDigit := by simp [Char.isDigit, Char.le_def]
  simp only [digit, hiff]

theorem le_ofDigitChars (cs : List Char) (n : Nat) : n ≤ Nat.ofDigitChars 10 cs n := by
  induction cs generalizing n with
  | nil => simp
  | cons c cs ih =>
    rw [Nat.ofDigitChars_cons]
    have hle := ih (10 * n + (c.toNat - '0'.toNat))
    omega

theorem parseBelow_eq_ok {acc : Nat} (hacc : acc < bound) :
    parseBelow bound acc cs = .ok n ↔ (∀ c ∈ cs, c.isDigit) ∧ Nat.ofDigitChars 10 cs acc = n ∧ n < bound := by
  induction cs generalizing acc with
  | nil =>
    simp only [parseBelow, Except.ok.injEq, List.not_mem_nil, false_implies, implies_true, Nat.ofDigitChars_nil,
      true_and]
    constructor
    · rintro rfl
      exact ⟨rfl, hacc⟩
    · exact fun h => h.1
  | cons c cs ih =>
    rw [parseBelow, digit_eq, Nat.ofDigitChars_cons, Nat.mul_comm 10]
    by_cases hc : c.isDigit
    · simp only [hc, if_true]
      by_cases hlt : acc * 10 + (c.toNat - '0'.toNat) < bound
      · rw [if_pos hlt, ih hlt]
        simp [hc]
      · have hle := le_ofDigitChars cs (acc * 10 + (c.toNat - '0'.toNat))
        rw [if_neg hlt]
        constructor
        · nofun
        · rintro ⟨-, hn, hbound⟩
          omega
    · simp [hc]

theorem parseBelow_zero_eq_ok (hne : cs ≠ []) (hb : 0 < bound) :
    parseBelow bound 0 cs = .ok n ↔ Digits n cs ∧ n < bound := by
  rw [parseBelow_eq_ok hb]
  exact ⟨fun ⟨hcs, hn, hlt⟩ => ⟨⟨hne, hcs, hn⟩, hlt⟩, fun ⟨h, hlt⟩ => ⟨h.digits, h.value, hlt⟩⟩

/-- **The numerals below the bound** are read as the numbers that they say, and nothing else is read. -/
theorem parseUnsigned_eq_ok (hb : 0 < bound) : parseUnsigned bound cs = .ok n ↔ Numeral n cs ∧ n < bound := by
  constructor
  · intro h
    unfold parseUnsigned at h
    split at h
    · cases h
    · cases h
    · cases h
    · rename_i cs hne
      obtain ⟨hd, hlt⟩ := (parseBelow_zero_eq_ok (fun hnil => hne (by rw [hnil])) hb).1 h
      exact ⟨.signed hd, hlt⟩
    · rename_i hnil _ _ _
      obtain ⟨hd, hlt⟩ := (parseBelow_zero_eq_ok hnil hb).1 h
      exact ⟨.plain hd, hlt⟩
  · rintro ⟨h | h, hlt⟩
    · have hplus := h.not_mem (c := '+') rfl
      have hminus := h.not_mem (c := '-') rfl
      have hne := h.ne_nil
      have hok := (parseBelow_zero_eq_ok hne hb).2 ⟨h, hlt⟩
      unfold parseUnsigned
      split <;> simp_all
    · rename_i ds
      have hne := h.ne_nil
      have hok := (parseBelow_zero_eq_ok hne hb).2 ⟨h, hlt⟩
      unfold parseUnsigned
      split <;> simp_all

end

/-! ## Cutting -/

variable {α : Type} [DecidableEq α]

def splitOnce (sep : α) : List α → Option (List α × List α)
  | [] => none
  | c :: cs => if c = sep then some ([], cs) else (splitOnce sep cs).map fun p => (c :: p.1, p.2)

/-- The cut is at the first separator. -/
theorem splitOnce_eq_some {sep : α} {cs u v : List α} :
    splitOnce sep cs = some (u, v) ↔ cs = u ++ sep :: v ∧ sep ∉ u := by
  induction cs generalizing u with
  | nil => simp [splitOnce]
  | cons c cs ih =>
    unfold splitOnce
    by_cases hc : c = sep
    · subst hc
      rw [if_pos rfl]
      cases u with
      | nil => simp [eq_comm]
      | cons x u =>
        simp only [Option.some.injEq, Prod.mk.injEq, List.cons_append, List.cons.injEq, List.mem_cons, not_or]
        constructor
        · rintro ⟨h, -⟩
          cases h
        · rintro ⟨⟨rfl, -⟩, hne, -⟩
          exact absurd rfl hne
    · rw [if_neg hc]
      cases u with
      | nil =>
        simp only [Option.map_eq_some_iff, Prod.mk.injEq, List.nil_append, List.cons.injEq]
        constructor
        · rintro ⟨_, -, h, -⟩
          cases h
        · rintro ⟨⟨rfl, -⟩, -⟩
          exact absurd rfl hc
      | cons x u =>
        have hmap : (splitOnce sep cs).map (fun p => (c :: p.1, p.2)) = some (x :: u, v) ↔
            c = x ∧ splitOnce sep cs = some (u, v) := by
          cases splitOnce sep cs <;> simp [Prod.ext_iff, and_assoc]
        rw [hmap, ih]
        simp only [List.cons_append, List.cons.injEq, List.mem_cons, not_or]
        constructor
        · rintro ⟨rfl, hcs, hu⟩
          exact ⟨⟨rfl, hcs⟩, Ne.symm hc, hu⟩
        · rintro ⟨⟨rfl, hcs⟩, -, hu⟩
          exact ⟨rfl, hcs, hu⟩

end Decimal
