import Glycerine.Json.Grammar

/-!
# Printing JSON

Compact JSON, without a space and with no more escapes than there must be, as `serde_json` prints it. What is
printed is in the grammar: `derives_string`, `derives_int`, `derives_array` and `derives_object`.
-/
namespace Json

/-! ## Strings -/

def hexDigit (n : UInt8) : UInt8 := if n < 10 then 0x30 + n else 0x57 + n

def escapeByte (b : UInt8) : Text :=
  if b = 0x22 then [0x5c, 0x22]
  else if b = 0x5c then [0x5c, 0x5c]
  else if b = 0x08 then [0x5c, 0x62]
  else if b = 0x09 then [0x5c, 0x74]
  else if b = 0x0a then [0x5c, 0x6e]
  else if b = 0x0c then [0x5c, 0x66]
  else if b = 0x0d then [0x5c, 0x72]
  else if b < 0x20 then [0x5c, 0x75, 0x30, 0x30, hexDigit (b / 16), hexDigit (b % 16)]
  else [b]

def string (s : String) : Text := quoted (s.toUTF8.data.toList.flatMap escapeByte)

theorem isHex_hexDigit {n : UInt8} (h : n < 16) : isHex (hexDigit n) = true := by
  have hn : n.toNat < 16 := UInt8.lt_iff_toNat_lt.1 h
  unfold hexDigit
  by_cases hlt : n < 10
  · have hlt' : n.toNat < 10 := UInt8.lt_iff_toNat_lt.1 hlt
    rw [if_pos hlt]
    simp [isHex, isDigit, UInt8.le_iff_toNat_le]
    omega
  · have hge : ¬ n.toNat < 10 := fun hx => hlt (UInt8.lt_iff_toNat_lt.2 hx)
    rw [if_neg hlt]
    simp [isHex, isDigit, UInt8.le_iff_toNat_le]
    omega

theorem Chars.append {t u : Text} (ht : Chars t) (hu : Chars u) : Chars (t ++ u) := by
  induction ht with
  | nil => exact hu
  | plain h₁ h₂ h₃ _ ih => exact .plain h₁ h₂ h₃ ih
  | escape h _ ih => exact .escape h ih
  | unicode ha hb hc hd _ ih => exact .unicode ha hb hc hd ih

theorem chars_escapeByte (b : UInt8) : Chars (escapeByte b) := by
  unfold escapeByte
  split
  · exact .escape rfl .nil
  split
  · exact .escape rfl .nil
  split
  · exact .escape rfl .nil
  split
  · exact .escape rfl .nil
  split
  · exact .escape rfl .nil
  split
  · exact .escape rfl .nil
  split
  · exact .escape rfl .nil
  split
  · refine .unicode rfl rfl (isHex_hexDigit ?_) (isHex_hexDigit ?_) .nil
    · rw [UInt8.lt_iff_toNat_lt, UInt8.toNat_div]
      have := b.toNat_lt
      simp
      omega
    · rw [UInt8.lt_iff_toNat_lt, UInt8.toNat_mod]
      simp
      omega
  · rename_i hquote hback _ _ _ _ _ hspace
    exact .plain (UInt8.not_lt.1 hspace) hquote hback .nil

theorem chars_flatMap (bs : List UInt8) : Chars (bs.flatMap escapeByte) := by
  induction bs with
  | nil => exact .nil
  | cons b bs ih => exact (chars_escapeByte b).append ih

theorem derives_string (s : String) : Derives .value (string s) := .string (chars_flatMap _)

/-! ## Integers -/

def nat (n : Nat) : Text := (Nat.toDigits 10 n).map fun c => UInt8.ofNat c.toNat

def int : Int → Text
  | .ofNat n => nat n
  | .negSucc n => 0x2d :: nat (n + 1)

/-- The first digit of a number is not zero, unless the number is. -/
theorem head_nat {n : Nat} (h : 0 < n) : (nat n).head? ≠ some 0x30 := by
  induction n using Nat.strongRecOn with
  | ind n ih =>
    unfold nat at ih ⊢
    by_cases hlt : n < 10
    · rw [Nat.toDigits_of_lt_base hlt]
      intro heq
      have hbyte : (UInt8.ofNat n.digitChar.toNat).toNat = (0x30 : UInt8).toNat :=
        congrArg UInt8.toNat (Option.some.inj heq)
      rw [Nat.toNat_digitChar_of_lt_ten hlt, UInt8.toNat_ofNat'] at hbyte
      have h48 : (0x30 : UInt8).toNat = 48 := rfl
      omega
    · rw [Nat.toDigits_of_base_le (by decide) (by omega), List.map_append]
      have hrec := ih (n / 10) (by omega) (by omega)
      cases hds : Nat.toDigits 10 (n / 10) with
      | nil => exact absurd hds (by simp)
      | cons c cs =>
        rw [hds] at hrec
        exact hrec

theorem digits_nat (n : Nat) : Digits (nat n) := by
  refine ⟨by simp [nat], fun b hb => ?_⟩
  obtain ⟨c, hc, rfl⟩ := List.mem_map.1 hb
  have hdigit := Nat.isDigit_of_mem_toDigits (by decide) (by decide) hc
  simp only [Char.isDigit, Bool.and_eq_true, decide_eq_true_eq, ge_iff_le, UInt32.le_iff_toNat_le] at hdigit
  have hlow : 48 ≤ c.toNat := hdigit.1
  have hhigh : c.toNat ≤ 57 := hdigit.2
  simp only [isDigit, Bool.and_eq_true, decide_eq_true_eq, UInt8.le_iff_toNat_le, UInt8.toNat_ofNat']
  constructor
  · show 48 ≤ _
    omega
  · show _ ≤ 57
    omega

theorem whole_nat (n : Nat) : Whole (nat n) := by
  refine ⟨digits_nat n, fun h => ?_⟩
  by_cases h0 : n = 0
  · subst h0
    rfl
  · exact absurd h (head_nat (Nat.pos_of_ne_zero h0))

theorem derives_int (n : Int) : Derives .value (int n) := by
  cases n with
  | ofNat n => exact .number ⟨[], nat n, [], [], .inl rfl, whole_nat n, .inl rfl, .inl rfl, by simp [int]⟩
  | negSucc n =>
    exact .number ⟨[0x2d], nat (n + 1), [], [], .inr rfl, whole_nat (n + 1), .inl rfl, .inl rfl, by simp [int]⟩

/-! ## Arrays and objects -/

def array (items : List Text) : Text := 0x5b :: [0x2c].intercalate items ++ [0x5d]

def object (fields : List (String × Text)) : Text :=
  0x7b :: [0x2c].intercalate (fields.map fun f => string f.1 ++ 0x3a :: f.2) ++ [0x7d]

/-- A value is an element without whitespace. -/
theorem Derives.asElement {t : Text} (h : Derives .value t) : Document t := by
  have he : Document ([] ++ t ++ []) := .element nofun h nofun
  simpa using he

theorem derives_elements {t : Text} {items : List Text} (h : ∀ u ∈ t :: items, Derives .value u) :
    Derives .elements ([0x2c].intercalate (t :: items)) := by
  induction items generalizing t with
  | nil => simpa [List.intercalate] using Derives.lastElement (h t (by simp)).asElement
  | cons u items ih =>
    have hrest := ih (t := u) fun v hv => h v (by simp [List.mem_cons.1 hv])
    have hcons : [0x2c].intercalate (t :: u :: items) = t ++ 0x2c :: [0x2c].intercalate (u :: items) := by
      simp [List.intercalate]
    rw [hcons]
    exact .elements (h t (by simp)).asElement hrest

theorem derives_array {items : List Text} (h : ∀ t ∈ items, Derives .value t) : Derives .value (array items) := by
  cases items with
  | nil => exact .emptyArray nofun
  | cons t items => exact .array (derives_elements h)

theorem derives_member {k : String} {t : Text} (h : Derives .value t) :
    Derives .member (string k ++ 0x3a :: t) := by
  have hm : Derives .member ([] ++ quoted (k.toUTF8.data.toList.flatMap escapeByte) ++ [] ++ 0x3a :: t) :=
    .member nofun (chars_flatMap _) nofun h.asElement
  rw [List.nil_append, List.append_nil] at hm
  exact hm

theorem derives_members {t : Text} {fields : List Text} (h : ∀ u ∈ t :: fields, Derives .member u) :
    Derives .members ([0x2c].intercalate (t :: fields)) := by
  induction fields generalizing t with
  | nil => simpa [List.intercalate] using Derives.lastMember (h t (by simp))
  | cons u fields ih =>
    have hrest := ih (t := u) fun v hv => h v (by simp [List.mem_cons.1 hv])
    have hcons : [0x2c].intercalate (t :: u :: fields) = t ++ 0x2c :: [0x2c].intercalate (u :: fields) := by
      simp [List.intercalate]
    rw [hcons]
    exact .members (h t (by simp)) hrest

theorem derives_object {fields : List (String × Text)} (h : ∀ f ∈ fields, Derives .value f.2) :
    Derives .value (object fields) := by
  unfold object
  cases fields with
  | nil => exact .emptyObject nofun
  | cons f fields =>
    refine .object (derives_members fun u hu => ?_)
    have hu' : u ∈ (f :: fields).map fun f => string f.1 ++ 0x3a :: f.2 := hu
    obtain ⟨g, hg, rfl⟩ := List.mem_map.1 hu'
    exact derives_member (h g hg)

theorem derives_object_pair {k l : String} {t u : Text} (ht : Derives .value t) (hu : Derives .value u) :
    Derives .value (object [(k, t), (l, u)]) := by
  refine derives_object fun f hf => ?_
  rcases List.mem_cons.1 hf with rfl | hf
  · exact ht
  · rw [List.mem_singleton.1 hf]
    exact hu

example : object [("a", int (-12)), ("b", array [string "x\"y", nat 0])] =
    "\x7b\"a\":-12,\"b\":[\"x\\\"y\",0]\x7d".toUTF8.data.toList := by decide +kernel

end Json
