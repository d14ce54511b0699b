/-!
# JSON texts

The grammar of JSON over bytes, and what it says about the beginnings of a text: brackets close in the order they
were opened (`Derives.balanced`), so a text that begins with a brace is not complete before its last byte
(`Derives.not_document_of_strict`). Whether the bytes of a string are UTF-8 is not part of the grammar.
-/
namespace Json

abbrev Text := List UInt8

def isSpace (b : UInt8) : Bool := b == 0x20 || b == 0x09 || b == 0x0a || b == 0x0d

def isDigit (b : UInt8) : Bool := 0x30 ≤ b && b ≤ 0x39

def isHex (b : UInt8) : Bool := isDigit b || 0x61 ≤ b && b ≤ 0x66 || 0x41 ≤ b && b ≤ 0x46

/-- The characters that may follow a backslash on their own. -/
def isEscape (b : UInt8) : Bool :=
  b == 0x22 || b == 0x5c || b == 0x2f || b == 0x62 || b == 0x66 || b == 0x6e || b == 0x72 || b == 0x74

/-! ## Numbers and strings -/

def Digits (t : Text) : Prop := t ≠ [] ∧ ∀ b ∈ t, isDigit b = true

/-- No leading zero. -/
def Whole (t : Text) : Prop := Digits t ∧ (t.head? = some 0x30 → t = [0x30])

def Fraction (t : Text) : Prop := t = [] ∨ ∃ ds, Digits ds ∧ t = 0x2e :: ds

def Exponent (t : Text) : Prop :=
  t = [] ∨ ∃ e sign ds, (e = 0x65 ∨ e = 0x45) ∧ (sign = [] ∨ sign = [0x2b] ∨ sign = [0x2d]) ∧ Digits ds ∧
    t = e :: (sign ++ ds)

def Number (t : Text) : Prop :=
  ∃ sign whole fraction exponent, (sign = [] ∨ sign = [0x2d]) ∧ Whole whole ∧ Fraction fraction ∧
    Exponent exponent ∧ t = sign ++ whole ++ fraction ++ exponent

/-- What stands between the quotes of a string. -/
inductive Chars : Text → Prop where
  | nil : Chars []
  | plain {b t} : 0x20 ≤ b → b ≠ 0x22 → b ≠ 0x5c → Chars t → Chars (b :: t)
  | escape {b t} : isEscape b = true → Chars t → Chars (0x5c :: b :: t)
  | unicode {a b c d t} : isHex a = true → isHex b = true → isHex c = true → isHex d = true → Chars t →
    Chars (0x5c :: 0x75 :: a :: b :: c :: d :: t)

def quoted (t : Text) : Text := 0x22 :: t ++ [0x22]

def Space (t : Text) : Prop := ∀ b ∈ t, isSpace b = true

/-! ## The grammar -/

inductive Symbol where
  | value | element | elements | member | members

inductive Derives : Symbol → Text → Prop where
  | null : Derives .value [0x6e, 0x75, 0x6c, 0x6c]
  | true : Derives .value [0x74, 0x72, 0x75, 0x65]
  | false : Derives .value [0x66, 0x61, 0x6c, 0x73, 0x65]
  | number {t} : Number t → Derives .value t
  | string {t} : Chars t → Derives .value (quoted t)
  | emptyArray {t} : Space t → Derives .value (0x5b :: t ++ [0x5d])
  | array {t} : Derives .elements t → Derives .value (0x5b :: t ++ [0x5d])
  | emptyObject {t} : Space t → Derives .value (0x7b :: t ++ [0x7d])
  | object {t} : Derives .members t → Derives .value (0x7b :: t ++ [0x7d])
  | element {u t v} : Space u → Derives .value t → Space v → Derives .element (u ++ t ++ v)
  | lastElement {t} : Derives .element t → Derives .elements t
  | elements {t u} : Derives .element t → Derives .elements u → Derives .elements (t ++ 0x2c :: u)
  | member {u k v t} : Space u → Chars k → Space v → Derives .element t →
    Derives .member (u ++ quoted k ++ v ++ 0x3a :: t)
  | lastMember {t} : Derives .member t → Derives .members t
  | members {t u} : Derives .member t → Derives .members u → Derives .members (t ++ 0x2c :: u)

/-- A complete JSON document: one value, and whitespace around it. -/
abbrev Document (t : Text) : Prop := Derives .element t

theorem Number.ne_nil {t : Text} (h : Number t) : t ≠ [] := by
  obtain ⟨sign, whole, fraction, exponent, -, ⟨⟨hne, -⟩, -⟩, -, -, rfl⟩ := h
  simp [hne]

theorem Derives.ne_nil {k : Symbol} {t : Text} (h : Derives k t) : t ≠ [] := by
  induction h with
  | number hn => exact hn.ne_nil
  | element _ _ _ ih => simp [ih]
  | lastElement _ ih | lastMember _ ih => exact ih
  | _ => simp [quoted]

/-! ## Brackets -/

inductive Mode where
  | text | string | escape
deriving DecidableEq

/-- One byte further: where in a text one is, and how many brackets are open. A bracket that closes none is an
error. -/
def scanStep : Mode × Nat → UInt8 → Option (Mode × Nat)
  | (.text, d), b =>
    if b = 0x22 then some (.string, d)
    else if b = 0x7b ∨ b = 0x5b then some (.text, d + 1)
    else if b = 0x7d ∨ b = 0x5d then (if d = 0 then none else some (.text, d - 1))
    else some (.text, d)
  | (.string, d), b =>
    if b = 0x22 then some (.text, d) else if b = 0x5c then some (.escape, d) else some (.string, d)
  | (.escape, d), _ => some (.string, d)

def scan : Mode × Nat → Text → Option (Mode × Nat)
  | s, [] => some s
  | s, b :: t => (scanStep s b).bind (scan · t)

theorem scan_append (s : Mode × Nat) (t u : Text) : scan s (t ++ u) = (scan s t).bind (scan · u) := by
  induction t generalizing s with
  | nil => rfl
  | cons b t ih =>
    simp only [List.cons_append, scan, Option.bind_assoc]
    cases scanStep s b with
    | none => rfl
    | some s' => exact ih s'

/-- One more bracket is open all the time. -/
theorem scanStep_succ {m m' : Mode} {d d' : Nat} {b : UInt8} (h : scanStep (m, d) b = some (m', d')) :
    scanStep (m, d + 1) b = some (m', d' + 1) := by
  cases m with
  | text =>
    simp only [scanStep] at h ⊢
    by_cases h₁ : b = 0x22
    · simp_all
    by_cases h₂ : b = 0x7b ∨ b = 0x5b
    · simp_all
    by_cases h₃ : b = 0x7d ∨ b = 0x5d
    · rw [if_neg h₁, if_neg h₂, if_pos h₃] at h ⊢
      by_cases hd : d = 0
      · rw [if_pos hd] at h
        cases h
      · rw [if_neg hd] at h
        rw [if_neg (Nat.succ_ne_zero d)]
        cases h
        rw [Nat.add_sub_cancel, Nat.sub_add_cancel (Nat.pos_of_ne_zero hd)]
    · simp_all
  | string =>
    simp only [scanStep] at h ⊢
    by_cases h₁ : b = 0x22
    · simp_all
    by_cases h₂ : b = 0x5c
    · simp_all
    · simp_all
  | escape =>
    cases h
    rfl

theorem scan_succ {m m' : Mode} {d d' : Nat} {t : Text} (h : scan (m, d) t = some (m', d')) :
    scan (m, d + 1) t = some (m', d' + 1) := by
  induction t generalizing m d with
  | nil =>
    cases h
    rfl
  | cons b t ih =>
    obtain ⟨⟨m₁, d₁⟩, hs, ht⟩ := Option.bind_eq_some_iff.1 h
    exact Option.bind_eq_some_iff.2 ⟨(m₁, d₁ + 1), scanStep_succ hs, ih ht⟩

/-- Every bracket of the text is closed in it. -/
def Balanced (t : Text) : Prop := ∀ d, scan (.text, d) t = some (.text, d)

/-- Neither a bracket nor a quote. -/
def isNeutral (b : UInt8) : Bool := b != 0x22 && b != 0x7b && b != 0x5b && b != 0x7d && b != 0x5d

theorem Balanced.append {t u : Text} (ht : Balanced t) (hu : Balanced u) : Balanced (t ++ u) := by
  intro d
  rw [scan_append, ht d]
  exact hu d

theorem balanced_of_neutral {t : Text} (h : t.all isNeutral = true) : Balanced t := by
  intro d
  induction t with
  | nil => rfl
  | cons b t ih =>
    rw [List.all_cons, Bool.and_eq_true] at h
    have hb := h.1
    simp only [isNeutral, Bool.and_eq_true, bne_iff_ne] at hb
    have hstep : scanStep (.text, d) b = some (.text, d) := by
      simp [scanStep, hb]
    rw [scan, hstep]
    exact ih h.2

/-- Between the quotes nothing is a bracket. -/
theorem scan_chars {t : Text} (h : Chars t) (d : Nat) : scan (.string, d) t = some (.string, d) := by
  have hplain : ∀ {b : UInt8} {u : Text}, b ≠ 0x22 → b ≠ 0x5c →
      scan (.string, d) (b :: u) = scan (.string, d) u := by
    intro b u h₁ h₂
    simp [scan, scanStep, h₁, h₂]
  have hhex : ∀ {b : UInt8} {u : Text}, isHex b = true → scan (.string, d) (b :: u) = scan (.string, d) u := by
    intro b u hb
    refine hplain ?_ ?_ <;>
    · rintro rfl
      exact absurd hb (by decide)
  induction h with
  | nil => rfl
  | plain _ h₁ h₂ _ ih => exact (hplain h₁ h₂).trans ih
  | escape _ _ ih => exact ih
  | @unicode a b c e t ha hb hc he _ ih =>
    show scan (.string, d) (a :: b :: c :: e :: t) = _
    rw [hhex ha, hhex hb, hhex hc, hhex he]
    exact ih

theorem balanced_quoted {t : Text} (h : Chars t) : Balanced (quoted t) := by
  intro d
  show scan (.string, d) (t ++ [0x22]) = _
  rw [scan_append, scan_chars h]
  rfl

theorem Balanced.bracket {t : Text} (h : Balanced t) : Balanced (0x5b :: t ++ [0x5d]) := by
  intro d
  show scan (.text, d + 1) (t ++ [0x5d]) = _
  rw [scan_append, h (d + 1)]
  rfl

theorem Balanced.brace {t : Text} (h : Balanced t) : Balanced (0x7b :: t ++ [0x7d]) := by
  intro d
  show scan (.text, d + 1) (t ++ [0x7d]) = _
  rw [scan_append, h (d + 1)]
  rfl

theorem neutral_of_digit {b : UInt8} (h : isDigit b = true) : isNeutral b = true := by
  simp only [isDigit, Bool.and_eq_true, decide_eq_true_eq] at h
  simp only [isNeutral, Bool.and_eq_true, bne_iff_ne]
  refine ⟨⟨⟨⟨?_, ?_⟩, ?_⟩, ?_⟩, ?_⟩ <;>
  · rintro rfl
    exact absurd h (by decide)

theorem Space.balanced {t : Text} (h : Space t) : Balanced t := by
  refine balanced_of_neutral (List.all_eq_true.2 fun b hb => ?_)
  have hs := h b hb
  simp only [isSpace, Bool.or_eq_true, beq_iff_eq] at hs
  rcases hs with ((rfl | rfl) | rfl) | rfl <;> rfl

theorem Digits.balanced {t : Text} (h : Digits t) : Balanced t :=
  balanced_of_neutral (List.all_eq_true.2 fun b hb => neutral_of_digit (h.2 b hb))

theorem Number.balanced {t : Text} (h : Number t) : Balanced t := by
  obtain ⟨sign, whole, fraction, exponent, hs, hw, hf, he, rfl⟩ := h
  have hsign : Balanced sign := by
    rcases hs with rfl | rfl
    · exact balanced_of_neutral rfl
    · exact balanced_of_neutral rfl
  have hfraction : Balanced fraction := by
    rcases hf with rfl | ⟨ds, hds, rfl⟩
    · exact balanced_of_neutral rfl
    · exact Balanced.append (t := [0x2e]) (balanced_of_neutral rfl) hds.balanced
  have hexponent : Balanced exponent := by
    rcases he with rfl | ⟨e, sign, ds, he, hs, hds, rfl⟩
    · exact balanced_of_neutral rfl
    · refine Balanced.append (t := [e]) ?_ (Balanced.append ?_ hds.balanced)
      · rcases he with rfl | rfl <;> exact balanced_of_neutral rfl
      · rcases hs with rfl | rfl | rfl <;> exact balanced_of_neutral rfl
  exact ((hsign.append hw.1.balanced).append hfraction).append hexponent

/-- A comma or a colon between two parts. -/
theorem Balanced.separated {t u : Text} {b : UInt8} (hb : isNeutral b = true) (ht : Balanced t)
    (hu : Balanced u) :
    Balanced (t ++ b :: u) :=
  ht.append (Balanced.append (t := [b]) (balanced_of_neutral (by simpa using hb)) hu)

theorem Derives.balanced {k : Symbol} {t : Text} (h : Derives k t) : Balanced t := by
  induction h with
  | null | true | false => exact balanced_of_neutral rfl
  | number hn => exact hn.balanced
  | string hc => exact balanced_quoted hc
  | emptyArray hs => exact hs.balanced.bracket
  | array _ ih => exact ih.bracket
  | emptyObject hs => exact hs.balanced.brace
  | object _ ih => exact ih.brace
  | element hu _ hv ih => exact (hu.balanced.append ih).append hv.balanced
  | lastElement _ ih | lastMember _ ih => exact ih
  | elements _ _ iht ihu | members _ _ iht ihu => exact iht.separated rfl ihu
  | member hu hk hv _ ih => exact ((hu.balanced.append (balanced_quoted hk)).append hv.balanced).separated rfl ih

/-! ## Beginnings of objects -/

/-- What is between the braces of an object. -/
theorem Derives.inside {t : Text} (h : Derives .value t) (hb : t.head? = some 0x7b) :
    ∃ u, Balanced u ∧ t = 0x7b :: u ++ [0x7d] := by
  cases h with
  | emptyObject hs => exact ⟨_, hs.balanced, rfl⟩
  | object hm => exact ⟨_, hm.balanced, rfl⟩
  | number hn =>
    obtain ⟨sign, whole, fraction, exponent, hs, ⟨⟨hne, hd⟩, -⟩, -, -, rfl⟩ := hn
    rcases hs with rfl | rfl
    · obtain ⟨b, ds, rfl⟩ := List.exists_cons_of_ne_nil hne
      cases hb
      exact absurd (hd 0x7b (by simp)) (by decide)
    · cases hb
  | _ => cases hb

/-- **An object has no beginning that is a document.** -/
theorem Derives.not_document_of_strict {t p : Text} (h : Derives .value t) (hb : t.head? = some 0x7b)
    (hp : p <+: t) (hne : p ≠ t) : ¬ Document p := by
  obtain ⟨u, hu, rfl⟩ := h.inside hb
  intro hd
  match p, hp with
  | [], _ => exact hd.ne_nil rfl
  | b :: q, hp =>
    obtain ⟨rfl, hq⟩ := List.cons_prefix_cons.1 hp
    rcases List.prefix_concat_iff.1 hq with rfl | ⟨v, rfl⟩
    · exact hne rfl
    -- the brace is still open after `q`
    have hscan := hu 0
    rw [scan_append] at hscan
    obtain ⟨⟨m, d⟩, hq, -⟩ := Option.bind_eq_some_iff.1 hscan
    have hopen : scan (.text, 0) (0x7b :: q) = some (m, d + 1) := scan_succ hq
    rw [hd.balanced 0] at hopen
    cases hopen

end Json
