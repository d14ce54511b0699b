import Glycerine.Interact.Prog

/-!
# Programs that run at the same time

A joint history is an interleaving of the events of several programs, each with the name of its program; `part i` is
what program `i` has done. What the programs share (memory, a channel, the end of one that another waits for) is a
condition on each event and the joint history before it (`Always`). `Inevitable` is what such a system comes to, in
whatever order its programs go on.
-/
namespace Interact

variable {ι : Type} [DecidableEq ι] {S : Sig}

abbrev JointTrace (ι : Type) (S : Sig) := List (ι × Event S)

def part (i : ι) : JointTrace ι S → Trace S := List.flatMap fun x => if x.1 = i then [x.2] else []

section
variable {i : ι} {e : Event S} {g g' : JointTrace ι S}

@[simp] theorem part_nil : part i ([] : JointTrace ι S) = [] := rfl

@[simp] theorem part_append : part i (g ++ g') = part i g ++ part i g' := List.flatMap_append

@[simp] theorem part_cons_self : part i ((i, e) :: g) = e :: part i g := by
  simp [part]

theorem part_cons_other {j : ι} (h : j ≠ i) : part i ((j, e) :: g) = part i g := by
  simp [part, h]

theorem mem_part : e ∈ part i g ↔ (i, e) ∈ g := by
  unfold part
  rw [List.mem_flatMap]
  constructor
  · rintro ⟨⟨j, e'⟩, hmem, he⟩
    by_cases hj : j = i
    · rw [if_pos hj, List.mem_singleton] at he
      rw [← hj, he]
      exact hmem
    · rw [if_neg hj] at he
      cases he
  · exact fun h => ⟨(i, e), h, by simp⟩

theorem part_eq_nil (h : ∀ e, (i, e) ∉ g) : part i g = [] :=
  List.eq_nil_iff_forall_not_mem.2 fun e he => h e (mem_part.1 he)

/-- How much the programs in `l` have done together. -/
def lengths (g : JointTrace ι S) : List ι → Nat
  | [] => 0
  | i :: l => (part i g).length + lengths g l

/-- The joint history is as long as its parts are together. -/
theorem length_eq_lengths {l : List ι} (hl : l.Nodup) (hg : ∀ x ∈ g, x.1 ∈ l) : g.length = lengths g l := by
  have hone : ∀ (j : ι) (e : Event S) (g : JointTrace ι S) (l : List ι),
      lengths ((j, e) :: g) l = lengths g l + l.count j := by
    intro j e g l
    induction l with
    | nil => rfl
    | cons i l ih =>
      unfold lengths
      by_cases hij : j = i
      · subst hij
        rw [part_cons_self, List.count_cons_self, List.length_cons, ih]
        omega
      · rw [part_cons_other hij, List.count_cons_of_ne (Ne.symm hij), ih]
        omega
  induction g with
  | nil =>
    clear hl hg
    induction l with
    | nil => rfl
    | cons i l ih => exact ih.trans (Nat.zero_add _).symm
  | cons x g ih =>
    obtain ⟨j, e⟩ := x
    have hj : l.count j = 1 := by rw [hl.count, if_pos (hg (j, e) List.mem_cons_self)]
    rw [hone, ← ih fun x hx => hg x (List.mem_cons_of_mem _ hx), hj, List.length_cons]

end

/-! ## Systems of several groups -/

section
variable {κ : Type} [DecidableEq κ] {k : κ} {i : ι} {e : Event S} {d d' : JointTrace (κ × ι) S}

/-- What the programs of the group `k` have done. -/
def within (k : κ) : JointTrace (κ × ι) S → JointTrace ι S :=
  List.flatMap fun x => if x.1.1 = k then [(x.1.2, x.2)] else []

omit [DecidableEq ι] in
@[simp] theorem within_append : within k (d ++ d') = within k d ++ within k d' := List.flatMap_append

omit [DecidableEq ι] in
@[simp] theorem within_cons_self : within k (((k, i), e) :: d) = (i, e) :: within k d := by
  simp [within]

omit [DecidableEq ι] in
theorem within_cons_other {j : κ} (h : j ≠ k) : within k (((j, i), e) :: d) = within k d := by
  simp [within, h]

theorem part_within : part i (within k d) = part (k, i) d := by
  induction d with
  | nil => rfl
  | cons x d ih =>
    obtain ⟨⟨k', i'⟩, e⟩ := x
    by_cases hk : k' = k
    · subst hk
      rw [within_cons_self]
      by_cases hi : i' = i
      · subst hi
        rw [part_cons_self, part_cons_self, ih]
      · rw [part_cons_other hi, part_cons_other (by simp [hi]), ih]
    · rw [within_cons_other hk, part_cons_other (by simp [hk]), ih]

end

/-! ## Conditions on each event -/

section
variable {α : Type} {R : List α → α → Prop} {u v : List α} {x : α}

/-- Each element satisfies `R`, which also sees those before it. -/
def Always (R : List α → α → Prop) (g : List α) : Prop := ∀ u x v, g = u ++ x :: v → R u x

theorem Always.left (h : Always R (u ++ v)) : Always R u := fun u' x v' hu => h u' x (v' ++ v) (by simp [hu])

theorem always_snoc : Always R (u ++ [x]) ↔ Always R u ∧ R u x := by
  constructor
  · exact fun h => ⟨h.left, h u x [] rfl⟩
  · rintro ⟨hu, hx⟩ u' y v' heq
    rcases List.eq_nil_or_concat v' with rfl | ⟨w, z, rfl⟩
    · obtain ⟨rfl, hy⟩ := List.append_inj' heq rfl
      cases hy
      exact hx
    · rw [List.concat_eq_append, ← List.cons_append, ← List.append_assoc] at heq
      exact hu u' y w (List.append_inj' heq rfl).1

theorem always_iff_take {g : List α} : Always R g ↔ ∀ i (hi : i < g.length), R (g.take i) g[i] := by
  constructor
  · intro h i hi
    refine h _ _ (g.drop (i + 1)) ?_
    rw [List.getElem_cons_drop, List.take_append_drop]
  · rintro h u x v rfl
    simpa using h u.length (by simp)

instance {g : List α} [∀ u x, Decidable (R u x)] : Decidable (Always R g) := decidable_of_iff _ always_iff_take.symm

theorem Always.mono {R' : List α → α → Prop} {g : List α} (h : Always R g) (hR : ∀ u x, R u x → R' u x) :
    Always R' g := fun u x v hg => hR u x (h u x v hg)

/-- The first element with `P`. -/
theorem exists_first {P : α → Prop} [DecidablePred P] : ∀ {g : List α}, (∃ x ∈ g, P x) →
    ∃ u x v, g = u ++ x :: v ∧ P x ∧ ∀ y ∈ u, ¬ P y
  | [], ⟨x, hx, _⟩ => absurd hx List.not_mem_nil
  | y :: g, h => by
    by_cases hy : P y
    · exact ⟨[], y, g, rfl, hy, fun _ hz => absurd hz List.not_mem_nil⟩
    · have hrest : ∃ x ∈ g, P x := by
        obtain ⟨x, hx, hp⟩ := h
        rcases List.mem_cons.1 hx with rfl | hx
        · exact absurd hp hy
        · exact ⟨x, hx, hp⟩
      obtain ⟨u, x, v, rfl, hx, hu⟩ := exists_first hrest
      refine ⟨y :: u, x, v, rfl, hx, fun z hz => ?_⟩
      rcases List.mem_cons.1 hz with rfl | hz
      · exact hy
      · exact hu z hz

end

/-! ## What a system comes to -/

section
variable {α : Type} {R : List α → Prop} {A : α → Prop} {E D : List α → Prop} {n : Nat}

/-- Of the steps after `v` there are at most `n` until `D` holds, whichever they are as long as they keep to `E`; and
until then there is always one in `A`. -/
inductive Inevitable (R : List α → Prop) (A : α → Prop) (E D : List α → Prop) : Nat → List α → Prop where
  | now {n v} : D v → Inevitable R A E D n v
  | later {n v} : (∃ x, A x ∧ R (v ++ [x])) →
    (∀ x, R (v ++ [x]) → E (v ++ [x]) → Inevitable R A E D n (v ++ [x])) → Inevitable R A E D (n + 1) v

/-- The induction is on the number of steps that are left. -/
theorem inevitable_of_length (hlen : ∀ v, R v → E v → v.length ≤ n) (hgo : ∀ v, R v → D v ∨ ∃ x, A x ∧ R (v ++ [x]))
    (hR : R []) : Inevitable R A E D (n + 1) [] := by
  have from_here : ∀ (m : Nat) (v : List α), v.length + m = n → R v → Inevitable R A E D (m + 1) v := by
    intro m
    induction m with
    | zero =>
      intro v hv hr
      rcases hgo v hr with hd | hx
      · exact .now hd
      · refine .later hx fun x hr' hE => ?_
        have hle := hlen _ hr' hE
        rw [List.length_append, List.length_singleton] at hle
        omega
    | succ m ih =>
      intro v hv hr
      rcases hgo v hr with hd | hx
      · exact .now hd
      · refine .later hx fun x hr' _ => ih _ ?_ hr'
        rw [List.length_append, List.length_singleton]
        omega
  exact from_here n [] (Nat.zero_add n) hR

end
end Interact
