import Glycerine.Interact.Task

/-!
# State machines behind a program

A machine says, phase by phase, which event may come next and which phase it leads to. A task runs on a
machine if every execution of it is a path of the machine that ends where the machine has returned the same
(`path_of_runs`); the invariants of its runs are then invariants of the machine (`Path.inv`), proved one
transition at a time and without the program.
-/
namespace Interact

/-- The machine of a task with errors in `ε` and results in `ρ`. -/
structure Machine (S : Sig) (ε ρ : Type) where
  Phase : Type
  start : Phase
  returned : Outcome ε ρ → Phase
  Step : Phase → Event S → Phase → Prop

namespace Machine
variable {S : Sig} {ε ε' ρ α β : Type} {M : Machine S ε ρ}

/-- The history `t` can lead to phase `p`. -/
inductive Path (M : Machine S ε ρ) : Trace S → M.Phase → Prop where
  | nil : Path M [] M.start
  | snoc {t p e p'} : Path M t p → M.Step p e p' → Path M (t ++ [e]) p'

/-- The invariant rule. -/
theorem Path.inv {E : Env S} {J : M.Phase → Trace S → Prop} (h₀ : J M.start [])
    (hs : ∀ {p e p' t}, M.Step p e p' → J p t → E.ok (t ++ [e]) → J p' (t ++ [e])) {t : Trace S} {p : M.Phase}
    (h : M.Path t p) (hE : E.ok t) : J p t := by
  induction h with
  | nil => exact h₀
  | snoc _ hst ih => exact hs hst (ih (E.ok_of_append hE)) hE

/-- Every event of a path is a step. -/
theorem Path.step_of_prefix {t u : Trace S} {e : Event S} {p : M.Phase} (h : M.Path t p) (hu : u ++ [e] <+: t) :
    ∃ q q', M.Path u q ∧ M.Step q e q' := by
  induction h with
  | nil => simp at hu
  | @snoc t p e' p' hp hst ih =>
    rcases List.prefix_concat_iff.1 hu with hu | hu
    · obtain ⟨rfl, he⟩ := List.append_inj' hu rfl
      cases he
      exact ⟨p, p', hp, hst⟩
    · exact ih hu

/-- The last event of a path is a step. -/
theorem Path.last {t : Trace S} {e : Event S} {p' : M.Phase} (h : M.Path (t ++ [e]) p') :
    ∃ p, M.Path t p ∧ M.Step p e p' := by
  generalize hu : t ++ [e] = u at h
  cases h with
  | nil => simp at hu
  | snoc hp hs =>
    obtain ⟨rfl, he⟩ := List.append_inj' hu rfl
    cases he
    exact ⟨_, hp, hs⟩

/-! ## From the middle of a path on -/

/-- The machine that starts in `p`. -/
abbrev after (M : Machine S ε ρ) (p : M.Phase) : Machine S ε ρ := { M with start := p }

theorem Path.split {u v : Trace S} {q : M.Phase} (h : M.Path (u ++ v) q) :
    ∃ p, M.Path u p ∧ (M.after p).Path v q := by
  generalize ht : u ++ v = t at h
  induction h generalizing v with
  | nil =>
    obtain ⟨rfl, rfl⟩ := List.append_eq_nil_iff.1 ht
    exact ⟨_, .nil, .nil⟩
  | snoc hp hs ih =>
    rcases List.eq_nil_or_concat v with rfl | ⟨v, e, rfl⟩
    · rw [List.append_nil] at ht
      exact ⟨_, ht ▸ .snoc hp hs, .nil⟩
    · rw [List.concat_eq_append, ← List.append_assoc] at ht
      obtain ⟨hu, he⟩ := List.append_inj' ht rfl
      cases he
      obtain ⟨p, hpu, hpv⟩ := ih hu
      rw [List.concat_eq_append]
      exact ⟨p, hpu, .snoc hpv hs⟩

/-- The sum of `w` over a history. -/
def total (w : Event S → Nat) : Trace S → Nat
  | [] => 0
  | e :: t => w e + total w t

theorem total_append {w : Event S → Nat} {t u : Trace S} : total w (t ++ u) = total w t + total w u := by
  induction t with
  | nil => simp [total]
  | cons e t ih => simp [total, ih, Nat.add_assoc]

theorem total_snoc {w : Event S → Nat} {t : Trace S} {e : Event S} : total w (t ++ [e]) = total w t + w e := by
  rw [total_append]
  rfl

theorem total_zero {t : Trace S} : total (fun _ => 0) t = 0 := by
  induction t with
  | nil => rfl
  | cons e t ih => exact (Nat.zero_add _).trans ih

theorem total_one {t : Trace S} : total (fun _ => 1) t = t.length := by
  induction t with
  | nil => rfl
  | cons e t ih => rw [total, ih, List.length_cons, Nat.add_comm]

theorem total_mul {c : Nat} {w : Event S → Nat} {t : Trace S} : total (fun e => c * w e) t = c * total w t := by
  induction t with
  | nil => rfl
  | cons e t ih => rw [total, total, ih, Nat.mul_add]

/-- The potential rule, for a machine that stays in `K`: what the events of a path cost is paid by what the phases
have left and by what the events gain. -/
theorem Path.spent_within {K : M.Phase → Prop} {R : Event S → Prop} {left : M.Phase → Nat} {c g : Event S → Nat}
    (hs : ∀ {p e p'}, M.Step p e p' → K p → R e → K p' ∧ c e + left p' ≤ left p + g e) (h₀ : K M.start)
    {t : Trace S} {p : M.Phase} (h : M.Path t p) (hR : ∀ e ∈ t, R e) :
    K p ∧ total c t + left p ≤ left M.start + total g t := by
  induction h with
  | nil => exact ⟨h₀, Nat.le_of_eq (Nat.add_comm _ _)⟩
  | snoc _ hst ih =>
    obtain ⟨hK, hle⟩ := ih fun x hx => hR x (List.mem_append_left _ hx)
    obtain ⟨hK', hstep⟩ := hs hst hK (hR _ (by simp))
    refine ⟨hK', ?_⟩
    rw [total_snoc, total_snoc]
    omega

/-- The same where nothing is gained, whatever the phase. -/
theorem Path.spent {R : Event S → Prop} {left : M.Phase → Nat} {cost : Event S → Nat}
    (hs : ∀ {p e p'}, M.Step p e p' → R e → cost e + left p' ≤ left p) {t : Trace S} {p : M.Phase}
    (h : M.Path t p) (hR : ∀ e ∈ t, R e) : total cost t + left p ≤ left M.start := by
  have hle := (h.spent_within (K := fun _ => True) (g := fun _ => 0) (fun hst _ he => ⟨trivial, hs hst he⟩) trivial
    hR).2
  rwa [total_zero] at hle

/-- The rule for what comes after: an event in `B` leads to a phase in `J`, and from there on there are only events
in `C`. -/
theorem Path.since {J : M.Phase → Prop} {R B C : Event S → Prop}
    (hs : ∀ {p e p'}, M.Step p e p' → R e → (B e → J p') ∧ (J p → C e ∧ J p')) {t : Trace S} {q : M.Phase}
    (h : M.Path t q) (hR : ∀ e ∈ t, R e) : ∀ {u e v}, t = u ++ e :: v → B e → J q ∧ ∀ x ∈ v, C x := by
  induction h with
  | nil =>
    intro u e v ht
    simp at ht
  | snoc _ hst ih =>
    intro u e v ht he
    have hlast := hR _ (List.mem_append_right _ (List.mem_singleton_self _))
    rcases List.eq_nil_or_concat v with rfl | ⟨v, x, rfl⟩
    · cases (List.append_inj' ht rfl).2
      exact ⟨(hs hst hlast).1 he, nofun⟩
    · rw [List.concat_eq_append, ← List.cons_append, ← List.append_assoc] at ht
      obtain ⟨hu, hx⟩ := List.append_inj' ht rfl
      cases hx
      obtain ⟨hj, hrest⟩ := ih (fun y hy => hR y (List.mem_append_left _ hy)) hu he
      obtain ⟨hc, hj'⟩ := (hs hst hlast).2 hj
      refine ⟨hj', fun y hy => ?_⟩
      rw [List.concat_eq_append] at hy
      rcases List.mem_append.1 hy with hy | hy
      · exact hrest y hy
      · rw [List.mem_singleton.1 hy]
        exact hc

/-! ## Conditions on each event -/

/-- Each event of the history satisfies `R`, which also sees the events before it. -/
def Throughout (R : Trace S → Event S → Prop) (t : Trace S) : Prop := ∀ u e, u ++ [e] <+: t → R u e

theorem throughout_nil {R : Trace S → Event S → Prop} : Throughout R [] := by
  intro u e h
  simp at h

theorem throughout_snoc {R : Trace S → Event S → Prop} {t : Trace S} {e : Event S} :
    Throughout R (t ++ [e]) ↔ Throughout R t ∧ R t e := by
  constructor
  · intro h
    exact ⟨fun u x hu => h u x (hu.trans (List.prefix_append _ _)), h t e (List.prefix_refl _)⟩
  · rintro ⟨h, he⟩ u x hu
    rcases List.prefix_concat_iff.1 hu with hu | hu
    · obtain ⟨rfl, hx⟩ := List.append_inj' hu rfl
      cases hx
      exact he
    · exact h u x hu

theorem throughout_iff_take {R : Trace S → Event S → Prop} {t : Trace S} :
    Throughout R t ↔ ∀ i (hi : i < t.length), R (t.take i) t[i] := by
  constructor
  · intro h i hi
    exact h _ _ (by rw [← List.take_succ_eq_append_getElem hi]; exact List.take_prefix _ _)
  · rintro h u e ⟨v, rfl⟩
    simpa using h u.length (by simp)

instance {R : Trace S → Event S → Prop} [∀ t e, Decidable (R t e)] {t : Trace S} : Decidable (Throughout R t) :=
  decidable_of_iff _ throughout_iff_take.symm

theorem throughout_of_forall {R : Event S → Prop} {t : Trace S} (h : ∀ e ∈ t, R e) :
    Throughout (fun _ e => R e) t :=
  fun _ e hu => h e (hu.subset (by simp))

/-- `R` holds of each event of `t`, after `u`. -/
def Stepwise (R : Trace S → Event S → Prop) : Trace S → Trace S → Prop
  | _, [] => True
  | u, e :: t => R u e ∧ Stepwise R (u ++ [e]) t

theorem throughout_append {R : Trace S → Event S → Prop} {u t : Trace S} (hu : Throughout R u)
    (ht : Stepwise R u t) :
    Throughout R (u ++ t) := by
  induction t generalizing u with
  | nil => simpa using hu
  | cons e t ih => simpa using ih (throughout_snoc.2 ⟨hu, ht.1⟩) ht.2

theorem Throughout.and {R R' : Trace S → Event S → Prop} {t : Trace S} (h : Throughout R t)
    (h' : Throughout R' t) :
    Throughout (fun t e => R t e ∧ R' t e) t := fun u e hu => ⟨h u e hu, h' u e hu⟩

/-- The environments that keep to `R` at every event. -/
def keeping (R : Trace S → Event S → Prop) : Env S :=
  ⟨Throughout R, fun h u e hu => h u e (hu.trans (List.prefix_append _ _))⟩

/-- `K` is exactly what the environment has to keep to for `R` to hold: as long as it does, the machine is in a
phase with `J`, and the first event against `K` is one against `R`. -/
theorem Path.exact {J : M.Phase → Trace S → Prop} {K R : Trace S → Event S → Prop} (h₀ : J M.start [])
    (hs : ∀ {p e p' t}, M.Step p e p' → J p t → K t e ∧ R t e ∧ J p' (t ++ [e]) ∨ ¬ K t e ∧ ¬ R t e)
    {t : Trace S} {p : M.Phase} (h : M.Path t p) : Throughout R t ↔ Throughout K t := by
  have key : Throughout K t ∧ Throughout R t ∧ J p t ∨ ¬ Throughout K t ∧ ¬ Throughout R t := by
    induction h with
    | nil => exact .inl ⟨throughout_nil, throughout_nil, h₀⟩
    | snoc _ hst ih =>
      simp only [throughout_snoc]
      rcases ih with ⟨hK, hR, hJ⟩ | ⟨hK, hR⟩
      · rcases hs hst hJ with ⟨hk, hr, hj⟩ | ⟨hk, hr⟩
        · exact .inl ⟨⟨hK, hk⟩, ⟨hR, hr⟩, hj⟩
        · exact .inr ⟨fun h => hk h.2, fun h => hr h.2⟩
      · exact .inr ⟨fun h => hK h.1, fun h => hR h.1⟩
  rcases key with ⟨hK, hR, -⟩ | ⟨hK, hR⟩
  · exact iff_of_true hR hK
  · exact iff_of_false hR hK

/-! ## Tasks on a machine -/

/-- Every history is allowed. -/
def anyEnv : Env S := ⟨fun _ => True, fun _ => trivial⟩

/-- The history `t` can lead to a phase in which the machine has not returned. -/
def Waits (M : Machine S ε ρ) (t : Trace S) : Prop := ∃ p, M.Path t p ∧ ∀ r, p ≠ M.returned r

/-- From a history that satisfies `P`, the executions of `p` are paths: they wait where the machine has not
returned, and end in `Q`. -/
abbrev Runs (M : Machine S ε ρ) (P : Trace S → Prop) (p : Prog S α) (Q : α → Trace S → Prop) : Prop :=
  Triple anyEnv M.Waits P p Q

/-- A part of the task succeeds with `R`, or the machine returns its failure. -/
abbrev Gives (M : Machine S ε ρ) (R : α → Trace S → Prop) : Outcome ε α → Trace S → Prop :=
  Outcome.post R (fun e t => M.Path t (M.returned (.err e))) fun t => M.Path t (M.returned .panic)

theorem runs_call {p : M.Phase} {op : S.Op} {k : S.Res op → Outcome ε' α}
    {Q : Outcome ε' α → Trace S → Prop}
    (hw : ∀ r, p ≠ M.returned r) (hs : ∀ t r, M.Path t p → Q (k r) (t ++ [⟨op, r⟩])) :
    M.Runs (fun t => M.Path t p) (Task.call op k) Q :=
  Task.triple_call (fun _ hp _ => ⟨p, hp, hw⟩) fun t r hp _ => hs t r hp

theorem runs_loop {σ : Type} {body : σ → Task S ε (Ctl σ α)} (J : σ → Trace S → Prop) {R : α → Trace S → Prop}
    (hb : ∀ s, M.Runs (J s) (body s) (M.Gives (Ctl.post J R))) (s : σ) :
    M.Runs (J s) (Task.loop body s) (M.Gives R) := Task.triple_loop (Q := M.Gives R) hb s

/-- Where the machine is, for a status of the task. -/
def Arrives (M : Machine S ε ρ) (t : Trace S) : Status S (Outcome ε ρ) → Prop
  | .asks _ => M.Waits t
  | .done r => M.Path t (M.returned r)

theorem Arrives.path {t : Trace S} {o : Status S (Outcome ε ρ)} (h : M.Arrives t o) : ∃ p, M.Path t p := by
  cases o with
  | asks op =>
    obtain ⟨p, hp, -⟩ := h
    exact ⟨p, hp⟩
  | done r => exact ⟨_, h⟩

/-- The executions of a task that runs on the machine are paths to where the machine has returned. -/
theorem path_of_runs {p : Task S ε ρ}
    (hr : M.Runs (fun t => M.Path t M.start) p (M.Gives fun a t => M.Path t (M.returned (.ok a))))
    {t : Trace S} {o : Status S (Outcome ε ρ)} (hx : Exec p t o) : M.Arrives t o := by
  have h := hr [] t o .nil hx trivial
  match o with
  | .asks _ => exact h
  | .done (.ok a) => exact h
  | .done (.err e) => exact h
  | .done .panic => exact h

end Machine
end Interact
