/-!
# Programs that talk to their environment

A program performs operations of a signature `S`; an operation is answered by the environment, about
which nothing is fixed here. `Exec p t o` is the only semantics: `t` is the list of the operations performed
so far, each with its answer, and `o` says what `p` does after them, either wait for the answer to one more
operation (`asks`) or return (`done`). The loops are iterated as often as the answers make them, without
fuel, so `Exec` covers every finite prefix of every run, infinite ones included; a loop that spins without
performing an operation has no execution.

Over `Exec` there are three ways to reason:

* `Only`: which operations a program can perform at all (`exec_only`);
* `Triple`: what holds whenever the program waits and when it returns, for all answers an environment may
  give (`triple_bind`, `triple_loop`);
* `Halts` (`Interact/Drive.lean`): where one environment that answers by a function takes it.
-/
namespace Interact

/-- The operations a program may perform, each with the type of its answers. -/
structure Sig where
  Op : Type
  Res : Op → Type

/-- What one iteration of a loop decides: go round again from a new state, or leave with a value. -/
inductive Ctl (σ β : Type) where
  | next (s : σ)
  | stop (b : β)
deriving DecidableEq, Repr

inductive Prog (S : Sig) : Type → Type 1 where
  | pure {α : Type} (a : α) : Prog S α
  | call {α : Type} (op : S.Op) (k : S.Res op → α) : Prog S α
  | bind {α β : Type} (p : Prog S β) (f : β → Prog S α) : Prog S α
  | loop {α σ : Type} (body : σ → Prog S (Ctl σ α)) (s : σ) : Prog S α

/-- An operation together with its answer. -/
abbrev Event (S : Sig) := (op : S.Op) × S.Res op

abbrev Trace (S : Sig) := List (Event S)

/-- What a program does next: it waits for the answer to `op`, or it has returned. -/
inductive Status (S : Sig) (α : Type) where
  | asks (op : S.Op)
  | done (a : α)

variable {S : Sig} {α β σ : Type}

/-- The executions of a loop, from the executions `B` of its body. -/
inductive Iter (B : σ → Trace S → Status S (Ctl σ β) → Prop) : σ → Trace S → Status S β → Prop where
  | inside {s t op} : B s t (.asks op) → Iter B s t (.asks op)
  | again {s s' t₁ t₂ o} : B s t₁ (.done (.next s')) → Iter B s' t₂ o → Iter B s (t₁ ++ t₂) o
  | leave {s t b} : B s t (.done (.stop b)) → Iter B s t (.done b)

def Exec {α : Type} : Prog S α → Trace S → Status S α → Prop
  | .pure a, t, o => t = [] ∧ o = .done a
  | .call op k, t, o => (t = [] ∧ o = .asks op) ∨ ∃ r, t = [⟨op, r⟩] ∧ o = .done (k r)
  | .bind p f, t, o =>
    (∃ op, o = .asks op ∧ Exec p t (.asks op)) ∨
      ∃ a t₁ t₂, t = t₁ ++ t₂ ∧ Exec p t₁ (.done a) ∧ Exec (f a) t₂ o
  | .loop body s, t, o => Iter (fun s t o => Exec (body s) t o) s t o

theorem exec_pure {a : α} {t : Trace S} {o : Status S α} :
    Exec (.pure a) t o ↔ t = [] ∧ o = .done a := .rfl

theorem exec_call {op : S.Op} {k : S.Res op → α} {t : Trace S} {o : Status S α} :
    Exec (.call op k) t o ↔
      (t = [] ∧ o = .asks op) ∨ ∃ r, t = [⟨op, r⟩] ∧ o = .done (k r) := .rfl

theorem exec_bind {p : Prog S β} {f : β → Prog S α} {t : Trace S} {o : Status S α} :
    Exec (.bind p f) t o ↔ (∃ op, o = .asks op ∧ Exec p t (.asks op)) ∨
      ∃ a t₁ t₂, t = t₁ ++ t₂ ∧ Exec p t₁ (.done a) ∧ Exec (f a) t₂ o := .rfl

theorem exec_loop {body : σ → Prog S (Ctl σ α)} {s : σ} {t : Trace S} {o : Status S α} :
    Exec (.loop body s) t o ↔ Iter (fun s t o => Exec (body s) t o) s t o := .rfl

/-! ## Which operations a program can perform -/

/-- Every operation of `p`, whatever the answers before it, satisfies `A`. -/
def Only (A : S.Op → Prop) {α : Type} : Prog S α → Prop
  | .pure _ => True
  | .call op _ => A op
  | .bind p f => Only A p ∧ ∀ a, Only A (f a)
  | .loop body _ => ∀ s, Only A (body s)

theorem exec_only {A : S.Op → Prop} {p : Prog S α} (hp : Only A p) {t : Trace S} {o : Status S α}
    (h : Exec p t o) : (∀ e ∈ t, A e.1) ∧ ∀ op, o = .asks op → A op := by
  induction p generalizing t with
  | pure a =>
    obtain ⟨rfl, rfl⟩ := exec_pure.1 h
    simp
  | call op k =>
    obtain ⟨rfl, rfl⟩ | ⟨r, rfl, rfl⟩ := exec_call.1 h
    · exact ⟨by simp, fun _ e => by cases e; exact hp⟩
    · exact ⟨by simpa [Only] using hp, by simp⟩
  | bind p f ihp ihf =>
    obtain ⟨op, rfl, hx⟩ | ⟨a, t₁, t₂, rfl, hx, hf⟩ := exec_bind.1 h
    · exact ⟨(ihp hp.1 hx).1, fun _ e => (ihp hp.1 hx).2 _ (by cases e; rfl)⟩
    · refine ⟨fun e he => ?_, (ihf a (hp.2 a) hf).2⟩
      rcases List.mem_append.1 he with he | he
      · exact (ihp hp.1 hx).1 e he
      · exact (ihf a (hp.2 a) hf).1 e he
  | loop body s ih =>
    have hi := exec_loop.1 h
    replace hp : ∀ s, Only A (body s) := hp
    clear h
    induction hi with
    | inside hb => exact ⟨(ih _ (hp _) hb).1, fun _ e => (ih _ (hp _) hb).2 _ (by cases e; rfl)⟩
    | again hb _ ihl =>
      refine ⟨fun e he => ?_, ihl.2⟩
      rcases List.mem_append.1 he with he | he
      · exact (ih _ (hp _) hb).1 e he
      · exact ihl.1 e he
    | leave hb => exact ⟨(ih _ (hp _) hb).1, by simp⟩

theorem Only.mono {A A' : S.Op → Prop} (hA : ∀ op, A op → A' op) {p : Prog S α} (hp : Only A p) :
    Only A' p := by
  induction p with
  | pure a => trivial
  | call op k => exact hA _ hp
  | bind p f ihp ihf => exact ⟨ihp hp.1, fun a => ihf a (hp.2 a)⟩
  | loop body s ih => exact fun s => ih s (hp s)

/-! ## Invariants of all runs -/

/-- A condition on the answers an environment gives. It is about whole histories, and once violated it stays
violated. -/
structure Env (S : Sig) where
  ok : Trace S → Prop
  ok_of_append : ∀ {h t}, ok (h ++ t) → ok h

/-- From every history that satisfies `P`, every execution of `p` against an environment that keeps to `E`
satisfies `I` whenever it waits, and `Q` when it returns. -/
def Triple (E : Env S) (I P : Trace S → Prop) (p : Prog S α) (Q : α → Trace S → Prop) : Prop :=
  ∀ h t o, P h → Exec p t o → E.ok (h ++ t) →
    match o with
    | .asks _ => I (h ++ t)
    | .done a => Q a (h ++ t)

section
variable {E : Env S} {I P P' : Trace S → Prop}

theorem triple_pure {a : α} {Q : α → Trace S → Prop} (h : ∀ h, P h → E.ok h → Q a h) :
    Triple E I P (.pure a) Q := by
  intro h₀ t o hP hx hE
  obtain ⟨rfl, rfl⟩ := exec_pure.1 hx
  simpa using h h₀ hP (by simpa using hE)

theorem triple_call {op : S.Op} {k : S.Res op → α} {Q : α → Trace S → Prop}
    (hI : ∀ h, P h → E.ok h → I h)
    (hQ : ∀ h r, P h → E.ok (h ++ [⟨op, r⟩]) → Q (k r) (h ++ [⟨op, r⟩])) :
    Triple E I P (.call op k) Q := by
  intro h₀ t o hP hx hE
  obtain ⟨rfl, rfl⟩ | ⟨r, rfl, rfl⟩ := exec_call.1 hx
  · simpa using hI h₀ hP (by simpa using hE)
  · exact hQ h₀ r hP hE

theorem triple_bind {p : Prog S β} {f : β → Prog S α} {R : β → Trace S → Prop}
    {Q : α → Trace S → Prop} (hp : Triple E I P p R) (hf : ∀ b, Triple E I (R b) (f b) Q) :
    Triple E I P (.bind p f) Q := by
  intro h₀ t o hP hx hE
  obtain ⟨op, rfl, hp'⟩ | ⟨a, t₁, t₂, rfl, hx, hy⟩ := exec_bind.1 hx
  · exact hp h₀ t _ hP hp' hE
  · rw [← List.append_assoc] at hE ⊢
    exact hf a _ t₂ o (hp h₀ t₁ _ hP hx (E.ok_of_append hE)) hy hE

/-- The invariant rule: `J s` holds at the head of each iteration that starts in state `s`. -/
theorem triple_loop {body : σ → Prog S (Ctl σ α)} {J : σ → Trace S → Prop} {Q : α → Trace S → Prop}
    (hb : ∀ s, Triple E I (J s) (body s) fun c h =>
      match c with
      | .next s' => J s' h
      | .stop b => Q b h) (s : σ) :
    Triple E I (J s) (.loop body s) Q := by
  intro h₀ t o hP hx hE
  have hi := exec_loop.1 hx
  clear hx
  induction hi generalizing h₀ with
  | inside hx => exact hb _ h₀ _ _ hP hx hE
  | @again s s' t₁ t₂ o hx _ ih =>
    rw [← List.append_assoc] at hE ⊢
    exact ih _ (hb s h₀ t₁ _ hP hx (E.ok_of_append hE)) hE
  | leave hx => exact hb _ h₀ _ _ hP hx hE

theorem Triple.conseq {p : Prog S α} {Q Q' : α → Trace S → Prop} (hp : Triple E I P p Q)
    (hP : ∀ h, P' h → P h) (hQ : ∀ a h, Q a h → Q' a h) : Triple E I P' p Q' := by
  intro h₀ t o hP' hx hE
  have := hp h₀ t o (hP h₀ hP') hx hE
  cases o with
  | asks op => exact this
  | done a => exact hQ a _ this

theorem Triple.pre {p : Prog S α} {Q : α → Trace S → Prop} (hp : Triple E I P p Q)
    (hP : ∀ h, P' h → P h) : Triple E I P' p Q := hp.conseq hP fun _ _ h => h

theorem Triple.post {p : Prog S α} {Q Q' : α → Trace S → Prop} (hp : Triple E I P p Q)
    (hQ : ∀ a h, Q a h → Q' a h) : Triple E I P p Q' := hp.conseq (fun _ h => h) hQ

/-- What the environment has promised may be used for the postcondition. -/
theorem Triple.post_ok {p : Prog S α} {Q Q' : α → Trace S → Prop} (hp : Triple E I P p Q)
    (hQ : ∀ a h, E.ok h → Q a h → Q' a h) : Triple E I P p Q' := by
  intro h₀ t o hP hx hE
  have key := hp h₀ t o hP hx hE
  cases o with
  | asks op => exact key
  | done a => exact hQ a _ hE key

/-- And for what holds while the program waits. -/
theorem Triple.inv_mono {I' : Trace S → Prop} {p : Prog S α} {Q : α → Trace S → Prop} (hp : Triple E I P p Q)
    (hI : ∀ h, E.ok h → I h → I' h) : Triple E I' P p Q := by
  intro h₀ t o hP hx hE
  have key := hp h₀ t o hP hx hE
  cases o with
  | asks op => exact hI _ hE key
  | done a => exact key

/-- Against an environment that promises more. -/
theorem Triple.env_mono {E' : Env S} {p : Prog S α} {Q : α → Trace S → Prop} (hp : Triple E I P p Q)
    (hE : ∀ h, E'.ok h → E.ok h) : Triple E' I P p Q := fun h₀ t o hP hx hE' => hp h₀ t o hP hx (hE _ hE')

/-- What a whole run that has returned leaves behind. -/
theorem Triple.returned {p : Prog S α} {Q : α → Trace S → Prop} (hp : Triple E I P p Q) (hP : P [])
    {t : Trace S} {a : α}
    (hx : Exec p t (.done a)) (hE : E.ok t) : Q a t := hp [] t _ hP hx hE

/-- What holds at any time of a whole run, whether it waits or has returned. -/
theorem Triple.always {p : Prog S α} {Q : α → Trace S → Prop} (hp : Triple E I P p Q) (hP : P [])
    (hQ : ∀ a h, Q a h → I h) {t : Trace S} {o : Status S α} (hx : Exec p t o) (hE : E.ok t) : I t := by
  have key := hp [] t o hP hx hE
  cases o with
  | asks op => exact key
  | done a => exact hQ a t key

/-- What a precondition says about no history can be taken out of it. -/
theorem triple_of_fact {p : Prog S α} {Q : α → Trace S → Prop} {φ : Prop}
    (h : φ → Triple E I P p Q) : Triple E I (fun h => φ ∧ P h) p Q :=
  fun h₀ t o hP hx hE => h hP.1 h₀ t o hP.2 hx hE

theorem triple_exists {β : Type} {P : β → Trace S → Prop} {p : Prog S α} {Q : α → Trace S → Prop}
    (h : ∀ b, Triple E I (P b) p Q) : Triple E I (fun h => ∃ b, P b h) p Q :=
  fun h₀ t o ⟨b, hP⟩ hx hE => h b h₀ t o hP hx hE

theorem triple_or {p : Prog S α} {P₁ P₂ : Trace S → Prop} {Q : α → Trace S → Prop}
    (h₁ : Triple E I P₁ p Q) (h₂ : Triple E I P₂ p Q) : Triple E I (fun h => P₁ h ∨ P₂ h) p Q :=
  fun h₀ t o hP hx hE => hP.elim (fun hP => h₁ h₀ t o hP hx hE) fun hP => h₂ h₀ t o hP hx hE

/-- A property that no operation of `p` can break holds throughout. -/
theorem triple_of_only {A : S.Op → Prop} {p : Prog S α} (hp : Only A p) (hPI : ∀ h, P h → I h)
    (hA : ∀ h e, A e.1 → P h → E.ok (h ++ [e]) → P (h ++ [e])) :
    Triple E I P p fun _ h => P h := by
  have run : ∀ t h₀, (∀ e ∈ t, A e.1) → P h₀ → E.ok (h₀ ++ t) → P (h₀ ++ t) := by
    intro t
    induction t with
    | nil => intro h₀ _ hP _; simpa using hP
    | cons e t ih =>
      intro h₀ hA' hP hE
      have key : h₀ ++ e :: t = (h₀ ++ [e]) ++ t := by simp
      rw [key] at hE ⊢
      exact ih _ (fun x hx => hA' x (by simp [hx])) (hA h₀ e (hA' e (by simp)) hP (E.ok_of_append hE)) hE
  intro h₀ t o hP hx hE
  have := run t h₀ (exec_only hp hx).1 hP hE
  cases o with
  | asks op => exact hPI _ this
  | done a => exact this

end

end Interact
