import Glycerine.Interact.Prog

/-!
# Fallible tasks

The layer a Rust function lives in: a `Task S ε α` performs operations of `S` and ends with a value, with an
error of type `ε` that the caller may handle, or with a panic that no caller handles. `>>=` is `?`, `attempt`
is a `match` on the `Result`, `mapErr` is `map_err`, and `Task.loop` is a loop whose body may leave the
function with an error.
-/
namespace Interact

inductive Outcome (ε α : Type) where
  | ok (a : α)
  | err (e : ε)
  | panic
deriving DecidableEq, Repr

namespace Outcome

def ofExcept {ε α : Type} : Except ε α → Outcome ε α
  | .ok a => .ok a
  | .error e => .err e

def mapErr {ε ε' α : Type} (f : ε → ε') : Outcome ε α → Outcome ε' α
  | .ok a => .ok a
  | .err e => .err (f e)
  | .panic => .panic

theorem ofExcept_ne_panic {ε α : Type} (x : Except ε α) : ofExcept x ≠ .panic := by
  cases x <;> simp [ofExcept]

/-- The outcome as the value of a `match`: an error becomes a value, a panic goes on. -/
def reify {ε ε' α : Type} : Outcome ε α → Outcome ε' (Except ε α)
  | .ok a => .ok (.ok a)
  | .err e => .ok (.error e)
  | .panic => .panic

/-- A loop body that fails leaves the loop. -/
def leave {ε α σ : Type} : Outcome ε (Ctl σ α) → Ctl σ (Outcome ε α)
  | .ok (.next s) => .next s
  | .ok (.stop a) => .stop (.ok a)
  | .err e => .stop (.err e)
  | .panic => .stop .panic

/-- A postcondition, given for each of the three ways to end. -/
def post {ε α τ : Type} (ok : α → τ → Prop) (err : ε → τ → Prop) (panic : τ → Prop) : Outcome ε α → τ → Prop
  | .ok a => ok a
  | .err e => err e
  | .panic => panic

end Outcome

/-- What a loop body leaves behind when it goes on, and when it leaves. -/
def Ctl.post {σ α τ : Type} (next : σ → τ → Prop) (stop : α → τ → Prop) : Ctl σ α → τ → Prop
  | .next s => next s
  | .stop a => stop a

def Task (S : Sig) (ε α : Type) : Type 1 := Prog S (Outcome ε α)

namespace Task
variable {S : Sig} {ε ε' α β σ : Type}

def ret (a : α) : Task S ε α := Prog.pure (.ok a)

def andThen (p : Task S ε β) (f : β → Task S ε α) : Task S ε α :=
  Prog.bind p fun
    | .ok b => f b
    | .err e => Prog.pure (.err e)
    | .panic => Prog.pure .panic

instance : Monad (Task S ε) where
  pure := ret
  bind := andThen

/-- `return Err(e)`. -/
def fail (e : ε) : Task S ε α := Prog.pure (.err e)

def panic : Task S ε α := Prog.pure .panic

/-- One operation, its answer read as a `Result`. -/
def call (op : S.Op) (k : S.Res op → Outcome ε α) : Task S ε α := Prog.call op k

def mapErr (f : ε → ε') (p : Task S ε α) : Task S ε' α := Prog.bind p fun o => Prog.pure (o.mapErr f)

def attempt (p : Task S ε α) : Task S ε' (Except ε α) := Prog.bind p fun o => Prog.pure o.reify

def loop (body : σ → Task S ε (Ctl σ α)) (s : σ) : Task S ε α :=
  Prog.loop (fun s => Prog.bind (body s) fun o => Prog.pure o.leave) s

/-- `Result` values computed without an operation. -/
def ofExcept (x : Except ε α) : Task S ε α := Prog.pure (.ofExcept x)

/-! ## `Only` -/

section
variable {A : S.Op → Prop}

@[simp] theorem only_pure {a : α} : Only A (pure a : Task S ε α) := trivial
@[simp] theorem only_fail {e : ε} : Only A (fail e : Task S ε α) := trivial
@[simp] theorem only_panic : Only A (panic : Task S ε α) := trivial
@[simp] theorem only_ofExcept {x : Except ε α} : Only A (ofExcept x : Task S ε α) := trivial

@[simp] theorem only_call {op : S.Op} {k : S.Res op → Outcome ε α} : Only A (call op k) ↔ A op := Iff.rfl

@[simp] theorem only_bind {p : Task S ε β} {f : β → Task S ε α} :
    Only A (p >>= f : Task S ε α) ↔ Only A p ∧ ∀ b, Only A (f b) := by
  refine ⟨fun h => ⟨h.1, fun b => h.2 (.ok b)⟩, fun h => ⟨h.1, fun o => ?_⟩⟩
  cases o with
  | ok b => exact h.2 b
  | err e => trivial
  | panic => trivial

@[simp] theorem only_mapErr {f : ε → ε'} {p : Task S ε α} : Only A (mapErr f p) ↔ Only A p :=
  ⟨fun h => h.1, fun h => ⟨h, fun _ => trivial⟩⟩

@[simp] theorem only_attempt {p : Task S ε α} : Only A (attempt p : Task S ε' _) ↔ Only A p :=
  ⟨fun h => h.1, fun h => ⟨h, fun _ => trivial⟩⟩

@[simp] theorem only_loop {body : σ → Task S ε (Ctl σ α)} {s : σ} :
    Only A (loop body s) ↔ ∀ s, Only A (body s) :=
  ⟨fun h s => (h s).1, fun h s => ⟨h s, fun _ => trivial⟩⟩

end

/-! ## `Triple` -/

section
variable {E : Env S} {I P : Trace S → Prop}

theorem triple_ret {a : α} {Q : Outcome ε α → Trace S → Prop} (h : ∀ h, P h → E.ok h → Q (.ok a) h) :
    Triple E I P (pure a : Task S ε α) Q := triple_pure h

theorem triple_fail {e : ε} {Q : Outcome ε α → Trace S → Prop} (h : ∀ h, P h → E.ok h → Q (.err e) h) :
    Triple E I P (fail e : Task S ε α) Q := triple_pure h

theorem triple_call {op : S.Op} {k : S.Res op → Outcome ε α} {Q : Outcome ε α → Trace S → Prop}
    (hI : ∀ h, P h → E.ok h → I h)
    (hQ : ∀ h r, P h → E.ok (h ++ [⟨op, r⟩]) → Q (k r) (h ++ [⟨op, r⟩])) :
    Triple E I P (call op k) Q := Interact.triple_call hI hQ

theorem triple_ofExcept {x : Except ε α} {Q : Outcome ε α → Trace S → Prop}
    (h : ∀ h, P h → E.ok h → Q (.ofExcept x) h) : Triple E I P (ofExcept x : Task S ε α) Q := triple_pure h

/-- `?`: what the callee leaves behind on success is what the rest starts from, its failures are the
caller's. -/
theorem triple_andThen {p : Task S ε β} {f : β → Task S ε α} {R : Outcome ε β → Trace S → Prop}
    {Q : Outcome ε α → Trace S → Prop} (hp : Triple E I P p R)
    (hok : ∀ b, Triple E I (R (.ok b)) (f b) Q) (herr : ∀ e h, R (.err e) h → E.ok h → Q (.err e) h)
    (hpanic : ∀ h, R .panic h → E.ok h → Q .panic h) : Triple E I P (p >>= f : Task S ε α) Q :=
  triple_bind hp fun o =>
    match o with
    | .ok b => hok b
    | .err e => triple_pure (herr e)
    | .panic => triple_pure hpanic

/-- The same where the failures of the callee already are what the caller leaves behind. -/
theorem triple_seq {p : Task S ε β} {f : β → Task S ε α} {Q : Outcome ε α → Trace S → Prop}
    (R : β → Trace S → Prop)
    (hp : Triple E I P p (Outcome.post R (fun e => Q (.err e)) (Q .panic)))
    (hf : ∀ b, Triple E I (R b) (f b) Q) : Triple E I P (p >>= f : Task S ε α) Q :=
  triple_andThen hp hf (fun _ _ h _ => h) (fun _ h _ => h)

theorem triple_mapErr {f : ε → ε'} {p : Task S ε α} {Q : Outcome ε' α → Trace S → Prop}
    (hp : Triple E I P p fun o h => Q (o.mapErr f) h) : Triple E I P (mapErr f p) Q :=
  triple_bind hp fun _ => triple_pure fun _ h _ => h

theorem triple_attempt {p : Task S ε α} {Q : Outcome ε' (Except ε α) → Trace S → Prop}
    (hp : Triple E I P p fun o h => Q o.reify h) : Triple E I P (attempt p : Task S ε' _) Q :=
  triple_bind hp fun _ => triple_pure fun _ h _ => h

theorem triple_loop {body : σ → Task S ε (Ctl σ α)} {J : σ → Trace S → Prop}
    {Q : Outcome ε α → Trace S → Prop}
    (hb : ∀ s, Triple E I (J s) (body s)
      (Outcome.post (Ctl.post J fun a => Q (.ok a)) (fun e => Q (.err e)) (Q .panic))) (s : σ) :
    Triple E I (J s) (loop body s) Q := by
  refine Interact.triple_loop (fun s => triple_bind (hb s) fun o => triple_pure fun h hQ _ => ?_) s
  match o with
  | .ok (.next s') => exact hQ
  | .ok (.stop a) => exact hQ
  | .err e => exact hQ
  | .panic => exact hQ

end

/-! ## Runs that succeed -/

/-- All parts of a task that succeeds have succeeded. -/
theorem exec_andThen_ok {p : Task S ε β} {f : β → Task S ε α} {t : Trace S} {a : α}
    (hx : Exec (p >>= f : Task S ε α) t (.done (.ok a))) :
    ∃ b t₁ t₂, t = t₁ ++ t₂ ∧ Exec p t₁ (.done (.ok b)) ∧ Exec (f b) t₂ (.done (.ok a)) := by
  obtain ⟨op, e, -⟩ | ⟨o, t₁, t₂, rfl, hp, hf⟩ := exec_bind.1 hx
  · cases e
  · cases o with
    | ok b => exact ⟨b, t₁, t₂, rfl, hp, hf⟩
    | err e => cases (exec_pure.1 hf).2
    | panic => cases (exec_pure.1 hf).2

theorem exec_ofExcept_ok {x : Except ε α} {t : Trace S} {a : α}
    (hx : Exec (ofExcept x : Task S ε α) t (.done (.ok a))) : x = .ok a := by
  have h := (exec_pure.1 hx).2
  cases x with
  | ok b =>
    cases h
    rfl
  | error e => cases h

/-! ## Where a sequence is -/

/-- A sequence is in its first part, has failed there, or is past it. -/
theorem exec_andThen {p : Task S ε β} {f : β → Task S ε α} {t : Trace S} {o : Status S (Outcome ε α)}
    (hx : Exec (p >>= f : Task S ε α) t o) :
    (∃ op, o = .asks op ∧ Exec p t (.asks op)) ∨ (∃ e, o = .done (.err e) ∧ Exec p t (.done (.err e))) ∨
      (o = .done .panic ∧ Exec p t (.done .panic)) ∨
      ∃ b t₁ t₂, t = t₁ ++ t₂ ∧ Exec p t₁ (.done (.ok b)) ∧ Exec (f b) t₂ o := by
  obtain ⟨op, rfl, hp⟩ | ⟨r, t₁, t₂, rfl, hp, hf⟩ := exec_bind.1 hx
  · exact .inl ⟨op, rfl, hp⟩
  cases r with
  | ok b => exact .inr (.inr (.inr ⟨b, t₁, t₂, rfl, hp, hf⟩))
  | err e =>
    obtain ⟨rfl, rfl⟩ := exec_pure.1 hf
    exact .inr (.inl ⟨e, rfl, (List.append_nil t₁).symm ▸ hp⟩)
  | panic =>
    obtain ⟨rfl, rfl⟩ := exec_pure.1 hf
    exact .inr (.inr (.inl ⟨rfl, (List.append_nil t₁).symm ▸ hp⟩))

/-- A `match` on a `Result` is in the call, or past it. -/
theorem exec_attempt {p : Task S ε β} {f : Except ε β → Task S ε' α} {t : Trace S} {o : Status S (Outcome ε' α)}
    (hx : Exec (attempt p >>= f : Task S ε' α) t o) :
    (∃ op, o = .asks op ∧ Exec p t (.asks op)) ∨ (o = .done .panic ∧ Exec p t (.done .panic)) ∨
      ∃ r t₁ t₂, t = t₁ ++ t₂ ∧ Exec p t₁ (.done (.ofExcept r)) ∧ Exec (f r) t₂ o := by
  have hattempt : ∀ {u a}, Exec (attempt p : Task S ε' _) u (.done a) → ∃ r, a = r.reify ∧ Exec p u (.done r) := by
    intro u a h
    obtain ⟨op, he, -⟩ | ⟨r, u₁, u₂, rfl, hp, hr⟩ := exec_bind.1 h
    · cases he
    · obtain ⟨rfl, ha⟩ := exec_pure.1 hr
      cases ha
      exact ⟨r, rfl, (List.append_nil u₁).symm ▸ hp⟩
  obtain ⟨op, rfl, hp⟩ | ⟨e, rfl, hp⟩ | ⟨rfl, hp⟩ | ⟨r, t₁, t₂, rfl, hp, hf⟩ := exec_andThen hx
  · obtain ⟨op', he, hp⟩ | ⟨r, t₁, t₂, -, -, hr⟩ := exec_bind.1 hp
    · cases he
      exact .inl ⟨op, rfl, hp⟩
    · cases (exec_pure.1 hr).2
  · obtain ⟨r, hr, -⟩ := hattempt hp
    cases r <;> cases hr
  · obtain ⟨r, hr, hp⟩ := hattempt hp
    cases r with
    | panic => exact .inr (.inl ⟨rfl, hp⟩)
    | ok a => cases hr
    | err e => cases hr
  · obtain ⟨r', hr, hp'⟩ := hattempt hp
    refine .inr (.inr ⟨r, t₁, t₂, rfl, ?_, hf⟩)
    cases r' with
    | ok a =>
      cases hr
      exact hp'
    | err e =>
      cases hr
      exact hp'
    | panic => cases hr

theorem exec_fail {e : ε} {t : Trace S} {o : Status S (Outcome ε α)} (hx : Exec (fail e : Task S ε α) t o) :
    t = [] ∧ o = .done (.err e) := exec_pure.1 hx

theorem exec_ret {a : α} {t : Trace S} {o : Status S (Outcome ε α)} (hx : Exec (pure a : Task S ε α) t o) :
    t = [] ∧ o = .done (.ok a) := exec_pure.1 hx

/-! ## The same behaviour -/

/-- Two tasks have the same executions. -/
def Same (p q : Task S ε α) : Prop := ∀ t o, Exec p t o ↔ Exec q t o

theorem Same.refl (p : Task S ε α) : Same p p := fun _ _ => .rfl

/-- A part that performs no operation can be replaced by its value. -/
theorem Same.silent {p : Task S ε β} {f : β → Task S ε α} {b : β} {q : Task S ε α} (hp : Same p (pure b))
    (hf : Same (f b) q) : Same (p >>= f) q := by
  intro t o
  rw [← hf t o]
  constructor
  · intro hx
    obtain ⟨op, rfl, hx'⟩ | ⟨r, t₁, t₂, rfl, hx', hy⟩ := exec_bind.1 hx
    · cases (exec_pure.1 ((hp _ _).1 hx')).2
    · obtain ⟨rfl, hr⟩ := exec_pure.1 ((hp _ _).1 hx')
      cases hr
      exact hy
  · intro hy
    exact exec_bind.2 (.inr ⟨.ok b, [], t, rfl, (hp _ _).2 ⟨rfl, rfl⟩, hy⟩)

/-! ## Panics -/

/-- No answers of the environment make `p` panic. -/
def NeverPanics (p : Task S ε α) : Prop := ∀ t, ¬ Exec p t (.done .panic)

theorem neverPanics_pure {a : α} : NeverPanics (pure a : Task S ε α) := by
  intro t h
  cases (exec_pure.1 h).2

theorem neverPanics_fail {e : ε} : NeverPanics (fail e : Task S ε α) := by
  intro t h
  cases (exec_pure.1 h).2

theorem neverPanics_call {op : S.Op} {k : S.Res op → Outcome ε α} (hk : ∀ r, k r ≠ .panic) :
    NeverPanics (call op k) := by
  intro t h
  obtain ⟨-, e⟩ | ⟨r, -, e⟩ := exec_call.1 h
  · cases e
  · injection e with e
    exact hk r e.symm

theorem neverPanics_bind {p : Task S ε β} {f : Outcome ε β → Task S ε' α} (hp : NeverPanics p)
    (hf : ∀ r, r ≠ .panic → NeverPanics (f r)) : NeverPanics (Prog.bind p f) := by
  intro t h
  obtain ⟨op, e, -⟩ | ⟨r, t₁, t₂, -, hx, hy⟩ := exec_bind.1 h
  · cases e
  · refine hf r ?_ t₂ hy
    rintro rfl
    exact hp t₁ hx

theorem neverPanics_andThen {p : Task S ε β} {f : β → Task S ε α} (hp : NeverPanics p)
    (hf : ∀ b, NeverPanics (f b)) : NeverPanics (p >>= f : Task S ε α) :=
  neverPanics_bind hp fun
    | .ok b, _ => hf b
    | .err _, _ => neverPanics_fail
    | .panic, h => absurd rfl h

theorem neverPanics_mapErr {f : ε → ε'} {p : Task S ε α} (hp : NeverPanics p) : NeverPanics (mapErr f p) :=
  neverPanics_bind hp fun
    | .ok _, _ => neverPanics_pure
    | .err _, _ => neverPanics_fail
    | .panic, h => absurd rfl h

theorem neverPanics_attempt {p : Task S ε α} (hp : NeverPanics p) :
    NeverPanics (attempt p : Task S ε' _) :=
  neverPanics_bind hp fun
    | .ok _, _ => neverPanics_pure
    | .err _, _ => neverPanics_pure
    | .panic, h => absurd rfl h

/-- The rest only has to be safe for the value that was computed. -/
theorem neverPanics_ofExcept_andThen {x : Except ε β} {f : β → Task S ε α}
    (hf : ∀ b, x = .ok b → NeverPanics (f b)) : NeverPanics (ofExcept x >>= f : Task S ε α) := by
  intro t h
  obtain ⟨op, -, hx⟩ | ⟨r, t₁, t₂, -, hx, hy⟩ := exec_bind.1 h
  · cases (exec_pure.1 hx).2
  · cases x with
    | ok b =>
      cases (exec_pure.1 hx).2
      exact hf b rfl t₂ hy
    | error e =>
      cases (exec_pure.1 hx).2
      cases (exec_pure.1 hy).2

theorem neverPanics_loop {body : σ → Task S ε (Ctl σ α)} (hb : ∀ s, NeverPanics (body s)) (s : σ) :
    NeverPanics (loop body s) := by
  intro t h
  have hi := exec_loop.1 h
  clear h
  generalize ho : Status.done Outcome.panic = o at hi
  induction hi with
  | inside _ => cases ho
  | again _ _ ih => exact ih ho
  | @leave s t b hx =>
    cases ho
    obtain ⟨op, e, -⟩ | ⟨r, t₁, t₂, -, hx, hy⟩ := exec_bind.1 hx
    · cases e
    · match r with
      | .ok (.next s') => cases (exec_pure.1 hy).2
      | .ok (.stop a) => cases (exec_pure.1 hy).2
      | .err e => cases (exec_pure.1 hy).2
      | .panic => exact hb s t₁ hx

end Task
end Interact
