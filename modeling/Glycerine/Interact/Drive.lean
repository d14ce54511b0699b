import Glycerine.Interact.Task

/-!
# Running a program against one environment

An environment with states `W` answers an operation by a function, or blocks it for good. `Halts env p w o w'`
says where `p`, started in `w`, ends up: returned, or waiting for an operation that `env` blocks. There is at
most one such end (`Halts.unique`), and every other execution that `env` admits is on the way to it
(`Halts.prefix`), so a statement about `Halts` is one about every run of `p` against `env`.

`drive` computes the end with fuel (`halts_of_drive`); `script` is the environment that answers as a given
trace does (`exec_of_script`).
-/
namespace Interact

variable {S : Sig} {W α β σ : Type}

/-- How an environment answers: the answer and its next state, or nothing if the operation blocks. -/
abbrev Handler (S : Sig) (W : Type) := W → (op : S.Op) → Option (S.Res op × W)

/-- The answers in the trace are those that `env` gives from `w` on. -/
def Follows (env : Handler S W) : W → Trace S → W → Prop
  | w, [], w' => w = w'
  | w, ⟨op, r⟩ :: t, w' => ∃ w₁, env w op = some (r, w₁) ∧ Follows env w₁ t w'

def Halts (env : Handler S W) (p : Prog S α) (w : W) (o : Status S α) (w' : W) : Prop :=
  ∃ t, Exec p t o ∧ Follows env w t w' ∧ ∀ op, o = .asks op → env w' op = none

section
variable {env : Handler S W} {w w₁ w₂ w' : W}

theorem follows_append : ∀ {t u : Trace S} {w w' : W},
    Follows env w (t ++ u) w' ↔ ∃ w₁, Follows env w t w₁ ∧ Follows env w₁ u w'
  | [], u, w, w' => by simp [Follows]
  | ⟨op, r⟩ :: t, u, w, w' => by
    simp only [List.cons_append, Follows, follows_append (t := t)]
    constructor
    · rintro ⟨w₁, h, w₂, h₁, h₂⟩
      exact ⟨w₂, ⟨w₁, h, h₁⟩, h₂⟩
    · rintro ⟨w₂, ⟨w₁, h, h₁⟩, h₂⟩
      exact ⟨w₁, h, w₂, h₁, h₂⟩

theorem follows_det : ∀ {t : Trace S} {w w₁ w₂ : W}, Follows env w t w₁ → Follows env w t w₂ → w₁ = w₂
  | [], _, _, _, h₁, h₂ => h₁.symm.trans h₂
  | ⟨op, r⟩ :: t, _, _, _, ⟨_, e₁, h₁⟩, ⟨_, e₂, h₂⟩ => by
    rw [e₁] at e₂
    cases e₂
    exact follows_det h₁ h₂

/-! ## There is only one run -/

/-- Two executions of one program against one environment: they are the same, or one goes on where the other
waits. -/
def Comparable (t : Trace S) (o : Status S α) (t' : Trace S) (o' : Status S α) : Prop :=
  (t = t' ∧ o = o') ∨ (∃ op r u, o = .asks op ∧ t' = t ++ ⟨op, r⟩ :: u) ∨
    ∃ op r u, o' = .asks op ∧ t = t' ++ ⟨op, r⟩ :: u

theorem Comparable.symm {t t' : Trace S} {o o' : Status S α} (h : Comparable t o t' o') :
    Comparable t' o' t o := by
  rcases h with ⟨rfl, rfl⟩ | h | h
  · exact .inl ⟨rfl, rfl⟩
  · exact .inr (.inr h)
  · exact .inr (.inl h)

theorem Comparable.done {t t' : Trace S} {a a' : α} (h : Comparable t (.done a) t' (.done a')) :
    t = t' ∧ a = a' := by
  rcases h with ⟨rfl, e⟩ | ⟨_, _, _, e, _⟩ | ⟨_, _, _, e, _⟩
  · exact ⟨rfl, by cases e; rfl⟩
  · cases e
  · cases e

/-- A first part that waits, against a whole that is past it. -/
theorem Comparable.asks_append {t t₁ u : Trace S} {op : S.Op} {b : β} {o : Status S α}
    (h : Comparable (α := β) t (.asks op) t₁ (.done b)) :
    Comparable t (.asks op) (t₁ ++ u) o := by
  rcases h with ⟨-, e⟩ | ⟨op', r, v, e, rfl⟩ | ⟨_, _, _, e, _⟩
  · cases e
  · cases e
    exact .inr (.inl ⟨op, r, v ++ u, rfl, by simp⟩)
  · cases e

theorem Comparable.asks_asks {t t' : Trace S} {op op' : S.Op}
    (h : Comparable (α := β) t (.asks op) t' (.asks op')) :
    Comparable (α := α) t (.asks op) t' (.asks op') := by
  rcases h with ⟨rfl, e⟩ | ⟨_, r, u, e, rfl⟩ | ⟨_, r, u, e, rfl⟩
  · cases e
    exact .inl ⟨rfl, rfl⟩
  · cases e
    exact .inr (.inl ⟨_, r, u, rfl, rfl⟩)
  · cases e
    exact .inr (.inr ⟨_, r, u, rfl, rfl⟩)

theorem Comparable.append_left {t₁ t t' : Trace S} {o o' : Status S α} (h : Comparable t o t' o') :
    Comparable (t₁ ++ t) o (t₁ ++ t') o' := by
  rcases h with ⟨rfl, rfl⟩ | ⟨op, r, u, e, rfl⟩ | ⟨op, r, u, e, rfl⟩
  · exact .inl ⟨rfl, rfl⟩
  · exact .inr (.inl ⟨op, r, u, e, by simp⟩)
  · exact .inr (.inr ⟨op, r, u, e, by simp⟩)

theorem iter_comparable {B : σ → Trace S → Status S (Ctl σ β) → Prop}
    (hB : ∀ s w t o w₁ t' o' w₂, B s t o → Follows env w t w₁ → B s t' o' → Follows env w t' w₂ →
      Comparable t o t' o')
    {s : σ} {t t' : Trace S} {o o' : Status S β} (h : Iter B s t o) :
    ∀ {w w₁ w₂ : W}, Follows env w t w₁ → Iter B s t' o' → Follows env w t' w₂ → Comparable t o t' o' := by
  induction h generalizing t' o' with
  | @inside s t op hx =>
    intro w w₁ w₂ hf h' hf'
    cases h' with
    | inside hx' => exact (hB _ _ _ _ _ _ _ _ hx hf hx' hf').asks_asks
    | again hx' _ =>
      obtain ⟨_, hf₁, -⟩ := follows_append.1 hf'
      exact (hB _ _ _ _ _ _ _ _ hx hf hx' hf₁).asks_append
    | leave hx' => simpa using (hB _ _ _ _ _ _ _ _ hx hf hx' hf').asks_append (u := [])
  | @again s s₁ t₁ t₂ o hx hi ih =>
    intro w w₁ w₂ hf h' hf'
    obtain ⟨w₃, hf₁, hf₂⟩ := follows_append.1 hf
    cases h' with
    | inside hx' => exact (hB _ _ _ _ _ _ _ _ hx' hf' hx hf₁).asks_append.symm
    | again hx' hi' =>
      obtain ⟨w₄, hf₃, hf₄⟩ := follows_append.1 hf'
      obtain ⟨rfl, e⟩ := (hB _ _ _ _ _ _ _ _ hx hf₁ hx' hf₃).done
      cases e
      cases follows_det hf₁ hf₃
      exact (ih hf₂ hi' hf₄).append_left
    | leave hx' => cases (hB _ _ _ _ _ _ _ _ hx hf₁ hx' hf').done.2
  | @leave s t b hx =>
    intro w w₁ w₂ hf h' hf'
    cases h' with
    | inside hx' => simpa using (hB _ _ _ _ _ _ _ _ hx' hf' hx hf).asks_append (u := []) |>.symm
    | again hx' _ =>
      obtain ⟨_, hf₁, -⟩ := follows_append.1 hf'
      cases (hB _ _ _ _ _ _ _ _ hx hf hx' hf₁).done.2
    | leave hx' =>
      obtain ⟨rfl, e⟩ := (hB _ _ _ _ _ _ _ _ hx hf hx' hf').done
      cases e
      exact .inl ⟨rfl, rfl⟩

theorem exec_comparable {p : Prog S α} {t t' : Trace S} {o o' : Status S α} {w w₁ w₂ : W}
    (h : Exec p t o) (hf : Follows env w t w₁) (h' : Exec p t' o') (hf' : Follows env w t' w₂) :
    Comparable t o t' o' := by
  induction p generalizing w w₁ w₂ t t' with
  | pure a =>
    obtain ⟨rfl, rfl⟩ := exec_pure.1 h
    obtain ⟨rfl, rfl⟩ := exec_pure.1 h'
    exact .inl ⟨rfl, rfl⟩
  | call op k =>
    obtain ⟨rfl, rfl⟩ | ⟨r, rfl, rfl⟩ := exec_call.1 h <;>
      obtain ⟨rfl, rfl⟩ | ⟨r', rfl, rfl⟩ := exec_call.1 h'
    · exact .inl ⟨rfl, rfl⟩
    · exact .inr (.inl ⟨op, r', [], rfl, rfl⟩)
    · exact .inr (.inr ⟨op, r, [], rfl, rfl⟩)
    · obtain ⟨_, e, -⟩ := hf
      obtain ⟨_, e', -⟩ := hf'
      rw [e] at e'
      cases e'
      exact .inl ⟨rfl, rfl⟩
  | bind p f ihp ihf =>
    obtain ⟨op, rfl, hx⟩ | ⟨a, t₁, t₂, rfl, hx, hy⟩ := exec_bind.1 h <;>
      obtain ⟨op', rfl, hx'⟩ | ⟨a', t₁', t₂', rfl, hx', hy'⟩ := exec_bind.1 h'
    · exact (ihp hx hf hx' hf').asks_asks
    · obtain ⟨_, hf₁, -⟩ := follows_append.1 hf'
      exact (ihp hx hf hx' hf₁).asks_append
    · obtain ⟨_, hf₁, -⟩ := follows_append.1 hf
      exact (ihp hx' hf' hx hf₁).asks_append.symm
    · obtain ⟨_, hf₁, hf₂⟩ := follows_append.1 hf
      obtain ⟨_, hf₃, hf₄⟩ := follows_append.1 hf'
      obtain ⟨rfl, rfl⟩ := (ihp hx hf₁ hx' hf₃).done
      cases follows_det hf₁ hf₃
      exact (ihf a hy hf₂ hy' hf₄).append_left
  | loop body s ih =>
    exact iter_comparable (fun s w t o w₁ t' o' w₂ hx hf hx' hf' => ih s hx hf hx' hf')
      (exec_loop.1 h) hf (exec_loop.1 h') hf'

/-- Every execution that the environment admits is a first part of the one that ends. -/
theorem Halts.prefix {p : Prog S α} {o : Status S α} (h : Halts env p w o w') :
    ∃ t, Exec p t o ∧ Follows env w t w' ∧
      ∀ t' o' w₁, Exec p t' o' → Follows env w t' w₁ → t' <+: t ∧ (t' = t → o' = o) := by
  obtain ⟨t, hx, hf, hb⟩ := h
  refine ⟨t, hx, hf, fun t' o' w₁ hx' hf' => ?_⟩
  rcases exec_comparable hx hf hx' hf' with ⟨rfl, rfl⟩ | ⟨op, r, u, rfl, rfl⟩ | ⟨op, r, u, rfl, rfl⟩
  · exact ⟨List.prefix_refl _, fun _ => rfl⟩
  · obtain ⟨w₂, hf₁, w₃, he, -⟩ := follows_append.1 hf'
    cases follows_det hf hf₁
    rw [hb op rfl] at he
    cases he
  · exact ⟨List.prefix_append _ _, fun e => absurd (congrArg List.length e) (by simp)⟩

theorem Halts.unique {p : Prog S α} {o o' : Status S α} (h : Halts env p w o w₁)
    (h' : Halts env p w o' w₂) : o = o' ∧ w₁ = w₂ := by
  obtain ⟨t, hx, hf, hpre⟩ := h.prefix
  obtain ⟨t', hx', hf', hpre'⟩ := h'.prefix
  have h₁ := hpre t' o' w₂ hx' hf'
  have h₂ := hpre' t o w₁ hx hf
  have e : t = t' := h₂.1.eq_of_length (Nat.le_antisymm h₂.1.length_le h₁.1.length_le)
  subst e
  exact ⟨(h₁.2 rfl).symm, follows_det hf hf'⟩

/-! ## Earlier -/

/-- Where an event of a sequence is: in the first part, or after it. -/
theorem append_cons_eq_append {γ : Type} {t u t₁ t₂ : List γ} {e : γ} (h : t ++ e :: u = t₁ ++ t₂) :
    (∃ a, t₁ = t ++ e :: a) ∨ ∃ a, t = t₁ ++ a ∧ t₂ = a ++ e :: u := by
  rcases List.append_eq_append_iff.1 h with ⟨a, rfl, ha⟩ | ⟨a, rfl, ha⟩
  · cases a with
    | nil => exact .inr ⟨[], by simp, by simpa using ha.symm⟩
    | cons x a =>
      cases ha
      exact .inl ⟨a, rfl⟩
  · exact .inr ⟨a, rfl, ha⟩

theorem iter_before {B : σ → Trace S → Status S (Ctl σ α) → Prop}
    (hB : ∀ s t op r u o, B s (t ++ ⟨op, r⟩ :: u) o → B s t (.asks op)) {s : σ} {t' : Trace S} {o : Status S α}
    (h : Iter B s t' o) {t u : Trace S} {op : S.Op} {r : S.Res op} (ht : t' = t ++ ⟨op, r⟩ :: u) :
    Iter B s t (.asks op) := by
  induction h generalizing t u with
  | inside hx =>
    subst ht
    exact .inside (hB _ _ _ _ _ _ hx)
  | again hx _ ih =>
    obtain ⟨a, rfl⟩ | ⟨a, rfl, rfl⟩ := append_cons_eq_append ht.symm
    · exact .inside (hB _ _ _ _ _ _ hx)
    · exact .again hx (ih rfl)
  | leave hx =>
    subst ht
    exact .inside (hB _ _ _ _ _ _ hx)

/-- **Before an operation the program waits for it.** -/
theorem exec_before {p : Prog S α} {t u : Trace S} {op : S.Op} {r : S.Res op} {o : Status S α}
    (h : Exec p (t ++ ⟨op, r⟩ :: u) o) : Exec p t (.asks op) := by
  induction p generalizing t u op with
  | pure a =>
    have hnil := (exec_pure.1 h).1
    simp at hnil
  | call op' k =>
    obtain ⟨ht, -⟩ | ⟨r', ht, -⟩ := exec_call.1 h
    · simp at ht
    · cases t with
      | nil =>
        cases ht
        exact exec_call.2 (.inl ⟨rfl, rfl⟩)
      | cons x t => simp at ht
  | bind p f ihp ihf =>
    obtain ⟨op', rfl, hp⟩ | ⟨b, t₁, t₂, ht, hp, hf⟩ := exec_bind.1 h
    · exact exec_bind.2 (.inl ⟨op, rfl, ihp hp⟩)
    · obtain ⟨a, rfl⟩ | ⟨a, rfl, rfl⟩ := append_cons_eq_append ht
      · exact exec_bind.2 (.inl ⟨op, rfl, ihp hp⟩)
      · exact exec_bind.2 (.inr ⟨b, t₁, a, rfl, hp, ihf b hf⟩)
  | loop body s ih => exact exec_loop.2 (iter_before (fun s _ _ _ _ _ hx => ih s hx) (exec_loop.1 h) rfl)

/-- What a program has done up to some moment it has done by then. -/
theorem exec_append {p : Prog S α} {t u : Trace S} {o : Status S α} (h : Exec p (t ++ u) o) : ∃ o', Exec p t o' := by
  cases u with
  | nil => exact ⟨o, by simpa using h⟩
  | cons e u => exact ⟨_, exec_before h⟩

/-! ## Symbolic execution -/

theorem halts_pure {a : α} : Halts env (.pure a) w (.done a) w :=
  ⟨[], exec_pure.2 ⟨rfl, rfl⟩, rfl, by simp⟩

theorem halts_call {op : S.Op} {k : S.Res op → α} {r : S.Res op} (h : env w op = some (r, w')) :
    Halts env (.call op k) w (.done (k r)) w' :=
  ⟨[⟨op, r⟩], exec_call.2 (.inr ⟨r, rfl, rfl⟩), ⟨w', h, rfl⟩, by simp⟩

theorem halts_call_blocked {op : S.Op} {k : S.Res op → α} (h : env w op = none) :
    Halts env (.call op k) w (.asks op) w :=
  ⟨[], exec_call.2 (.inl ⟨rfl, rfl⟩), rfl, fun _ e => by cases e; exact h⟩

theorem halts_bind {p : Prog S β} {f : β → Prog S α} {b : β} {o : Status S α}
    (hp : Halts env p w (.done b) w₁) (hf : Halts env (f b) w₁ o w') : Halts env (.bind p f) w o w' := by
  obtain ⟨t₁, hx, hf₁, -⟩ := hp
  obtain ⟨t₂, hy, hf₂, hb⟩ := hf
  exact ⟨t₁ ++ t₂, exec_bind.2 (.inr ⟨b, t₁, t₂, rfl, hx, hy⟩), follows_append.2 ⟨w₁, hf₁, hf₂⟩, hb⟩

theorem halts_bind_blocked {p : Prog S β} {f : β → Prog S α} {op : S.Op}
    (hp : Halts env p w (.asks op) w') : Halts env (.bind p f) w (.asks op) w' := by
  obtain ⟨t, hx, hf, hb⟩ := hp
  exact ⟨t, exec_bind.2 (.inl ⟨op, rfl, hx⟩), hf, fun _ e => hb _ (by cases e; rfl)⟩

theorem halts_loop_next {body : σ → Prog S (Ctl σ α)} {s s' : σ} {o : Status S α}
    (hb : Halts env (body s) w (.done (.next s')) w₁) (hl : Halts env (.loop body s') w₁ o w') :
    Halts env (.loop body s) w o w' := by
  obtain ⟨t₁, hx, hf₁, -⟩ := hb
  obtain ⟨t₂, hy, hf₂, hbl⟩ := hl
  exact ⟨t₁ ++ t₂, exec_loop.2 (.again hx (exec_loop.1 hy)), follows_append.2 ⟨w₁, hf₁, hf₂⟩, hbl⟩

theorem halts_loop_stop {body : σ → Prog S (Ctl σ α)} {s : σ} {a : α}
    (hb : Halts env (body s) w (.done (.stop a)) w') : Halts env (.loop body s) w (.done a) w' := by
  obtain ⟨t, hx, hf, -⟩ := hb
  exact ⟨t, exec_loop.2 (.leave hx), hf, by simp⟩

theorem halts_loop_blocked {body : σ → Prog S (Ctl σ α)} {s : σ} {op : S.Op}
    (hb : Halts env (body s) w (.asks op) w') : Halts env (.loop body s) w (.asks op) w' := by
  obtain ⟨t, hx, hf, hbl⟩ := hb
  exact ⟨t, exec_loop.2 (.inside hx), hf, fun _ e => hbl _ (by cases e; rfl)⟩

end

/-! ## Tasks -/

namespace Task
variable {env : Handler S W} {w w₁ w₂ w' : W} {ε ε' : Type}

theorem halts_ret {a : α} : Halts env (pure a : Task S ε α) w (.done (.ok a)) w := halts_pure

theorem halts_fail {e : ε} : Halts env (fail e : Task S ε α) w (.done (.err e)) w := halts_pure

theorem halts_call {op : S.Op} {k : S.Res op → Outcome ε α} {r : S.Res op} {o : Outcome ε α}
    (h : env w op = some (r, w')) (hk : k r = o) : Halts env (call op k) w (.done o) w' :=
  hk ▸ Interact.halts_call h

theorem halts_call_blocked {op : S.Op} {k : S.Res op → Outcome ε α} (h : env w op = none) :
    Halts env (call op k) w (.asks op) w := Interact.halts_call_blocked h

theorem halts_andThen {p : Task S ε β} {f : β → Task S ε α} {b : β} {o : Status S (Outcome ε α)}
    (hp : Halts env p w (.done (.ok b)) w₁) (hf : Halts env (f b) w₁ o w') :
    Halts env (p >>= f : Task S ε α) w o w' := halts_bind hp hf

theorem halts_andThen_err {p : Task S ε β} {f : β → Task S ε α} {e : ε}
    (hp : Halts env p w (.done (.err e)) w') :
    Halts env (p >>= f : Task S ε α) w (.done (.err e)) w' := halts_bind hp halts_pure

theorem halts_andThen_blocked {p : Task S ε β} {f : β → Task S ε α} {op : S.Op}
    (hp : Halts env p w (.asks op) w') : Halts env (p >>= f : Task S ε α) w (.asks op) w' :=
  halts_bind_blocked hp

theorem halts_attempt_ok {p : Task S ε α} {a : α} (hp : Halts env p w (.done (.ok a)) w') :
    Halts env (attempt p : Task S ε' _) w (.done (.ok (.ok a))) w' := halts_bind hp halts_pure

theorem halts_attempt_err {p : Task S ε α} {e : ε} (hp : Halts env p w (.done (.err e)) w') :
    Halts env (attempt p : Task S ε' _) w (.done (.ok (.error e))) w' := halts_bind hp halts_pure

theorem halts_attempt_blocked {p : Task S ε α} {op : S.Op} (hp : Halts env p w (.asks op) w') :
    Halts env (attempt p : Task S ε' _) w (.asks op) w' := halts_bind_blocked hp

theorem halts_mapErr_ok {f : ε → ε'} {p : Task S ε α} {a : α} (hp : Halts env p w (.done (.ok a)) w') :
    Halts env (mapErr f p) w (.done (.ok a)) w' := halts_bind hp halts_pure

theorem halts_mapErr_err {f : ε → ε'} {p : Task S ε α} {e : ε} (hp : Halts env p w (.done (.err e)) w') :
    Halts env (mapErr f p) w (.done (.err (f e))) w' := halts_bind hp halts_pure

theorem halts_mapErr_blocked {f : ε → ε'} {p : Task S ε α} {op : S.Op}
    (hp : Halts env p w (.asks op) w') : Halts env (mapErr f p) w (.asks op) w' := halts_bind_blocked hp

theorem halts_loop_next {body : σ → Task S ε (Ctl σ α)} {s s' : σ} {o : Status S (Outcome ε α)}
    (hb : Halts env (body s) w (.done (.ok (.next s'))) w₁) (hl : Halts env (loop body s') w₁ o w') :
    Halts env (loop body s) w o w' := Interact.halts_loop_next (halts_bind hb halts_pure) hl

theorem halts_loop_stop {body : σ → Task S ε (Ctl σ α)} {s : σ} {a : α}
    (hb : Halts env (body s) w (.done (.ok (.stop a))) w') :
    Halts env (loop body s) w (.done (.ok a)) w' := Interact.halts_loop_stop (halts_bind hb halts_pure)

theorem halts_loop_err {body : σ → Task S ε (Ctl σ α)} {s : σ} {e : ε}
    (hb : Halts env (body s) w (.done (.err e)) w') :
    Halts env (loop body s) w (.done (.err e)) w' := Interact.halts_loop_stop (halts_bind hb halts_pure)

theorem halts_loop_blocked {body : σ → Task S ε (Ctl σ α)} {s : σ} {op : S.Op}
    (hb : Halts env (body s) w (.asks op) w') : Halts env (loop body s) w (.asks op) w' :=
  Interact.halts_loop_blocked (halts_bind_blocked hb)

end Task

/-! ## Computing the end -/

def drive (env : Handler S W) : Nat → {α : Type} → Prog S α → W → Option (Status S α × W)
  | 0, _, _, _ => none
  | _ + 1, _, .pure a, w => some (.done a, w)
  | _ + 1, _, .call op k, w =>
    match env w op with
    | some (r, w') => some (.done (k r), w')
    | none => some (.asks op, w)
  | fuel + 1, _, .bind p f, w =>
    match drive env fuel p w with
    | some (.done b, w') => drive env fuel (f b) w'
    | some (.asks op, w') => some (.asks op, w')
    | none => none
  | fuel + 1, _, .loop body s, w =>
    match drive env fuel (body s) w with
    | some (.done (.next s'), w') => drive env fuel (.loop body s') w'
    | some (.done (.stop a), w') => some (.done a, w')
    | some (.asks op, w') => some (.asks op, w')
    | none => none

theorem halts_of_drive {env : Handler S W} {fuel : Nat} {p : Prog S α} {w w' : W} {o : Status S α}
    (h : drive env fuel p w = some (o, w')) : Halts env p w o w' := by
  induction fuel generalizing α w w' with
  | zero => simp [drive] at h
  | succ fuel ih =>
    cases p with
    | pure a =>
      simp only [drive, Option.some.injEq, Prod.mk.injEq] at h
      obtain ⟨rfl, rfl⟩ := h
      exact halts_pure
    | call op k =>
      simp only [drive] at h
      split at h <;> cases h
      · exact halts_call ‹_›
      · exact halts_call_blocked ‹_›
    | bind p f =>
      simp only [drive] at h
      split at h
      · exact halts_bind (ih ‹_›) (ih h)
      · cases h
        exact halts_bind_blocked (ih ‹_›)
      · cases h
    | loop body s =>
      simp only [drive] at h
      split at h
      · exact halts_loop_next (ih ‹_›) (ih h)
      · cases h
        exact halts_loop_stop (ih ‹_›)
      · cases h
        exact halts_loop_blocked (ih ‹_›)
      · cases h

section
variable [DecidableEq S.Op]

/-- The environment that answers as the trace does, and blocks when the program asks for something else. -/
def script : Handler S (Trace S)
  | [], _ => none
  | ⟨op', r⟩ :: t, op => if h : op' = op then some (h ▸ r, t) else none

theorem follows_script : ∀ {t u v : Trace S}, Follows script t u v → t = u ++ v
  | t, [], v, h => by cases h; rfl
  | [], ⟨op, r⟩ :: u, v, ⟨_, h, _⟩ => by simp [script] at h
  | ⟨op', r'⟩ :: t, ⟨op, r⟩ :: u, v, ⟨w, h, hu⟩ => by
    simp only [script] at h
    split at h
    · rename_i e
      subst e
      cases h
      rw [follows_script hu]
      rfl
    · cases h

theorem follows_script_append : ∀ {t u : Trace S}, Follows script (t ++ u) t u
  | [], _ => rfl
  | ⟨op, r⟩ :: t, u => ⟨t ++ u, by simp [script], follows_script_append⟩

/-- A program that has returned does nothing more. -/
theorem exec_returned {p : Prog S α} {t u : Trace S} {a : α} {o : Status S α} (hd : Exec p t (.done a))
    (hx : Exec p (t ++ u) o) : u = [] ∧ o = .done a := by
  have hwhole : Follows script (t ++ u) (t ++ u) [] := by simpa using follows_script_append (t := t ++ u) (u := [])
  rcases exec_comparable hd follows_script_append hx hwhole with ⟨h, ho⟩ | ⟨_, _, _, ho, _⟩ | ⟨_, _, _, _, h⟩
  · exact ⟨by simpa using h, ho.symm⟩
  · cases ho
  · simp at h

instance [DecidableEq α] : DecidableEq (Status S α)
  | .asks op, .asks op' => decidable_of_iff (op = op') (by simp)
  | .done a, .done a' => decidable_of_iff (a = a') (by simp)
  | .asks _, .done _ => isFalse (by simp)
  | .done _, .asks _ => isFalse (by simp)

/-- The program, answered by the trace, uses it up and ends with `o`. -/
def scriptEnds [DecidableEq α] (fuel : Nat) (p : Prog S α) (t : Trace S) (o : Status S α) : Bool :=
  match drive script fuel p t with
  | some (o', []) => o' = o
  | _ => false

/-- Such a trace is an execution. -/
theorem exec_of_script [DecidableEq α] (fuel : Nat) {p : Prog S α} {t : Trace S} {o : Status S α}
    (h : scriptEnds fuel p t o = true) : Exec p t o := by
  unfold scriptEnds at h
  split at h
  · rename_i hd
    rw [← of_decide_eq_true h]
    obtain ⟨u, hx, hf, -⟩ := halts_of_drive hd
    rw [follows_script hf, List.append_nil]
    exact hx
  · cases h

end

end Interact
