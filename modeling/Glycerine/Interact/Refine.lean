import Glycerine.Interact.Task

/-!
# Operations that are programs

An operation of `S` may be carried out by a program over another signature `T`, which comes back with an answer or
dies. `Prog.carry` puts such programs in the place of the operations. What comes out does what the program does over
`S`, each operation of it spread over an execution of its own program (`carries_of_exec`): what holds of all executions
over `S` holds of what is carried out over `T`.
-/
namespace Interact

/-- How the operations of `S` are carried out over `T`; one without an answer has died. -/
abbrev Impl (S T : Sig) := (op : S.Op) → Prog T (Option (S.Res op))

variable {S T : Sig} {α β σ : Type}

/-- A turn of a loop: to die ends the loop as well. -/
def Ctl.orDied : Option (Ctl σ α) → Ctl σ (Option α)
  | none => .stop none
  | some (.next s) => .next s
  | some (.stop a) => .stop (some a)

def Prog.carry (impl : Impl S T) {α : Type} : Prog S α → Prog T (Option α)
  | .pure a => .pure (some a)
  | .call op k => .bind (impl op) fun r => .pure (r.map k)
  | .bind p f => .bind (p.carry impl) fun
    | none => .pure none
    | some b => (f b).carry impl
  | .loop body s => .loop (fun s => .bind ((body s).carry impl) fun r => .pure (Ctl.orDied r)) s

/-- The second trace carries out the operations of the first, one after another. -/
inductive Spread (impl : Impl S T) : Trace S → Trace T → Prop where
  | nil : Spread impl [] []
  | cons {op r t u v} : Exec (impl op) t (.done (some r)) → Spread impl u v → Spread impl (⟨op, r⟩ :: u) (t ++ v)

/-- What is carried out is an execution of `p`, or an execution with an operation that has begun or died. -/
inductive Carries (impl : Impl S T) (p : Prog S α) : Trace T → Status T (Option α) → Prop where
  | done {u t a} : Exec p u (.done a) → Spread impl u t → Carries impl p t (.done (some a))
  | asks {u t v op op'} : Exec p u (.asks op) → Spread impl u t → Exec (impl op) v (.asks op') →
    Carries impl p (t ++ v) (.asks op')
  | died {u t v op} : Exec p u (.asks op) → Spread impl u t → Exec (impl op) v (.done none) →
    Carries impl p (t ++ v) (.done none)

section
variable {impl : Impl S T}

theorem Spread.append {u u' : Trace S} {t t' : Trace T} (h : Spread impl u t) (h' : Spread impl u' t') :
    Spread impl (u ++ u') (t ++ t') := by
  induction h with
  | nil => exact h'
  | cons hx _ ih =>
    rw [List.append_assoc]
    exact .cons hx ih

theorem Spread.one {op : S.Op} {r : S.Res op} {t : Trace T} (h : Exec (impl op) t (.done (some r))) :
    Spread impl [⟨op, r⟩] t := by
  have key := Spread.cons h .nil
  rwa [List.append_nil] at key

/-- Where an operation with the answer `r` is carried out. -/
theorem Spread.mem {u : Trace S} {t : Trace T} (h : Spread impl u t) {op : S.Op} {r : S.Res op} (hmem : ⟨op, r⟩ ∈ u) :
    ∃ g v g', t = g ++ v ++ g' ∧ Exec (impl op) v (.done (some r)) := by
  induction h with
  | nil => cases hmem
  | @cons op' r' t' u' v' hx _ ih =>
    rcases List.mem_cons.1 hmem with heq | hmem
    · cases heq
      exact ⟨[], t', v', rfl, hx⟩
    · obtain ⟨g, v, g', rfl, hv⟩ := ih hmem
      exact ⟨t' ++ g, v, g', by simp, hv⟩

/-- A part that `q` goes on from after `u`. -/
theorem Carries.after {p q : Prog S α} {u : Trace S} {t t' : Trace T} {o : Status T (Option α)}
    (hq : ∀ {u' o}, Exec p u' o → Exec q (u ++ u') o) (hu : Spread impl u t) (h : Carries impl p t' o) :
    Carries impl q (t ++ t') o := by
  cases h with
  | done hx hu' => exact .done (hq hx) (hu.append hu')
  | asks hx hu' hv =>
    rw [← List.append_assoc]
    exact .asks (hq hx) (hu.append hu') hv
  | died hx hu' hv =>
    rw [← List.append_assoc]
    exact .died (hq hx) (hu.append hu') hv

/-- A part that `q` begins with, and does not get past. -/
theorem Carries.asks_of {p : Prog S β} {q : Prog S α} {t : Trace T} {op : T.Op} (h : Carries impl p t (.asks op))
    (hq : ∀ {u op}, Exec p u (.asks op) → Exec q u (.asks op)) : Carries impl q t (.asks op) := by
  cases h with
  | asks hx hu hv => exact .asks (hq hx) hu hv

theorem Carries.died_of {p : Prog S β} {q : Prog S α} {t : Trace T} (h : Carries impl p t (.done none))
    (hq : ∀ {u op}, Exec p u (.asks op) → Exec q u (.asks op)) : Carries impl q t (.done none) := by
  cases h with
  | died hx hu hv => exact .died (hq hx) hu hv

theorem carries_call {op : S.Op} {k : S.Res op → α} {t : Trace T} {o : Status T (Option α)}
    (h : Exec ((Prog.call op k).carry impl) t o) : Carries impl (.call op k) t o := by
  have hwaits : Exec (Prog.call op k) [] (.asks op) := exec_call.2 (.inl ⟨rfl, rfl⟩)
  obtain ⟨op', rfl, hx⟩ | ⟨r, t₁, t₂, rfl, hx, hr⟩ := exec_bind.1 h
  · exact .asks hwaits .nil hx
  obtain ⟨rfl, rfl⟩ := exec_pure.1 hr
  rw [List.append_nil]
  cases r with
  | none => exact .died hwaits .nil hx
  | some r => exact .done (exec_call.2 (.inr ⟨r, rfl, rfl⟩)) (.one hx)

theorem carries_bind {p : Prog S β} {f : β → Prog S α}
    (hp : ∀ {t o}, Exec (p.carry impl) t o → Carries impl p t o)
    (hf : ∀ b {t o}, Exec ((f b).carry impl) t o → Carries impl (f b) t o) {t : Trace T} {o : Status T (Option α)}
    (h : Exec ((Prog.bind p f).carry impl) t o) : Carries impl (.bind p f) t o := by
  have hwaits {u : Trace S} {op : S.Op} (hx : Exec p u (.asks op)) : Exec (.bind p f) u (.asks op) :=
    exec_bind.2 (.inl ⟨_, rfl, hx⟩)
  rw [Prog.carry] at h
  obtain ⟨op, rfl, hx⟩ | ⟨r, t₁, t₂, rfl, hx, hr⟩ := exec_bind.1 h
  · exact (hp hx).asks_of hwaits
  cases r with
  | none =>
    obtain ⟨rfl, rfl⟩ := exec_pure.1 hr
    rw [List.append_nil]
    exact (hp hx).died_of hwaits
  | some b =>
    cases hp hx with
    | done hxp hu => exact .after (fun hxf => exec_bind.2 (.inr ⟨b, _, _, rfl, hxp, hxf⟩)) hu (hf b hr)

/-- A turn waits, or it has decided how the loop goes on. -/
theorem exec_turn {body : σ → Prog S (Ctl σ α)} {s : σ} {t : Trace T} {o : Status T (Ctl σ (Option α))}
    (h : Exec (.bind ((body s).carry impl) fun r => .pure (Ctl.orDied r)) t o) :
    (∃ op, o = .asks op ∧ Exec ((body s).carry impl) t (.asks op)) ∨
      ∃ r, o = .done (Ctl.orDied r) ∧ Exec ((body s).carry impl) t (.done r) := by
  obtain ⟨op, rfl, hx⟩ | ⟨r, t₁, t₂, rfl, hx, hr⟩ := exec_bind.1 h
  · exact .inl ⟨op, rfl, hx⟩
  · obtain ⟨rfl, rfl⟩ := exec_pure.1 hr
    rw [List.append_nil]
    exact .inr ⟨r, rfl, hx⟩

theorem carries_loop {body : σ → Prog S (Ctl σ α)} {s : σ}
    (hb : ∀ s {t o}, Exec ((body s).carry impl) t o → Carries impl (body s) t o) {t : Trace T}
    {o : Status T (Option α)} (h : Exec ((Prog.loop body s).carry impl) t o) : Carries impl (.loop body s) t o := by
  have hwaits {s : σ} {u : Trace S} {op : S.Op} (hx : Exec (body s) u (.asks op)) :
      Exec (.loop body s) u (.asks op) := exec_loop.2 (.inside hx)
  have hi := exec_loop.1 h
  clear h
  induction hi with
  | inside hx =>
    obtain ⟨op, ho, hx⟩ | ⟨r, ho, -⟩ := exec_turn hx
    · cases ho
      exact (hb _ hx).asks_of hwaits
    · cases ho
  | again hx _ ih =>
    obtain ⟨op, ho, -⟩ | ⟨r, ho, hx⟩ := exec_turn hx
    · cases ho
    · match r with
      | none => cases ho
      | some (.stop a) => cases ho
      | some (.next s') =>
        cases ho
        cases hb _ hx with
        | done hxb hu => exact .after (fun hxl => exec_loop.2 (.again hxb (exec_loop.1 hxl))) hu ih
  | leave hx =>
    obtain ⟨op, ho, -⟩ | ⟨r, ho, hturn⟩ := exec_turn hx
    · cases ho
    · match r with
      | none =>
        cases ho
        exact (hb _ hturn).died_of hwaits
      | some (.next s') => cases ho
      | some (.stop a) =>
        cases ho
        cases hb _ hturn with
        | done hxb hu => exact .done (exec_loop.2 (.leave hxb)) hu

/-- **What is carried out is what the program does.** -/
theorem carries_of_exec {p : Prog S α} {t : Trace T} {o : Status T (Option α)} (h : Exec (p.carry impl) t o) :
    Carries impl p t o := by
  induction p generalizing t with
  | pure a =>
    obtain ⟨rfl, rfl⟩ := exec_pure.1 h
    exact .done (exec_pure.2 ⟨rfl, rfl⟩) .nil
  | call op k => exact carries_call h
  | bind p f ihp ihf => exact carries_bind ihp ihf h
  | loop body s ih => exact carries_loop ih h

end
end Interact
