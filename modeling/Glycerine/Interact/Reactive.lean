import Glycerine.Interact.Embed
import Glycerine.Interact.Machine

/-!
# Programs that never spin

A loop that goes round without performing an operation has no execution at all, so nothing that is said about all
executions says that there are any. `Reactive p` does: wherever `p` waits it goes on with every answer, to the next
operation or to its end. A loop is reactive if its body is and performs an operation before it goes round
(`reactive_loop`).
-/
namespace Interact

variable {S T : Sig} {α β σ : Type}

structure Reactive (p : Prog S α) : Prop where
  start : ∃ o, Exec p [] o
  next : ∀ {t op}, Exec p t (.asks op) → ∀ r, ∃ o, Exec p (t ++ [⟨op, r⟩]) o

theorem reactive_pure {a : α} : Reactive (.pure a : Prog S α) where
  start := ⟨_, exec_pure.2 ⟨rfl, rfl⟩⟩
  next h _ := by cases (exec_pure.1 h).2

theorem reactive_call {op : S.Op} {k : S.Res op → α} : Reactive (.call op k) where
  start := ⟨_, exec_call.2 (.inl ⟨rfl, rfl⟩)⟩
  next h r := by
    obtain ⟨rfl, ho⟩ | ⟨_, _, ho⟩ := exec_call.1 h
    · cases ho
      exact ⟨_, exec_call.2 (.inr ⟨r, rfl, rfl⟩)⟩
    · cases ho

theorem reactive_bind {p : Prog S β} {f : β → Prog S α} (hp : Reactive p) (hf : ∀ b, Reactive (f b)) :
    Reactive (.bind p f) := by
  have reached : ∀ {t o}, Exec p t o → ∃ o', Exec (.bind p f) t o' := by
    intro t o h
    cases o with
    | asks op => exact ⟨_, exec_bind.2 (.inl ⟨op, rfl, h⟩)⟩
    | done b =>
      obtain ⟨o', ho'⟩ := (hf b).start
      exact ⟨o', exec_bind.2 (.inr ⟨b, t, [], (List.append_nil t).symm, h, ho'⟩)⟩
  constructor
  · obtain ⟨o, ho⟩ := hp.start
    exact reached ho
  · intro t op h r
    obtain ⟨op', ho, hx⟩ | ⟨b, t₁, t₂, rfl, hx, hy⟩ := exec_bind.1 h
    · cases ho
      obtain ⟨o, ho⟩ := hp.next hx r
      exact reached ho
    · obtain ⟨o, ho⟩ := (hf b).next hy r
      exact ⟨o, exec_bind.2 (.inr ⟨b, t₁, _, List.append_assoc .., hx, ho⟩)⟩

/-- The body performs an operation before the loop goes round. -/
theorem reactive_loop {body : σ → Prog S (Ctl σ α)} (hb : ∀ s, Reactive (body s))
    (hloud : ∀ s s', ¬ Exec (body s) [] (.done (.next s'))) (s : σ) : Reactive (.loop body s) := by
  have start : ∀ s, ∃ o, Exec (.loop body s) [] o := by
    intro s
    obtain ⟨o, ho⟩ := (hb s).start
    match o with
    | .asks op => exact ⟨.asks op, exec_loop.2 (.inside ho)⟩
    | .done (.next s') => exact absurd ho (hloud s s')
    | .done (.stop b) => exact ⟨.done b, exec_loop.2 (.leave ho)⟩
  have reached : ∀ {s t o}, Exec (body s) t o → ∃ o', Exec (.loop body s) t o' := by
    intro s t o h
    match o with
    | .asks op => exact ⟨.asks op, exec_loop.2 (.inside h)⟩
    | .done (.next s') =>
      obtain ⟨o', ho'⟩ := start s'
      have hround := exec_loop.2 (.again h (exec_loop.1 ho'))
      rw [List.append_nil] at hround
      exact ⟨o', hround⟩
    | .done (.stop b) => exact ⟨.done b, exec_loop.2 (.leave h)⟩
  refine ⟨start s, fun {t op} h r => ?_⟩
  have hi := exec_loop.1 h
  clear h
  generalize ho : Status.asks op = o at hi
  induction hi with
  | inside hx =>
    cases ho
    obtain ⟨o, ho⟩ := (hb _).next hx r
    exact reached ho
  | again hx _ ih =>
    obtain ⟨o', ho'⟩ := ih ho
    rw [List.append_assoc]
    exact ⟨o', exec_loop.2 (.again hx (exec_loop.1 ho'))⟩
  | leave _ => cases ho

/-- `p` does not return without an operation. -/
def Loud (p : Prog S α) : Prop := ∀ a, ¬ Exec p [] (.done a)

theorem loud_call {op : S.Op} {k : S.Res op → α} : Loud (.call op k) := by
  intro a h
  obtain ⟨-, ho⟩ | ⟨r, ht, -⟩ := exec_call.1 h
  · cases ho
  · cases ht

theorem Loud.bind {p : Prog S β} (hp : Loud p) (f : β → Prog S α) : Loud (.bind p f) := by
  intro a h
  obtain ⟨op, ho, -⟩ | ⟨b, t₁, t₂, ht, hx, -⟩ := exec_bind.1 h
  · cases ho
  · obtain ⟨rfl, -⟩ := List.append_eq_nil_iff.1 ht.symm
    exact hp b hx

theorem Reactive.embed {i : Embedding S T} {p : Prog S α} (hp : Reactive p) : Reactive (p.embed i) := by
  constructor
  · obtain ⟨o, ho⟩ := hp.start
    exact ⟨_, exec_embed.2 ⟨[], o, rfl, rfl, ho⟩⟩
  · intro t op h r
    obtain ⟨t', o', rfl, ho, hx⟩ := exec_embed.1 h
    obtain ⟨op', rfl, rfl⟩ := Embedding.status_eq_asks ho.symm
    obtain ⟨o, ho⟩ := hp.next hx (cast (i.res op') r)
    refine ⟨_, exec_embed.2 ⟨_, o, ?_, rfl, ho⟩⟩
    simp [Embedding.event]

/-! ## Tasks -/

namespace Task
variable {ε ε' : Type}

theorem reactive_ret {a : α} : Reactive (pure a : Task S ε α) := reactive_pure
theorem reactive_fail {e : ε} : Reactive (fail e : Task S ε α) := reactive_pure
theorem reactive_panic : Reactive (panic : Task S ε α) := reactive_pure
theorem reactive_ofExcept {x : Except ε α} : Reactive (ofExcept x : Task S ε α) := reactive_pure

theorem reactive_call {op : S.Op} {k : S.Res op → Outcome ε α} : Reactive (call op k) := Interact.reactive_call

theorem reactive_andThen {p : Task S ε β} {f : β → Task S ε α} (hp : Reactive p) (hf : ∀ b, Reactive (f b)) :
    Reactive (p >>= f : Task S ε α) :=
  reactive_bind hp fun
    | .ok b => hf b
    | .err _ => reactive_pure
    | .panic => reactive_pure

theorem reactive_mapErr {f : ε → ε'} {p : Task S ε α} (hp : Reactive p) : Reactive (mapErr f p) :=
  reactive_bind hp fun _ => reactive_pure

theorem reactive_attempt {p : Task S ε α} (hp : Reactive p) : Reactive (attempt p : Task S ε' _) :=
  reactive_bind hp fun _ => reactive_pure

theorem reactive_loop {body : σ → Task S ε (Ctl σ α)} (hb : ∀ s, Reactive (body s))
    (hloud : ∀ s s', ¬ Exec (body s) [] (.done (.ok (.next s')))) (s : σ) : Reactive (loop body s) := by
  refine Interact.reactive_loop (fun s => reactive_bind (hb s) fun _ => reactive_pure) (fun s s' h => ?_) s
  obtain ⟨op, ho, -⟩ | ⟨o, t₁, t₂, ht, hx, hy⟩ := exec_bind.1 h
  · cases ho
  · obtain ⟨rfl, rfl⟩ := List.append_eq_nil_iff.1 ht.symm
    match o with
    | .ok (.next s'') => exact hloud s s'' hx
    | .ok (.stop a) => cases (exec_pure.1 hy).2
    | .err e => cases (exec_pure.1 hy).2
    | .panic => cases (exec_pure.1 hy).2

theorem reactive_loop_of_loud {body : σ → Task S ε (Ctl σ α)} (hb : ∀ s, Reactive (body s))
    (hloud : ∀ s, Loud (body s)) (s : σ) : Reactive (loop body s) :=
  reactive_loop hb (fun s s' => hloud s (.ok (.next s'))) s

end Task

/-- Where a task waits for `op`, a machine that it runs on has a step with every answer. -/
theorem Reactive.step {ε ρ : Type} {M : Machine S ε ρ} {p : Task S ε ρ} (hp : Reactive p)
    (hm : ∀ {t o}, Exec p t o → M.Arrives t o) {t : Trace S} {op : S.Op} (h : Exec p t (.asks op)) (r : S.Res op) :
    ∃ q q', M.Path t q ∧ M.Step q ⟨op, r⟩ q' := by
  obtain ⟨o, ho⟩ := hp.next h r
  obtain ⟨q, hq⟩ := (hm ho).path
  exact hq.step_of_prefix (List.prefix_refl _)

end Interact
