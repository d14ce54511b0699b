import Glycerine.Interact.Task

/-!
# Programs inside a larger signature

A program that performs operations of `S` is also one over a signature `T` that has these operations, with the
same answers. It has the same executions there (`exec_embed`).
-/
namespace Interact

/-- The operations of `S` among those of `T`. -/
structure Embedding (S T : Sig) where
  op : S.Op → T.Op
  res : ∀ o, T.Res (op o) = S.Res o

variable {S T : Sig} {α β σ : Type}

namespace Embedding
variable (i : Embedding S T)

def event (e : Event S) : Event T := ⟨i.op e.1, cast (i.res e.1).symm e.2⟩

def status : Status S α → Status T α
  | .asks op => .asks (i.op op)
  | .done a => .done a

variable {i}

theorem status_eq_done {o : Status S α} {a : α} (h : i.status o = .done a) : o = .done a := by
  cases o with
  | asks op => cases h
  | done b =>
    cases h
    rfl

theorem status_eq_asks {o : Status S α} {op : T.Op} (h : i.status o = .asks op) :
    ∃ op', o = .asks op' ∧ op = i.op op' := by
  cases o with
  | asks op' =>
    cases h
    exact ⟨op', rfl, rfl⟩
  | done b => cases h

end Embedding

def Prog.embed (i : Embedding S T) {α : Type} : Prog S α → Prog T α
  | .pure a => .pure a
  | .call op k => .call (i.op op) fun r => k (cast (i.res op) r)
  | .bind p f => .bind (p.embed i) fun b => (f b).embed i
  | .loop body s => .loop (fun s => (body s).embed i) s

section
variable {i : Embedding S T}

theorem iter_embed {B : σ → Trace S → Status S (Ctl σ α) → Prop}
    {B' : σ → Trace T → Status T (Ctl σ α) → Prop} (hB : ∀ s t o, B s t o → B' s (t.map i.event) (i.status o))
    {s : σ} {t : Trace S} {o : Status S α} (h : Iter B s t o) : Iter B' s (t.map i.event) (i.status o) := by
  induction h with
  | inside hx => exact .inside (hB _ _ _ hx)
  | again hx _ ih =>
    rw [List.map_append]
    exact .again (hB _ _ _ hx) ih
  | leave hx => exact .leave (hB _ _ _ hx)

theorem iter_of_embed {B : σ → Trace S → Status S (Ctl σ α) → Prop}
    {B' : σ → Trace T → Status T (Ctl σ α) → Prop}
    (hB : ∀ s t o, B' s t o → ∃ t' o', t = t'.map i.event ∧ o = i.status o' ∧ B s t' o')
    {s : σ} {t : Trace T} {o : Status T α} (h : Iter B' s t o) :
    ∃ t' o', t = t'.map i.event ∧ o = i.status o' ∧ Iter B s t' o' := by
  induction h with
  | inside hx =>
    obtain ⟨t', o', rfl, ho, hx'⟩ := hB _ _ _ hx
    obtain ⟨op, rfl, rfl⟩ := Embedding.status_eq_asks ho.symm
    exact ⟨t', .asks op, rfl, rfl, .inside hx'⟩
  | again hx _ ih =>
    obtain ⟨t₁, o₁, rfl, ho, hx'⟩ := hB _ _ _ hx
    obtain ⟨t₂, o₂, rfl, rfl, hi⟩ := ih
    rw [Embedding.status_eq_done ho.symm] at hx'
    exact ⟨t₁ ++ t₂, o₂, List.map_append.symm, rfl, .again hx' hi⟩
  | leave hx =>
    obtain ⟨t', o', rfl, ho, hx'⟩ := hB _ _ _ hx
    rw [Embedding.status_eq_done ho.symm] at hx'
    exact ⟨t', .done _, rfl, rfl, .leave hx'⟩

theorem exec_embed_of_exec {p : Prog S α} {t : Trace S} {o : Status S α} (h : Exec p t o) :
    Exec (p.embed i) (t.map i.event) (i.status o) := by
  induction p generalizing t with
  | pure a =>
    obtain ⟨rfl, rfl⟩ := exec_pure.1 h
    exact exec_pure.2 ⟨rfl, rfl⟩
  | call op k =>
    obtain ⟨rfl, rfl⟩ | ⟨r, rfl, rfl⟩ := exec_call.1 h
    · exact exec_call.2 (.inl ⟨rfl, rfl⟩)
    · refine exec_call.2 (.inr ⟨cast (i.res op).symm r, rfl, ?_⟩)
      simp [Embedding.status]
  | bind p f ihp ihf =>
    obtain ⟨op, rfl, hx⟩ | ⟨a, t₁, t₂, rfl, hx, hf⟩ := exec_bind.1 h
    · exact exec_bind.2 (.inl ⟨i.op op, rfl, ihp hx⟩)
    · exact exec_bind.2 (.inr ⟨a, _, _, List.map_append, ihp hx, ihf a hf⟩)
  | loop body s ih => exact exec_loop.2 (iter_embed (fun s t o hx => ih s hx) (exec_loop.1 h))

/-- **The executions of an embedded program** are those of the program. -/
theorem exec_embed {p : Prog S α} {t : Trace T} {o : Status T α} :
    Exec (p.embed i) t o ↔ ∃ t' o', t = t'.map i.event ∧ o = i.status o' ∧ Exec p t' o' := by
  refine ⟨fun h => ?_, fun ⟨t', o', ht, ho, hx⟩ => ht ▸ ho ▸ exec_embed_of_exec hx⟩
  induction p generalizing t with
  | pure a =>
    obtain ⟨rfl, rfl⟩ := exec_pure.1 h
    exact ⟨[], .done a, rfl, rfl, exec_pure.2 ⟨rfl, rfl⟩⟩
  | call op k =>
    obtain ⟨rfl, rfl⟩ | ⟨r, rfl, rfl⟩ := exec_call.1 h
    · exact ⟨[], .asks op, rfl, rfl, exec_call.2 (.inl ⟨rfl, rfl⟩)⟩
    · refine ⟨[⟨op, cast (i.res op) r⟩], .done (k (cast (i.res op) r)), ?_, rfl, exec_call.2 (.inr ⟨_, rfl, rfl⟩)⟩
      simp [Embedding.event]
  | bind p f ihp ihf =>
    obtain ⟨op, rfl, hx⟩ | ⟨a, t₁, t₂, rfl, hx, hf⟩ := exec_bind.1 h
    · obtain ⟨t', o', rfl, ho, hx'⟩ := ihp hx
      obtain ⟨op', rfl, rfl⟩ := Embedding.status_eq_asks ho.symm
      exact ⟨t', .asks op', rfl, rfl, exec_bind.2 (.inl ⟨op', rfl, hx'⟩)⟩
    · obtain ⟨t₁', o', rfl, ho, hx'⟩ := ihp hx
      obtain ⟨t₂', o₂, rfl, rfl, hf'⟩ := ihf a hf
      rw [Embedding.status_eq_done ho.symm] at hx'
      exact ⟨t₁' ++ t₂', o₂, List.map_append.symm, rfl, exec_bind.2 (.inr ⟨a, t₁', t₂', rfl, hx', hf'⟩)⟩
  | loop body s ih => exact iter_of_embed (fun s t o hx => ih s hx) (exec_loop.1 h)

theorem exec_embed_done {p : Prog S α} {t : Trace T} {a : α} :
    Exec (p.embed i) t (.done a) ↔ ∃ t', t = t'.map i.event ∧ Exec p t' (.done a) := by
  constructor
  · intro h
    obtain ⟨t', o, rfl, ho, hx⟩ := exec_embed.1 h
    rw [Embedding.status_eq_done ho.symm] at hx
    exact ⟨t', rfl, hx⟩
  · rintro ⟨t', rfl, hx⟩
    exact exec_embed_of_exec hx

theorem only_embed {A : T.Op → Prop} {p : Prog S α} (hp : Only (fun op => A (i.op op)) p) : Only A (p.embed i) := by
  induction p with
  | pure a => trivial
  | call op k => exact hp
  | bind p f ihp ihf => exact ⟨ihp hp.1, fun b => ihf b (hp.2 b)⟩
  | loop body s ih => exact fun s => ih s (hp s)

end

namespace Task
variable {ε : Type} {i : Embedding S T}

def embed (i : Embedding S T) (p : Task S ε α) : Task T ε α := Prog.embed i p

theorem NeverPanics.embed {p : Task S ε α} (hp : NeverPanics p) : NeverPanics (Task.embed i p) := by
  intro t h
  obtain ⟨t', -, hx⟩ := exec_embed_done.1 h
  exact hp t' hx

/-- A sequence whose first part is embedded is in that part or has failed there, or is past it. -/
theorem exec_embed_andThen {p : Task S ε β} {f : β → Task T ε α} {t : Trace T} {o : Status T (Outcome ε α)}
    (hx : Exec (Task.embed i p >>= f : Task T ε α) t o) :
    (∃ h : Trace S, t = h.map i.event ∧ ∀ a, o ≠ .done (.ok a)) ∨
      ∃ (h : Trace S) (b : β) (t' : Trace T), t = h.map i.event ++ t' ∧ Exec p h (.done (.ok b)) ∧ Exec (f b) t' o := by
  obtain ⟨op, rfl, hp⟩ | ⟨e, rfl, hp⟩ | ⟨rfl, hp⟩ | ⟨b, t₁, t₂, rfl, hp, hf⟩ := exec_andThen hx
  · obtain ⟨h, -, rfl, -, -⟩ := exec_embed.1 hp
    exact .inl ⟨h, rfl, nofun⟩
  · obtain ⟨h, -, rfl, -, -⟩ := exec_embed.1 hp
    exact .inl ⟨h, rfl, nofun⟩
  · obtain ⟨h, -, rfl, -, -⟩ := exec_embed.1 hp
    exact .inl ⟨h, rfl, nofun⟩
  · obtain ⟨h, rfl, hpart⟩ := exec_embed_done.1 hp
    exact .inr ⟨h, b, t₂, rfl, hpart, hf⟩

end Task
end Interact
