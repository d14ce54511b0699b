import Glycerine.Interact.Machine
import Glycerine.Interact.Reactive

/-!
# What a program comes to

`Comes p u E A D n v`: from the history `u ++ v` on, whatever the environment answers as long as it keeps to `E`,
`p` performs at most `n` more operations until it asks for one in `A` or returns a value in `D`. `E` and `D` see what
happened since `u`.

A program that is `Reactive` comes to what every history that is long enough has come to (`Reactive.comes`). How long a
history can be is a matter of its executions (`Exec`), or of the paths of a machine (`Machine.comes`).
-/
namespace Interact

variable {S : Sig} {α : Type}

inductive Comes (p : Prog S α) (u : Trace S) (E : Trace S → Prop) (A : S.Op → Prop) (D : α → Trace S → Prop) :
    Nat → Trace S → Prop where
  | asks {n v op} : Exec p (u ++ v) (.asks op) → A op → Comes p u E A D n v
  | done {n v a} : Exec p (u ++ v) (.done a) → D a v → Comes p u E A D n v
  | next {n v op} : Exec p (u ++ v) (.asks op) →
    (∀ r, E (v ++ [⟨op, r⟩]) → Comes p u E A D n (v ++ [⟨op, r⟩])) → Comes p u E A D (n + 1) v

section
variable {p : Prog S α} {u : Trace S} {E : Trace S → Prop} {A : S.Op → Prop} {D : α → Trace S → Prop}

/-- The induction is on the number of operations that are left: a history that is as long as can be has come to
`A` or `D`, or there is no answer to it. -/
theorem Reactive.comes {n : Nat} (hp : Reactive p)
    (hlen : ∀ {v o}, Exec p (u ++ v) o → E v → (∀ e ∈ v, ¬ A e.1) → v.length ≤ n)
    (hdone : ∀ {v a}, Exec p (u ++ v) (.done a) → E v → (∀ e ∈ v, ¬ A e.1) → D a v)
    {o : Status S α} (hx : Exec p u o) (hE : E []) : Comes p u E A D (n + 1) [] := by
  have from_here : ∀ (m : Nat) (v : Trace S), v.length + m = n → E v → (∀ e ∈ v, ¬ A e.1) →
      (∃ o, Exec p (u ++ v) o) → Comes p u E A D (m + 1) v := by
    intro m
    induction m with
    | zero =>
      rintro v hv hE hA ⟨o, hx⟩
      cases o with
      | done a => exact .done hx (hdone hx hE hA)
      | asks op =>
        by_cases hop : A op
        · exact .asks hx hop
        -- an answer would make the history too long
        refine .next hx fun r hr => ?_
        obtain ⟨o, ho⟩ := hp.next hx r
        rw [List.append_assoc] at ho
        have hle := hlen ho hr (List.forall_mem_append.2 ⟨hA, List.forall_mem_singleton.2 hop⟩)
        rw [List.length_append, List.length_singleton] at hle
        omega
    | succ m ih =>
      rintro v hv hE hA ⟨o, hx⟩
      cases o with
      | done a => exact .done hx (hdone hx hE hA)
      | asks op =>
        by_cases hop : A op
        · exact .asks hx hop
        refine .next hx fun r hr => ih _ ?_ hr (List.forall_mem_append.2 ⟨hA, List.forall_mem_singleton.2 hop⟩) ?_
        · rw [List.length_append, List.length_singleton]
          omega
        · rw [← List.append_assoc]
          exact hp.next hx r
  refine from_here n [] (Nat.zero_add n) hE (by simp) ⟨o, ?_⟩
  rwa [List.append_nil]

end

/-- From the phases in `K`, of which none is further than `n` operations away, and of which no event in `R` leads out.
An event may lead back, as far as `g` says, and `E` allows `k` of that in all. -/
theorem Machine.comes {ε ρ : Type} {M : Machine S ε ρ} {p : Task S ε ρ} {u : Trace S} {E : Trace S → Prop}
    {A : S.Op → Prop} {D : Outcome ε ρ → Trace S → Prop} {K : M.Phase → Prop} {R : Event S → Prop}
    {d : M.Phase → Nat} {g : Event S → Nat} {n k : Nat} (hp : Reactive p)
    (hrun : ∀ {t o}, Exec p t o → M.Arrives t o)
    (hs : ∀ {q e q'}, M.Step q e q' → K q → R e → K q' ∧ 1 + d q' ≤ d q + g e)
    (hfrom : ∀ q, M.Path u q → K q ∧ d q ≤ n)
    (hR : ∀ {v}, E v → (∀ e ∈ v, ¬ A e.1) → (∀ e ∈ v, R e) ∧ total g v ≤ k)
    (hdone : ∀ {r v}, Exec p (u ++ v) (.done r) → K (M.returned r) → E v → D r v)
    {o : Status S (Outcome ε ρ)} (hx : Exec p u o) (hE : E []) : Comes p u E A D (n + k + 1) [] := by
  have hinv : ∀ {v q}, M.Path (u ++ v) q → E v → (∀ e ∈ v, ¬ A e.1) → K q ∧ v.length ≤ n + k := by
    intro v q hq hE hA
    obtain ⟨q₀, hu, hv⟩ := hq.split
    obtain ⟨hK₀, hn⟩ := hfrom q₀ hu
    obtain ⟨hRv, hk⟩ := hR hE hA
    obtain ⟨hK, hle⟩ := Path.spent_within (M := M.after q₀) (c := fun _ => 1) (g := g) hs hK₀ hv hRv
    rw [total_one] at hle
    refine ⟨hK, ?_⟩
    have hleft : v.length + d q ≤ d q₀ + total g v := hle
    omega
  refine hp.comes (fun hx hE hA => ?_) (fun hx hE hA => hdone hx (hinv (hrun hx) hE hA).1 hE) hx hE
  obtain ⟨q, hq⟩ := (hrun hx).path
  exact (hinv hq hE hA).2

end Interact
