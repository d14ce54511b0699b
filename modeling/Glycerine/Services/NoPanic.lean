import Glycerine.Bootstrap.ServeMachine
import Glycerine.Proxy.Ipv4Machine
import Glycerine.Proxy.NfqMachine
/-
# What makes a service panic

`accept_connection` takes the address of a connection for a vsock address by `expect` (`vsock.rs:45`). Of the panics
that the services have this is the only one that an answer from outside can cause: the slices of packets
(`worker/ipv4.rs:137-190`) are within bounds, and `unreachable!` (`:184`) is not reached.
-/

namespace Glycerine
open Interact Machine

/-- A connection that comes from no vsock address. -/
def Alien : SysEvent → Prop
  | ⟨.accept _, .ok (_, .inet _ _)⟩ => True
  | _ => False

instance : DecidablePred Alien := fun e =>
  decidable_of_bool (match e with
    | ⟨.accept _, .ok (_, .inet _ _)⟩ => true
    | _ => false) (by unfold Alien; split <;> simp)

/-- A machine panics only by the last event of a run. -/
theorem panics_by_last {M : Machine sysSig Error Unit} {R : SysEvent → Prop} {h : History}
    (h₀ : M.start ≠ M.returned .panic) (hs : ∀ {p e}, M.Step p e (M.returned .panic) → R e)
    (hp : M.Path h (M.returned .panic)) : ∃ e ∈ h, R e := by
  rcases List.eq_nil_or_concat h with rfl | ⟨h, e, rfl⟩
  · generalize hq : M.returned .panic = q at hp
    generalize ht : ([] : History) = t at hp
    cases hp with
    | nil => exact absurd hq.symm h₀
    | snoc _ _ => simp at ht
  · rw [List.concat_eq_append] at hp ⊢
    obtain ⟨p, -, hlast⟩ := hp.last
    exact ⟨e, by simp, hs hlast⟩

theorem AcceptStep.alien_of_panicked {b : ExponentialBackoff} {l : Fd} {cid : Nat} {p : AcceptPhase} {e : SysEvent}
    (hs : AcceptStep b l cid p e .panicked) : Alien e := by
  cases hs with
  | alien => trivial

namespace NfqToVsock
variable {self : NfqToVsock} {p p' : Phase} {e : SysEvent}

theorem not_panic_of_step (hs : Step self p e p') : p' ≠ .returned .panic := by
  intro hp
  cases hs with
  | @queueRetry c p e p' | @connectRetry q old p e p' => cases p' <;> cases hp
  | @queueMaxLen c => cases c <;> cases hp
  | @halfClose q old => cases old <;> cases hp
  | _ => cases hp

theorem run_neverPanics : Task.NeverPanics self.run := by
  intro h hx
  obtain ⟨e, -, he⟩ := panics_by_last (M := self.machine) (R := fun _ => False) nofun
    (fun hs => not_panic_of_step hs rfl) (run_path hx)
  exact he

end NfqToVsock

namespace VsockToIpv4
variable {self : VsockToIpv4} {p p' : Phase} {e : SysEvent}

theorem onBytes_ne_panic {l : Fd} {s : Sockets} {got : Bytes} : Phase.onBytes l s got ≠ .returned .panic := by
  unfold Phase.onBytes Phase.dispatch
  split
  · nofun
  · split
    · nofun
    · split
      · nofun
      · split <;> nofun

theorem alien_of_step (hs : Step self p e p') (hp : p' = .returned .panic) : Alien e := by
  cases hs with
  | @accepting l raw p e p' hr =>
    rcases p'.ended_cases with ⟨_, rfl⟩ | ⟨_, rfl⟩ | rfl | he
    · cases hp
    · cases hp
    · exact hr.alien_of_panicked
    · rw [inAccept_of_not_ended he] at hp
      cases hp
  | @listen p e p' =>
    rcases p'.ended_cases with ⟨_, rfl⟩ | ⟨_, rfl⟩ | he
    · cases hp
    · cases hp
    · rw [inListen_of_not_ended he] at hp
      cases hp
  | @sink l src o p e p' =>
    rcases p'.ended_cases with ⟨_, rfl⟩ | ⟨_, rfl⟩ | he
    · cases hp
    · cases o <;> cases hp
    · rw [inSink_of_not_ended he] at hp
      cases hp
  | @halfClose l raw => cases raw <;> cases hp
  | read => exact absurd hp onBytes_ne_panic
  | send => split at hp <;> cases hp
  | _ => cases hp

theorem run_alien {h : History} (hx : Exec self.run h (.done .panic)) : ∃ e ∈ h, Alien e :=
  panics_by_last (M := self.machine) nofun (fun hs => alien_of_step hs rfl) (run_path hx)

end VsockToIpv4

namespace Bootstrap
variable {self : Bootstrap} {p p' : Phase} {e : SysEvent}

theorem onWritten_ne_panic {l c : Fd} {pos : Nat} : Phase.onWritten self l c pos ≠ .returned .panic := by
  unfold Phase.onWritten
  split <;> nofun

theorem alien_of_step (hs : Step self p e p') (hp : p' = .returned .panic) : Alien e := by
  cases hs with
  | @accepting l p e p' hr =>
    rcases p'.ended_cases with ⟨_, rfl⟩ | ⟨_, rfl⟩ | rfl | he
    · cases hp
    · cases hp
    · exact hr.alien_of_panicked
    · rw [inAccept_of_not_ended he] at hp
      cases hp
  | @listen p e p' =>
    rcases p'.ended_cases with ⟨_, rfl⟩ | ⟨_, rfl⟩ | he
    · cases hp
    · cases hp
    · rw [inListen_of_not_ended he] at hp
      cases hp
  | writeTimeout | write => exact absurd hp onWritten_ne_panic
  | _ => cases hp

theorem run_alien {h : History} (hx : Exec self.run h (.done .panic)) : ∃ e ∈ h, Alien e :=
  panics_by_last (M := self.machine) nofun (fun hs => alien_of_step hs rfl) (run_path hx)

end Bootstrap

end Glycerine
