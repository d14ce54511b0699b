import Glycerine.Bootstrap.ServeMachine
import Glycerine.Proxy.Ipv4Machine
import Glycerine.Proxy.NfqMachine
/-
# How a service ends that is not cancelled

A service that has never found the token cancelled returns only with an error of its own: not successfully, and not
with `GlycerineShutdown`. The sender does not panic either.
-/

namespace Glycerine
open Interact Machine

/-- An error of its own. -/
abbrev Own (e : Error) : Prop := e ≠ .glycerineShutdown

/-- The token was not found cancelled. -/
abbrev Uncancelled (e : SysEvent) : Prop := e ≠ ⟨.isCancelled, true⟩

/-- The end of a service that was not told to end. -/
def Faulty : Outcome Error Unit → Prop
  | .ok _ => False
  | .err e => Own e
  | .panic => True

/-! ## The parts that all services have -/

section
variable {A : Error → Prop} {b : ExponentialBackoff} {e : SysEvent}

theorem RetryStep.uncancelled {p p' : RetryPhase} (hs : RetryStep b p e p') (he : Uncancelled e) (hp : p.Errors A) :
    p'.Errors A := by
  cases hs with
  | cancelled => exact absurd rfl he
  | clock | giveUp => exact hp
  | start | attempt | again | sleep => trivial

theorem ListenStep.uncancelled {p p' : ListenPhase} (hs : ListenStep b p e p') (he : Uncancelled e)
    (hio : ∀ e, A (.ioVsock e)) (hp : p.Errors A) : p'.Errors A := by
  cases hs with
  | retry hr => exact hr.uncancelled he hp
  | newFails | bindFails | listenFails => exact hio _
  | new | bind | listen => trivial

theorem AcceptStep.uncancelled {l : Fd} {peerCid : Nat} {p p' : AcceptPhase} (hs : AcceptStep b l peerCid p e p')
    (he : Uncancelled e) (hio : ∀ e, A (.ioVsock e)) (hcid : A (.glycerineInvalidConfig "unexpected cid"))
    (hp : p.Errors A) : p'.Errors A := by
  cases hs with
  | retry hr => exact hr.uncancelled he hp
  | localAddrFails | acceptFails => exact hio _
  | drop => exact hcid
  | localAddr | accept | unexpected | alien | reject => trivial

theorem SinkStep.uncancelled {p p' : SinkPhase} (hs : SinkStep b p e p') (he : Uncancelled e)
    (hio : ∀ e, A (.ioIpv4Tcp e)) (hp : p.Errors A) : p'.Errors A := by
  cases hs with
  | retry hr => exact hr.uncancelled he hp
  | newFails | bindDeviceFails | headerIncludedFails | recvBufferSizeFails => exact hio _
  | new | bindDevice | headerIncluded | recvBufferSize => trivial

/-- What no uncancelled step breaks holds where the service has returned. -/
theorem faulty_of_steps {M : Machine sysSig Error Unit} {J : M.Phase → Prop} {h : History} {r : Outcome Error Unit}
    (h₀ : J M.start) (hs : ∀ {p e p'}, M.Step p e p' → Uncancelled e → J p → J p') (hp : M.Path h (M.returned r))
    (hc : ⟨.isCancelled, true⟩ ∉ h) : J (M.returned r) := by
  have key : ∀ {h p}, M.Path h p → ⟨.isCancelled, true⟩ ∉ h → J p := by
    intro h p hp
    induction hp with
    | nil => exact fun _ => h₀
    | snoc _ hst ih =>
      intro hc
      refine hs hst (fun he => hc ?_) (ih fun hmem => hc (List.mem_append_left _ hmem))
      rw [he]
      simp
  exact key hp hc

end

/-! ## The sender -/

namespace NfqToVsock
variable {self : NfqToVsock} {e : SysEvent} {p p' : Phase}

def Phase.Faulty : Phase → Prop
  | .queue _ p | .connect _ _ p => p.Errors Own
  | .returned r => ∃ e, r = .err e ∧ Own e
  | _ => True

theorem faulty_inQueue {c : Option Fd} {p : RetryPhase} (hp : p.Errors Own) : (Phase.inQueue c p).Faulty := by
  cases p with
  | gaveUp e => exact ⟨e, rfl, hp⟩
  | _ => exact hp

theorem faulty_inConnect {q : Fd} {old : Option Fd} {p : RetryPhase} (hp : p.Errors Own) :
    (Phase.inConnect q old p).Faulty := by
  cases p with
  | gaveUp e => exact ⟨e, rfl, hp⟩
  | _ => exact hp

theorem faulty_step (hs : Step self p e p') (he : Uncancelled e) (hp : p.Faulty) : p'.Faulty := by
  cases hs with
  | queueRetry hr => exact faulty_inQueue (hr.uncancelled he hp)
  | connectRetry hr => exact faulty_inConnect (hr.uncancelled he hp)
  | idleCancelled | readyCancelled => exact absurd rfl he
  | queueOpenFails | queueBindFails | queueEnobufsFails | queueMaxLenFails => exact nofun
  | socketNewFails | connectFails | connectedFails => exact nofun
  | prepareFails | halfCloseFails => exact ⟨_, rfl, nofun⟩
  | @queueMaxLen c => cases c <;> trivial
  | @halfClose q old => cases old <;> trivial
  | _ => trivial

theorem run_faulty {h : History} {r : Outcome Error Unit} (hx : Exec self.run h (.done r))
    (hc : ⟨.isCancelled, true⟩ ∉ h) : ∃ e, r = .err e ∧ Own e :=
  faulty_of_steps (M := self.machine) (J := Phase.Faulty) trivial faulty_step (run_path hx) hc

end NfqToVsock

/-! ## The receiver -/

namespace VsockToIpv4
variable {self : VsockToIpv4} {e : SysEvent} {p p' : Phase}

def Phase.Faulty : Phase → Prop
  | .listen p => p.Errors Own
  | .accepting _ _ p => p.Errors Own
  | .sink _ _ _ p => p.Errors Own
  | .returned r => Glycerine.Faulty r
  | _ => True

theorem faulty_inListen {p : ListenPhase} (hp : p.Errors Own) : (Phase.inListen p).Faulty := by
  rcases p.ended_cases with ⟨_, rfl⟩ | ⟨_, rfl⟩ | he
  · exact hp
  · trivial
  · rwa [inListen_of_not_ended he]

theorem faulty_inAccept {l : Fd} {raw : Option (Fd × Fd)} {p : AcceptPhase} (hp : p.Errors Own) :
    (Phase.inAccept l raw p).Faulty := by
  rcases p.ended_cases with ⟨_, rfl⟩ | ⟨_, rfl⟩ | rfl | he
  · exact hp
  · trivial
  · trivial
  · rwa [inAccept_of_not_ended he]

theorem faulty_inSink {l src : Fd} {o : Opening} {p : SinkPhase} (hp : p.Errors Own) :
    (Phase.inSink l src o p).Faulty := by
  rcases p.ended_cases with ⟨_, rfl⟩ | ⟨_, rfl⟩ | he
  · exact hp
  · cases o <;> trivial
  · rwa [inSink_of_not_ended he]

/-- A header that is refused is an error of its own. -/
theorem own_of_header {bs : Bytes} {e : Error} (h : ipv4TotalLen bs = .error e) : Own e := by
  rintro rfl
  unfold ipv4TotalLen at h
  simp only at h
  split at h
  · cases h
  · split at h
    · cases h
    · split at h <;> cases h

theorem faulty_onBytes {l : Fd} {s : Sockets} {got : Bytes} : (Phase.onBytes l s got).Faulty := by
  unfold Phase.onBytes
  split
  · trivial
  · cases hlen : ipv4TotalLen (got.take 20) with
    | error e => exact own_of_header hlen
    | ok r =>
      obtain ⟨n, pr⟩ := r
      dsimp only
      split
      · trivial
      · unfold Phase.dispatch
        split <;> trivial

theorem faulty_step (hs : Step self p e p') (he : Uncancelled e) (hp : p.Faulty) : p'.Faulty := by
  cases hs with
  | listen hr => exact faulty_inListen (hr.uncancelled he (fun _ => nofun) hp)
  | accepting hr => exact faulty_inAccept (hr.uncancelled he (fun _ => nofun) nofun hp)
  | sink hr => exact faulty_inSink (hr.uncancelled he (fun _ => nofun) hp)
  | idleCancelled | readyCancelled => exact absurd rfl he
  | prepareFails | halfCloseFails => exact nofun
  | @halfClose l raw => cases raw <;> trivial
  | read => exact faulty_onBytes
  | send => split <;> trivial
  | _ => trivial

theorem run_faulty {h : History} {r : Outcome Error Unit} (hx : Exec self.run h (.done r))
    (hc : ⟨.isCancelled, true⟩ ∉ h) : Glycerine.Faulty r :=
  faulty_of_steps (M := self.machine) (J := Phase.Faulty) trivial faulty_step (run_path hx) hc

end VsockToIpv4

/-! ## The bootstrap service -/

namespace Bootstrap
variable {self : Bootstrap} {e : SysEvent} {p p' : Phase}

def Phase.Faulty : Phase → Prop
  | .listen p => p.Errors Own
  | .accepting _ p => p.Errors Own
  | .returned r => Glycerine.Faulty r
  | _ => True

theorem faulty_inListen {p : ListenPhase} (hp : p.Errors Own) : (Phase.inListen p).Faulty := by
  rcases p.ended_cases with ⟨_, rfl⟩ | ⟨_, rfl⟩ | he
  · exact hp
  · trivial
  · rwa [inListen_of_not_ended he]

theorem faulty_inAccept {l : Fd} {p : AcceptPhase} (hp : p.Errors Own) : (Phase.inAccept l p).Faulty := by
  rcases p.ended_cases with ⟨_, rfl⟩ | ⟨_, rfl⟩ | rfl | he
  · exact hp
  · trivial
  · trivial
  · rwa [inAccept_of_not_ended he]

theorem faulty_onWritten {l c : Fd} {pos : Nat} : (Phase.onWritten self l c pos).Faulty := by
  unfold Phase.onWritten
  split <;> trivial

theorem faulty_step (hs : Step self p e p') (he : Uncancelled e) (hp : p.Faulty) : p'.Faulty := by
  cases hs with
  | listen hr => exact faulty_inListen (hr.uncancelled he (fun _ => nofun) hp)
  | accepting hr => exact faulty_inAccept (hr.uncancelled he (fun _ => nofun) nofun hp)
  | idleCancelled => exact absurd rfl he
  | prepareFails | halfCloseFails | writeTimeoutFails => exact nofun
  | writeTimeout | write => exact faulty_onWritten
  | _ => trivial

theorem run_faulty {h : History} {r : Outcome Error Unit} (hx : Exec self.run h (.done r))
    (hc : ⟨.isCancelled, true⟩ ∉ h) : Glycerine.Faulty r :=
  faulty_of_steps (M := self.machine) (J := Phase.Faulty) trivial faulty_step (run_path hx) hc

end Bootstrap
end Glycerine
