import Glycerine.Bootstrap.ServeMachine
import Glycerine.Proxy.Ipv4Machine
import Glycerine.Proxy.NfqMachine
/-
# No work begins without a look at the token

`Starts` are the operations with which the services begin something: they receive a message, read the first bytes of
a packet, write to a client, or attempt to open, connect or accept. Wherever this is, in the loops, in a retry or
in the recovery of a failure, the operation before it was a look at the token that found it not cancelled
(`run_guarded`). So after a cancellation at most one thing is begun (`atMostOne_of_guarded`). And each sleep lasts
for the delay that the backoff gave just before.
-/

namespace Glycerine
open Interact Machine

/-- The last operation was a look at the token that found it not cancelled, or only the address of a socket was
asked for since. -/
inductive Looked : History → Prop where
  | look {u} : Looked (u ++ [⟨.isCancelled, false⟩])
  | localAddr {u l a} : Looked u → Looked (u ++ [⟨.localAddr l, a⟩])

/-- The event begins something new. A read does so right after a look at the token; others go on with a packet. -/
def Starts (u : History) : SysEvent → Prop
  | ⟨.recv _, _⟩ | ⟨.queueOpen, _⟩ | ⟨.socketNew _ _ _, _⟩ | ⟨.accept _, _⟩ | ⟨.write _ _, _⟩ => True
  | ⟨.read _ _, _⟩ => ∃ w c, u = w ++ [⟨.isCancelled, c⟩]
  | _ => False

/-- The last operation gave the delay before the next attempt. -/
def Delayed (d : Nat) (h : History) : Prop := ∃ w b t, h = w ++ [⟨.nextBackoff b t, some d⟩]

/-- What begins something comes after a look at the token, and a sleep lasts as long as the backoff says. -/
def Guarded (u : History) (e : SysEvent) : Prop :=
  (Starts u e → Looked u) ∧ ∀ d, e = ⟨.sleep d, ()⟩ → Delayed d u

/-- Of the events of `v`, after `u`, at most one satisfies `R`. -/
def AtMostOne (R : History → SysEvent → Prop) (u v : History) : Prop :=
  ∀ v₁ e v₂ e' v₃, v = v₁ ++ e :: v₂ ++ e' :: v₃ → R (u ++ v₁) e → ¬ R (u ++ v₁ ++ e :: v₂) e'

section
variable {u v h : History} {e : SysEvent} {b : ExponentialBackoff}

def IsLocalAddr : SysOp → Prop
  | .localAddr _ => True
  | _ => False

/-- Since the look nothing happened but questions for an address. -/
theorem Looked.since (hl : Looked h) (hv : h = u ++ v) (hc : ⟨.isCancelled, false⟩ ∉ v) :
    ∀ e ∈ v, IsLocalAddr e.1 := by
  induction hl generalizing v with
  | look =>
    rcases List.eq_nil_or_concat v with rfl | ⟨v, e, rfl⟩
    · exact fun _ hx => absurd hx List.not_mem_nil
    · rw [List.concat_eq_append, ← List.append_assoc] at hv
      cases (List.append_inj' hv rfl).2
      exact absurd (by simp) hc
  | localAddr _ ih =>
    rcases List.eq_nil_or_concat v with rfl | ⟨v, e, rfl⟩
    · exact fun _ hx => absurd hx List.not_mem_nil
    · rw [List.concat_eq_append] at hv hc ⊢
      rw [← List.append_assoc] at hv
      obtain ⟨hu, he⟩ := List.append_inj' hv rfl
      cases he
      have hrest := ih hu fun hmem => hc (List.mem_append_left _ hmem)
      intro x hx
      rcases List.mem_append.1 hx with hx | hx
      · exact hrest x hx
      · rw [List.mem_singleton.1 hx]
        trivial

theorem Starts.not_localAddr (hs : Starts u e) : ¬ IsLocalAddr e.1 := by
  obtain ⟨op, a⟩ := e
  cases op with
  | localAddr => exact hs.elim
  | _ => exact not_false

/-- **At most one thing is begun** once the token is cancelled. -/
theorem atMostOne_of_guarded (hg : Throughout Guarded (u ++ v)) (hc : ⟨.isCancelled, false⟩ ∉ v) :
    AtMostOne Starts u v := by
  rintro v₁ e v₂ e' v₃ rfl hs hs'
  have hl : Looked (u ++ v₁ ++ e :: v₂) := (hg _ e' ⟨v₃, by simp⟩).1 hs'
  refine hs.not_localAddr (hl.since rfl (fun hmem => hc ?_) e (by simp))
  exact List.mem_append_left _ (List.mem_append_right _ hmem)

/-! ## The parts that all services have -/

/-- The operation that is retried begins after a look at the token. -/
def RetryPhase.Begun : RetryPhase → History → Prop
  | .running _ => Looked
  | .sleeping _ d => Delayed d
  | _ => fun _ => True

theorem RetryStep.begun {p p' : RetryPhase} (hs : RetryStep b p e p') (hp : p.Begun h) :
    Guarded h e ∧ p'.Begun (h ++ [e]) := by
  cases hs with
  | attempt => exact ⟨⟨nofun, nofun⟩, .look⟩
  | again => exact ⟨⟨nofun, nofun⟩, _, _, _, rfl⟩
  | sleep =>
    refine ⟨⟨nofun, fun d hd => ?_⟩, trivial⟩
    cases hd
    exact hp
  | start | cancelled | clock | giveUp => exact ⟨⟨nofun, nofun⟩, trivial⟩

def ListenPhase.Begun : ListenPhase → History → Prop
  | .retry p => p.Begun
  | _ => fun _ => True

theorem ListenStep.begun {p p' : ListenPhase} (hs : ListenStep b p e p') (hp : p.Begun h) :
    Guarded h e ∧ p'.Begun (h ++ [e]) := by
  cases hs with
  | retry hr => exact hr.begun hp
  | new | newFails => exact ⟨⟨fun _ => hp, nofun⟩, trivial⟩
  | bind | bindFails | listen | listenFails => exact ⟨⟨nofun, nofun⟩, trivial⟩

def AcceptPhase.Begun : AcceptPhase → History → Prop
  | .retry p => p.Begun
  | .accept _ => Looked
  | _ => fun _ => True

theorem AcceptStep.begun {l : Fd} {cid : Nat} {p p' : AcceptPhase} (hs : AcceptStep b l cid p e p')
    (hp : p.Begun h) : Guarded h e ∧ p'.Begun (h ++ [e]) := by
  cases hs with
  | retry hr => exact hr.begun hp
  | localAddr => exact ⟨⟨nofun, nofun⟩, .localAddr hp⟩
  | accept | acceptFails | unexpected | alien => exact ⟨⟨fun _ => hp, nofun⟩, trivial⟩
  | localAddrFails | reject | drop => exact ⟨⟨nofun, nofun⟩, trivial⟩

def SinkPhase.Begun : SinkPhase → History → Prop
  | .retry p => p.Begun
  | _ => fun _ => True

theorem SinkStep.begun {p p' : SinkPhase} (hs : SinkStep b p e p') (hp : p.Begun h) :
    Guarded h e ∧ p'.Begun (h ++ [e]) := by
  cases hs with
  | retry hr => exact hr.begun hp
  | new | newFails => exact ⟨⟨fun _ => hp, nofun⟩, trivial⟩
  | bindDevice | bindDeviceFails | headerIncluded | headerIncludedFails | recvBufferSize | recvBufferSizeFails =>
    exact ⟨⟨nofun, nofun⟩, trivial⟩

/-- What holds in each phase. -/
theorem guarded_of_step {M : Machine sysSig Error Unit} {J : M.Phase → History → Prop} (h₀ : J M.start [])
    (hstep : ∀ {p e p' h}, M.Step p e p' → J p h → Guarded h e ∧ J p' (h ++ [e]))
    {o : Status sysSig (Outcome Error Unit)} (harr : M.Arrives h o) : Throughout Guarded h := by
  obtain ⟨p, hp⟩ := harr.path
  exact (hp.inv (E := anyEnv) (J := fun p h => Throughout Guarded h ∧ J p h) ⟨throughout_nil, h₀⟩
    (fun hs hj _ => ⟨throughout_snoc.2 ⟨hj.1, (hstep hs hj.2).1⟩, (hstep hs hj.2).2⟩) trivial).1

end

/-! ## The sender -/

namespace NfqToVsock

section
variable {self : NfqToVsock} {h : History} {e : SysEvent}

def Phase.Begun : Phase → History → Prop
  | .queue _ p | .connect _ _ p => p.Begun
  | .receiving _ _ => Looked
  | _ => fun _ => True

theorem begun_inQueue {c : Option Fd} {p : RetryPhase} (hp : p.Begun h) : (Phase.inQueue c p).Begun h := by
  cases p with
  | gaveUp => trivial
  | _ => exact hp

theorem begun_inConnect {q : Fd} {old : Option Fd} {p : RetryPhase} (hp : p.Begun h) :
    (Phase.inConnect q old p).Begun h := by
  cases p with
  | gaveUp => trivial
  | _ => exact hp

theorem begun_step {p p' : Phase} (hs : Step self p e p') (hp : p.Begun h) :
    Guarded h e ∧ p'.Begun (h ++ [e]) := by
  cases hs with
  | queueRetry hr =>
    obtain ⟨hg, hb⟩ := hr.begun hp
    exact ⟨hg, begun_inQueue hb⟩
  | connectRetry hr =>
    obtain ⟨hg, hb⟩ := hr.begun hp
    exact ⟨hg, begun_inConnect hb⟩
  | queueOpen | queueOpenFails | socketNew | socketNewFails => exact ⟨⟨fun _ => hp, nofun⟩, trivial⟩
  | recv | recvOverflow | recvFails => exact ⟨⟨fun _ => hp, nofun⟩, trivial⟩
  | ready => exact ⟨⟨nofun, nofun⟩, .look⟩
  | @queueMaxLen c => cases c <;> exact ⟨⟨nofun, nofun⟩, trivial⟩
  | @halfClose q old => cases old <;> exact ⟨⟨nofun, nofun⟩, trivial⟩
  | _ => exact ⟨⟨nofun, nofun⟩, trivial⟩

theorem run_guarded {o : Status sysSig (Outcome Error Unit)} (hx : Exec self.run h o) : Throughout Guarded h :=
  guarded_of_step (M := self.machine) (J := Phase.Begun) trivial begun_step (run_path hx)

end

end NfqToVsock

/-! ## The receiver -/

namespace VsockToIpv4

section
variable {self : VsockToIpv4} {h : History} {e : SysEvent}

def Phase.Begun : Phase → History → Prop
  | .listen p => p.Begun
  | .accepting _ _ p => p.Begun
  | .sink _ _ _ p => p.Begun
  | .packet _ _ _ => fun h => ∀ w c, h = w ++ [⟨.isCancelled, c⟩] → Looked h
  | _ => fun _ => True

theorem begun_inListen {p : ListenPhase} (hp : p.Begun h) : (Phase.inListen p).Begun h := by
  rcases p.ended_cases with ⟨_, rfl⟩ | ⟨_, rfl⟩ | he
  · trivial
  · trivial
  · rw [inListen_of_not_ended he]
    exact hp

theorem begun_inAccept {l : Fd} {raw : Option (Fd × Fd)} {p : AcceptPhase} (hp : p.Begun h) :
    (Phase.inAccept l raw p).Begun h := by
  rcases p.ended_cases with ⟨_, rfl⟩ | ⟨_, rfl⟩ | rfl | he
  · trivial
  · trivial
  · trivial
  · rw [inAccept_of_not_ended he]
    exact hp

theorem begun_inSink {l src : Fd} {o : Opening} {p : SinkPhase} (hp : p.Begun h) :
    (Phase.inSink l src o p).Begun h := by
  rcases p.ended_cases with ⟨_, rfl⟩ | ⟨_, rfl⟩ | he
  · trivial
  · cases o <;> trivial
  · rw [inSink_of_not_ended he]
    exact hp

/-- A later read of a packet is not the first thing after a look. -/
theorem begun_packet {l : Fd} {s : Sockets} {got : Bytes} (he : ∀ c, e ≠ ⟨.isCancelled, c⟩) :
    (Phase.packet l s got).Begun (h ++ [e]) := by
  intro w c hw
  obtain ⟨-, hlast⟩ := List.append_inj' hw rfl
  exact absurd (List.singleton_inj.1 hlast) (he c)

theorem begun_onBytes {l : Fd} {s : Sockets} {got : Bytes} (he : ∀ c, e ≠ ⟨.isCancelled, c⟩) :
    (Phase.onBytes l s got).Begun (h ++ [e]) := by
  have hdispatch : ∀ pr, (Phase.dispatch l s pr got).Begun (h ++ [e]) := fun pr => by
    unfold Phase.dispatch
    split <;> trivial
  unfold Phase.onBytes
  split
  · exact begun_packet he
  · split
    · trivial
    · split
      · exact begun_packet he
      · exact hdispatch _

theorem begun_step {p p' : Phase} (hs : Step self p e p') (hp : p.Begun h) :
    Guarded h e ∧ p'.Begun (h ++ [e]) := by
  cases hs with
  | listen hl =>
    obtain ⟨hg, hb⟩ := hl.begun hp
    exact ⟨hg, begun_inListen hb⟩
  | accepting ha =>
    obtain ⟨hg, hb⟩ := ha.begun hp
    exact ⟨hg, begun_inAccept hb⟩
  | sink hk =>
    obtain ⟨hg, hb⟩ := hk.begun hp
    exact ⟨hg, begun_inSink hb⟩
  | ready => exact ⟨⟨nofun, nofun⟩, fun _ _ _ => .look⟩
  | read => exact ⟨⟨fun ⟨w, c, hw⟩ => hp w c hw, nofun⟩, begun_onBytes nofun⟩
  | readInterrupted => exact ⟨⟨fun ⟨w, c, hw⟩ => hp w c hw, nofun⟩, begun_packet nofun⟩
  | readEof | readFails => exact ⟨⟨fun ⟨w, c, hw⟩ => hp w c hw, nofun⟩, trivial⟩
  | @halfClose l raw => cases raw <;> exact ⟨⟨nofun, nofun⟩, trivial⟩
  | send => exact ⟨⟨nofun, nofun⟩, by split <;> trivial⟩
  | _ => exact ⟨⟨nofun, nofun⟩, trivial⟩

theorem run_guarded {o : Status sysSig (Outcome Error Unit)} (hx : Exec self.run h o) : Throughout Guarded h :=
  guarded_of_step (M := self.machine) (J := Phase.Begun) trivial begun_step (run_path hx)

end

end VsockToIpv4

/-! ## The bootstrap service -/

namespace Bootstrap

section
variable {self : Bootstrap} {h : History} {e : SysEvent}

def Phase.Begun : Phase → History → Prop
  | .listen p => p.Begun
  | .accepting _ p => p.Begun
  | .writing _ _ _ => Looked
  | _ => fun _ => True

theorem begun_inListen {p : ListenPhase} (hp : p.Begun h) : (Phase.inListen p).Begun h := by
  rcases p.ended_cases with ⟨_, rfl⟩ | ⟨_, rfl⟩ | he
  · trivial
  · trivial
  · rw [inListen_of_not_ended he]
    exact hp

theorem begun_inAccept {l : Fd} {p : AcceptPhase} (hp : p.Begun h) : (Phase.inAccept l p).Begun h := by
  rcases p.ended_cases with ⟨_, rfl⟩ | ⟨_, rfl⟩ | rfl | he
  · trivial
  · trivial
  · trivial
  · rw [inAccept_of_not_ended he]
    exact hp

theorem begun_onWritten {l c : Fd} {pos : Nat} : (Phase.onWritten self l c pos).Begun h := by
  unfold Phase.onWritten
  split <;> trivial

theorem begun_step {p p' : Phase} (hs : Step self p e p') (hp : p.Begun h) :
    Guarded h e ∧ p'.Begun (h ++ [e]) := by
  cases hs with
  | listen hl =>
    obtain ⟨hg, hb⟩ := hl.begun hp
    exact ⟨hg, begun_inListen hb⟩
  | accepting ha =>
    obtain ⟨hg, hb⟩ := ha.begun hp
    exact ⟨hg, begun_inAccept hb⟩
  | writeTimeout => exact ⟨⟨nofun, nofun⟩, begun_onWritten⟩
  | serving => exact ⟨⟨nofun, nofun⟩, .look⟩
  | write => exact ⟨⟨fun _ => hp, nofun⟩, begun_onWritten⟩
  | writeZero | writeFails => exact ⟨⟨fun _ => hp, nofun⟩, trivial⟩
  | _ => exact ⟨⟨nofun, nofun⟩, trivial⟩

theorem run_guarded {o : Status sysSig (Outcome Error Unit)} (hx : Exec self.run h o) : Throughout Guarded h :=
  guarded_of_step (M := self.machine) (J := Phase.Begun) trivial begun_step (run_path hx)

end

end Bootstrap

end Glycerine
