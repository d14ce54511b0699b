import Glycerine.Interact.Machine
import Glycerine.System.Rules
/-
# Listening, accepting and opening raw sockets, step by step

`ListenStep`, `AcceptStep` and `SinkStep` are `new_listener_socket_with_backoff` (`vsock.rs:205`),
`accept_connection_with_backoff` (`vsock.rs:67`) and `new_sink_socket_with_backoff` (`ipv4.rs:108`) as parts of
a state machine, retries included. The two services share the first two.
-/

namespace Glycerine
open Interact

variable {E : Env sysSig} {I : History → Prop} {b : ExponentialBackoff}

/-! ## The listener -/

inductive ListenPhase where
  | retry (p : RetryPhase)
  | bind (start : Nat) (l : Fd)
  | listen (start : Nat) (l : Fd)
  | listening (l : Fd)

inductive ListenStep (b : ExponentialBackoff) : ListenPhase → SysEvent → ListenPhase → Prop where
  | retry {p e p'} : RetryStep b p e p' → ListenStep b (.retry p) e (.retry p')
  | new {start d t p l} :
    ListenStep b (.retry (.running start)) ⟨.socketNew d t p, .ok l⟩ (.bind start l)
  | newFails {start d t p e} :
    ListenStep b (.retry (.running start)) ⟨.socketNew d t p, .error e⟩ (.retry (.failed start (.ioVsock e)))
  | bind {start l a} : ListenStep b (.bind start l) ⟨.bind l a, .ok ()⟩ (.listen start l)
  | bindFails {start l a e} :
    ListenStep b (.bind start l) ⟨.bind l a, .error e⟩ (.retry (.failed start (.ioVsock e)))
  | listen {start l n} : ListenStep b (.listen start l) ⟨.listen l n, .ok ()⟩ (.listening l)
  | listenFails {start l n e} :
    ListenStep b (.listen start l) ⟨.listen l n, .error e⟩ (.retry (.failed start (.ioVsock e)))

/-- The part has returned. -/
def ListenPhase.Ended : ListenPhase → Prop
  | .retry p => p.Ended
  | .listening _ => True
  | _ => False

theorem ListenPhase.ended_cases (p : ListenPhase) :
    (∃ e, p = .retry (.gaveUp e)) ∨ (∃ l, p = .listening l) ∨ ¬ p.Ended := by
  cases p with
  | retry p =>
    cases p with
    | gaveUp e => exact .inl ⟨e, rfl⟩
    | _ => exact .inr (.inr not_false)
  | listening l => exact .inr (.inl ⟨l, rfl⟩)
  | bind | listen => exact .inr (.inr not_false)

/-- Where a service is that has this part: at what follows it once it has returned, and else inside of it. -/
def ListenPhase.whole {Φ : Type} (failed : Error → Φ) (listening : Fd → Φ) (inside : ListenPhase → Φ) :
    ListenPhase → Φ
  | .retry (.gaveUp e) => failed e
  | .listening l => listening l
  | p => inside p

theorem ListenPhase.whole_of_not_ended {Φ : Type} {failed : Error → Φ} {listening : Fd → Φ}
    {inside : ListenPhase → Φ} {p : ListenPhase} (hp : ¬ p.Ended) :
    p.whole failed listening inside = inside p := by
  match p with
  | .retry (.gaveUp _) | .listening _ => exact absurd trivial hp
  | .retry .begin | .retry (.attempt _) | .retry (.running _) | .retry (.failed _ _)
  | .retry (.asking _ _ _) | .retry (.sleeping _ _) | .bind _ _ | .listen _ _ => rfl

theorem ListenStep.not_ended {p p' : ListenPhase} {e : SysEvent} (hs : ListenStep b p e p') : ¬ p.Ended := by
  cases hs with
  | retry hr => exact hr.not_ended
  | _ => exact not_false

def ListenPhase.Errors (A : Error → Prop) : ListenPhase → Prop
  | .retry p => p.Errors A
  | _ => True

theorem ListenStep.errors {A : Error → Prop} {p p' : ListenPhase} {e : SysEvent} (hs : ListenStep b p e p')
    (hA : A .glycerineShutdown) (hio : ∀ e, A (.ioVsock e)) (hp : p.Errors A) : p'.Errors A := by
  cases hs with
  | retry hr => exact hr.errors hA hp
  | newFails | bindFails | listenFails => exact hio _
  | new | bind | listen => trivial

theorem triple_newListenerSocketWithBackoff {J : ListenPhase → History → Prop}
    (hI : ∀ p, ¬ p.Ended → ∀ h, J p h → E.ok h → I h)
    (hJ : ∀ {p e p' h}, ListenStep b p e p' → J p h → E.ok (h ++ [e]) → J p' (h ++ [e]))
    (addr : SockAddr) (X : History → Prop) :
    Triple E I (J (.retry .begin)) (Vsock.newListenerSocketWithBackoff addr b)
      (Outcome.post (fun l => J (.listening l)) (fun e => J (.retry (.gaveUp e))) X) := by
  refine triple_withBackoff (J := fun p => J (.retry p)) (fun p => hI (.retry p)) (fun hs => hJ (.retry hs))
    (fun start => ?_) (fun _ _ hp => hp)
  refine Task.triple_seq (fun l => J (.bind start l))
    (Task.triple_mapErr (Task.triple_call (hI _ nofun) fun h r hp hE => ?_)) fun l => ?_
  · cases r with
    | ok l => exact hJ .new hp hE
    | error e => exact hJ .newFails hp hE
  refine Task.triple_seq (fun _ => J (.listen start l))
    (Task.triple_mapErr (Task.triple_call (hI _ nofun) fun h r hp hE => ?_)) fun _ => ?_
  · cases r with
    | ok _ => exact hJ .bind hp hE
    | error e => exact hJ .bindFails hp hE
  refine Task.triple_seq (fun _ => J (.listening l))
    (Task.triple_mapErr (Task.triple_call (hI _ nofun) fun h r hp hE => ?_)) fun _ => Task.triple_ret
      fun h hp _ => hp
  cases r with
  | ok _ => exact hJ .listen hp hE
  | error e => exact hJ .listenFails hp hE

/-! ## Accepting -/

inductive AcceptPhase where
  | retry (p : RetryPhase)
  | accept (start : Nat)
  /-- a connection from another CID is about to be shut down -/
  | reject (start : Nat) (c : Fd)
  | drop (start : Nat) (c : Fd)
  | accepted (r : Fd × SockAddr)
  /-- `expect` on an address that is not a vsock address -/
  | panicked

inductive AcceptStep (b : ExponentialBackoff) (l : Fd) (peerCid : Nat) :
    AcceptPhase → SysEvent → AcceptPhase → Prop where
  | retry {p e p'} : RetryStep b p e p' → AcceptStep b l peerCid (.retry p) e (.retry p')
  | localAddr {start a} :
    AcceptStep b l peerCid (.retry (.running start)) ⟨.localAddr l, .ok a⟩ (.accept start)
  | localAddrFails {start e} :
    AcceptStep b l peerCid (.retry (.running start)) ⟨.localAddr l, .error e⟩
      (.retry (.failed start (.ioVsock e)))
  | accept {start c port} :
    AcceptStep b l peerCid (.accept start) ⟨.accept l, .ok (c, .vsock peerCid port)⟩
      (.accepted (c, .vsock peerCid port))
  | acceptFails {start e} :
    AcceptStep b l peerCid (.accept start) ⟨.accept l, .error e⟩ (.retry (.failed start (.ioVsock e)))
  | unexpected {start c cid port} : cid ≠ peerCid →
    AcceptStep b l peerCid (.accept start) ⟨.accept l, .ok (c, .vsock cid port)⟩ (.reject start c)
  | alien {start c a port} :
    AcceptStep b l peerCid (.accept start) ⟨.accept l, .ok (c, .inet a port)⟩ .panicked
  | reject {start c r} : AcceptStep b l peerCid (.reject start c) ⟨.shutdown c .both, r⟩ (.drop start c)
  | drop {start c} :
    AcceptStep b l peerCid (.drop start c) ⟨.dropSocket c, ()⟩
      (.retry (.failed start (.glycerineInvalidConfig "unexpected cid")))

/-- The part has returned. -/
def AcceptPhase.Ended : AcceptPhase → Prop
  | .retry p => p.Ended
  | .accepted _ | .panicked => True
  | _ => False

theorem AcceptPhase.ended_cases (p : AcceptPhase) :
    (∃ e, p = .retry (.gaveUp e)) ∨ (∃ r, p = .accepted r) ∨ p = .panicked ∨ ¬ p.Ended := by
  cases p with
  | retry p =>
    cases p with
    | gaveUp e => exact .inl ⟨e, rfl⟩
    | _ => exact .inr (.inr (.inr not_false))
  | accepted r => exact .inr (.inl ⟨r, rfl⟩)
  | panicked => exact .inr (.inr (.inl rfl))
  | accept | reject | drop => exact .inr (.inr (.inr not_false))

/-- Where a service is that has this part. -/
def AcceptPhase.whole {Φ : Type} (failed : Error → Φ) (panicked : Φ) (accepted : Fd × SockAddr → Φ)
    (inside : AcceptPhase → Φ) : AcceptPhase → Φ
  | .retry (.gaveUp e) => failed e
  | .panicked => panicked
  | .accepted r => accepted r
  | p => inside p

theorem AcceptPhase.whole_of_not_ended {Φ : Type} {failed : Error → Φ} {panicked : Φ} {accepted : Fd × SockAddr → Φ}
    {inside : AcceptPhase → Φ} {p : AcceptPhase} (hp : ¬ p.Ended) :
    p.whole failed panicked accepted inside = inside p := by
  match p with
  | .retry (.gaveUp _) | .accepted _ | .panicked => exact absurd trivial hp
  | .retry .begin | .retry (.attempt _) | .retry (.running _) | .retry (.failed _ _)
  | .retry (.asking _ _ _) | .retry (.sleeping _ _) | .accept _ | .reject _ _ | .drop _ _ => rfl

theorem AcceptStep.not_ended {l : Fd} {peerCid : Nat} {p p' : AcceptPhase} {e : SysEvent}
    (hs : AcceptStep b l peerCid p e p') : ¬ p.Ended := by
  cases hs with
  | retry hr => exact hr.not_ended
  | _ => exact not_false

def AcceptPhase.Errors (A : Error → Prop) : AcceptPhase → Prop
  | .retry p => p.Errors A
  | _ => True

theorem AcceptStep.errors {A : Error → Prop} {l : Fd} {peerCid : Nat} {p p' : AcceptPhase} {e : SysEvent}
    (hs : AcceptStep b l peerCid p e p') (hA : A .glycerineShutdown) (hio : ∀ e, A (.ioVsock e))
    (hcid : A (.glycerineInvalidConfig "unexpected cid")) (hp : p.Errors A) : p'.Errors A := by
  cases hs with
  | retry hr => exact hr.errors hA hp
  | localAddrFails | acceptFails => exact hio _
  | drop => exact hcid
  | localAddr | accept | unexpected | alien | reject => trivial

/-- Where `accept_connection` is when a connection has come in. -/
def AcceptPhase.onConnection (peerCid start : Nat) : Fd × SockAddr → AcceptPhase
  | (c, .vsock cid port) => if cid ≠ peerCid then .reject start c else .accepted (c, .vsock cid port)
  | (_, .inet _ _) => .panicked

theorem triple_acceptConnectionWithBackoff {J : AcceptPhase → History → Prop} {l : Fd} {peerCid : Nat}
    (hI : ∀ p, ¬ p.Ended → ∀ h, J p h → E.ok h → I h)
    (hJ : ∀ {p e p' h}, AcceptStep b l peerCid p e p' → J p h → E.ok (h ++ [e]) → J p' (h ++ [e])) :
    Triple E I (J (.retry .begin)) (Vsock.acceptConnectionWithBackoff l peerCid b)
      (Outcome.post (fun r => J (.accepted r)) (fun e => J (.retry (.gaveUp e))) (J .panicked)) := by
  refine triple_withBackoff (J := fun p => J (.retry p)) (fun p => hI (.retry p)) (fun hs => hJ (.retry hs))
    (fun start => ?_) (fun _ _ hp => hp)
  refine Task.triple_seq (fun _ => J (.accept start))
    (Task.triple_mapErr (Task.triple_call (hI _ nofun) fun h r hp hE => ?_)) fun _ => ?_
  · cases r with
    | ok a => exact hJ .localAddr hp hE
    | error e => exact hJ .localAddrFails hp hE
  refine Task.triple_seq (fun r => J (.onConnection peerCid start r))
    (Task.triple_mapErr (Task.triple_call (hI _ nofun) fun h r hp hE => ?_)) fun r => ?_
  · rcases r with e | ⟨c, ⟨cid, port⟩ | ⟨a, port⟩⟩
    · exact hJ .acceptFails hp hE
    · show J (if cid ≠ peerCid then _ else _) _
      by_cases hcid : cid = peerCid
      · rw [if_neg (not_not_intro hcid)]
        subst hcid
        exact hJ .accept hp hE
      · rw [if_pos hcid]
        exact hJ (.unexpected hcid) hp hE
    · exact hJ .alien hp hE
  · obtain ⟨c, a⟩ := r
    cases a with
    | vsock cid port =>
      simp only [SockAddr.asVsockAddress, AcceptPhase.onConnection]
      by_cases hcid : cid = peerCid
      · simp only [if_neg (not_not_intro hcid)]
        exact Task.triple_ret fun h hp _ => hp
      · simp only [if_pos hcid]
        refine Task.triple_seq (fun _ => J (.drop start c)) (Task.triple_attempt
          (Task.triple_call (hI _ nofun) fun h r hp hE => ?_)) fun _ => ?_
        · cases r with
          | ok _ => exact hJ .reject hp hE
          | error e => exact hJ .reject hp hE
        refine Task.triple_seq (fun _ => J (.retry (.failed start (.glycerineInvalidConfig "unexpected cid"))))
          (Task.triple_call (hI _ nofun) fun h r hp hE => hJ .drop hp hE) fun _ => ?_
        exact Task.triple_fail fun h hp _ => hp
    | inet a port => exact triple_pure fun h hp _ => hp

/-- `accept_connection_with_backoff` on its own. -/
def acceptor (b : ExponentialBackoff) (l : Fd) (peerCid : Nat) : Machine sysSig Error (Fd × SockAddr) where
  Phase := AcceptPhase
  start := .retry .begin
  returned
    | .ok r => .accepted r
    | .err e => .retry (.gaveUp e)
    | .panic => .panicked
  Step := AcceptStep b l peerCid

theorem acceptor_ended_iff {l : Fd} {peerCid : Nat} {p : AcceptPhase} :
    p.Ended ↔ ∃ r, p = (acceptor b l peerCid).returned r := by
  constructor
  · intro hp
    rcases p.ended_cases with ⟨e, rfl⟩ | ⟨r, rfl⟩ | rfl | hn
    · exact ⟨.err e, rfl⟩
    · exact ⟨.ok r, rfl⟩
    · exact ⟨.panic, rfl⟩
    · exact absurd hp hn
  · rintro ⟨r, rfl⟩
    cases r <;> trivial

theorem acceptor_path {l : Fd} {peerCid : Nat} {h : History} {o : Status sysSig (Outcome Error (Fd × SockAddr))}
    (hx : Exec (Vsock.acceptConnectionWithBackoff l peerCid b) h o) : (acceptor b l peerCid).Arrives h o := by
  refine Machine.path_of_runs ((triple_acceptConnectionWithBackoff
    (J := fun p h => (acceptor b l peerCid).Path h p) (fun p hp h hj _ => ⟨p, hj, ?_⟩)
    fun hs hj _ => .snoc hj hs).post fun r h hr => hr) hx
  intro r hr
  exact hp (acceptor_ended_iff.2 ⟨r, hr⟩)

/-! ## Raw sockets -/

inductive SinkPhase where
  | retry (p : RetryPhase)
  | bindDevice (start : Nat) (fd : Fd)
  | headerIncluded (start : Nat) (fd : Fd)
  | recvBufferSize (start : Nat) (fd : Fd)
  | opened (fd : Fd)

inductive SinkStep (b : ExponentialBackoff) : SinkPhase → SysEvent → SinkPhase → Prop where
  | retry {p e p'} : RetryStep b p e p' → SinkStep b (.retry p) e (.retry p')
  | new {start d t p fd} :
    SinkStep b (.retry (.running start)) ⟨.socketNew d t p, .ok fd⟩ (.bindDevice start fd)
  | newFails {start d t p e} :
    SinkStep b (.retry (.running start)) ⟨.socketNew d t p, .error e⟩ (.retry (.failed start (.ioIpv4Tcp e)))
  | bindDevice {start fd i} :
      SinkStep b (.bindDevice start fd) ⟨.bindDevice fd i, .ok ()⟩ (.headerIncluded start fd)
  | bindDeviceFails {start fd i e} :
    SinkStep b (.bindDevice start fd) ⟨.bindDevice fd i, .error e⟩ (.retry (.failed start (.ioIpv4Tcp e)))
  | headerIncluded {start fd on} :
    SinkStep b (.headerIncluded start fd) ⟨.setHeaderIncludedV4 fd on, .ok ()⟩ (.recvBufferSize start fd)
  | headerIncludedFails {start fd on e} :
    SinkStep b (.headerIncluded start fd) ⟨.setHeaderIncludedV4 fd on, .error e⟩
      (.retry (.failed start (.ioIpv4Tcp e)))
  | recvBufferSize {start fd n} :
    SinkStep b (.recvBufferSize start fd) ⟨.setRecvBufferSize fd n, .ok ()⟩ (.opened fd)
  | recvBufferSizeFails {start fd n e} :
    SinkStep b (.recvBufferSize start fd) ⟨.setRecvBufferSize fd n, .error e⟩
      (.retry (.failed start (.ioIpv4Tcp e)))

/-- The part has returned. -/
def SinkPhase.Ended : SinkPhase → Prop
  | .retry p => p.Ended
  | .opened _ => True
  | _ => False

theorem SinkPhase.ended_cases (p : SinkPhase) :
    (∃ e, p = .retry (.gaveUp e)) ∨ (∃ fd, p = .opened fd) ∨ ¬ p.Ended := by
  cases p with
  | retry p =>
    cases p with
    | gaveUp e => exact .inl ⟨e, rfl⟩
    | _ => exact .inr (.inr not_false)
  | opened fd => exact .inr (.inl ⟨fd, rfl⟩)
  | bindDevice | headerIncluded | recvBufferSize => exact .inr (.inr not_false)

theorem SinkStep.not_ended {p p' : SinkPhase} {e : SysEvent} (hs : SinkStep b p e p') : ¬ p.Ended := by
  cases hs with
  | retry hr => exact hr.not_ended
  | _ => exact not_false

def SinkPhase.Errors (A : Error → Prop) : SinkPhase → Prop
  | .retry p => p.Errors A
  | _ => True

theorem SinkStep.errors {A : Error → Prop} {p p' : SinkPhase} {e : SysEvent} (hs : SinkStep b p e p')
    (hA : A .glycerineShutdown) (hio : ∀ e, A (.ioIpv4Tcp e)) (hp : p.Errors A) : p'.Errors A := by
  cases hs with
  | retry hr => exact hr.errors hA hp
  | newFails | bindDeviceFails | headerIncludedFails | recvBufferSizeFails => exact hio _
  | new | bindDevice | headerIncluded | recvBufferSize => trivial

theorem triple_newSinkSocketWithBackoff {J : SinkPhase → History → Prop}
    (hI : ∀ p, ¬ p.Ended → ∀ h, J p h → E.ok h → I h)
    (hJ : ∀ {p e p' h}, SinkStep b p e p' → J p h → E.ok (h ++ [e]) → J p' (h ++ [e]))
    (interface : String) (protocol : Protocol) (X : History → Prop) :
    Triple E I (J (.retry .begin)) (Ipv4.newSinkSocketWithBackoff interface protocol b)
      (Outcome.post (fun fd => J (.opened fd)) (fun e => J (.retry (.gaveUp e))) X) := by
  refine triple_withBackoff (J := fun p => J (.retry p)) (fun p => hI (.retry p)) (fun hs => hJ (.retry hs))
    (fun start => ?_) (fun _ _ hp => hp)
  refine Task.triple_seq (fun fd => J (.bindDevice start fd))
    (Task.triple_mapErr (Task.triple_call (hI _ nofun) fun h r hp hE => ?_)) fun fd => ?_
  · cases r with
    | ok fd => exact hJ .new hp hE
    | error e => exact hJ .newFails hp hE
  refine Task.triple_seq (fun _ => J (.headerIncluded start fd))
    (Task.triple_mapErr (Task.triple_call (hI _ nofun) fun h r hp hE => ?_)) fun _ => ?_
  · cases r with
    | ok _ => exact hJ .bindDevice hp hE
    | error e => exact hJ .bindDeviceFails hp hE
  refine Task.triple_seq (fun _ => J (.recvBufferSize start fd))
    (Task.triple_mapErr (Task.triple_call (hI _ nofun) fun h r hp hE => ?_)) fun _ => ?_
  · cases r with
    | ok _ => exact hJ .headerIncluded hp hE
    | error e => exact hJ .headerIncludedFails hp hE
  refine Task.triple_seq (fun _ => J (.opened fd))
    (Task.triple_mapErr (Task.triple_call (hI _ nofun) fun h r hp hE => ?_)) fun _ => Task.triple_ret
      fun h hp _ => hp
  cases r with
  | ok _ => exact hJ .recvBufferSize hp hE
  | error e => exact hJ .recvBufferSizeFails hp hE

end Glycerine
