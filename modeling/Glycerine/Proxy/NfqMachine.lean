import Glycerine.Interact.Machine
import Glycerine.Proxy.Nfq
import Glycerine.System.Rules
/-
# The sender as a state machine

What `NfqToVsock::run` can do, operation by operation, failures and recoveries included. `run_path` says that
it does nothing else; what holds of every run is proved about the machine.
-/

namespace Glycerine
open Interact

namespace NfqToVsock

inductive Phase where
  /-- a queue is being opened; `c` is the connection that is kept -/
  | queue (c : Option Fd) (p : RetryPhase)
  | queueBind (c : Option Fd) (start : Nat) (q : Fd)
  | queueEnobufs (c : Option Fd) (start : Nat) (q : Fd)
  | queueMaxLen (c : Option Fd) (start : Nat) (q : Fd)
  /-- a connection is being opened; `old` is the one it replaces -/
  | connect (q : Fd) (old : Option Fd) (p : RetryPhase)
  | connecting (q : Fd) (old : Option Fd) (start : Nat) (c : Fd)
  | connected (q : Fd) (old : Option Fd) (start : Nat) (c : Fd)
  /-- `shutdown` is about to ask for the local address -/
  | prepare (q : Fd) (old : Option Fd) (c : Fd)
  | halfClose (q : Fd) (old : Option Fd) (c : Fd)
  /-- the assignment drops the old connection -/
  | release (q c old : Fd)
  /-- the head of the loop of `run` -/
  | idle (q c : Fd)
  /-- the head of the loop of `pump` -/
  | ready (q c : Fd)
  | receiving (q c : Fd)
  | sending (q c : Fd) (m : Message) (sent : Nat)
  | queueFailed (q c : Fd)
  | returned (o : Outcome Error Unit)

/-- `new_queue_with_backoff` gives up: `run` returns its error. -/
def Phase.inQueue (c : Option Fd) : RetryPhase → Phase
  | .gaveUp e => .returned (.err e)
  | p => .queue c p

def Phase.inConnect (q : Fd) (old : Option Fd) : RetryPhase → Phase
  | .gaveUp e => .returned (.err e)
  | p => .connect q old p

/-- A first queue is followed by a first connection; a later one is all that was missing. -/
def Phase.afterQueue (q : Fd) : Option Fd → Phase
  | none => .connect q none .begin
  | some c => .idle q c

/-- A first connection is simply kept, a later one replaces the old one. -/
def Phase.afterConnect (q c : Fd) : Option Fd → Phase
  | none => .idle q c
  | some old => .release q c old

inductive Step (self : NfqToVsock) : Phase → SysEvent → Phase → Prop where
  -- opening a queue
  | queueRetry {c p e p'} : RetryStep self.backoff p e p' → Step self (.queue c p) e (.inQueue c p')
  | queueOpen {c start q} :
    Step self (.queue c (.running start)) ⟨.queueOpen, .ok q⟩ (.queueBind c start q)
  | queueOpenFails {c start e} :
    Step self (.queue c (.running start)) ⟨.queueOpen, .error e⟩ (.queue c (.failed start (.ioNfq e)))
  | queueBind {c start q num} :
    Step self (.queueBind c start q) ⟨.queueBind q num, .ok ()⟩ (.queueEnobufs c start q)
  | queueBindFails {c start q num e} :
    Step self (.queueBind c start q) ⟨.queueBind q num, .error e⟩ (.queue c (.failed start (.ioNfq e)))
  | queueEnobufs {c start q on} :
    Step self (.queueEnobufs c start q) ⟨.setRecvEnobufs q on, .ok ()⟩ (.queueMaxLen c start q)
  | queueEnobufsFails {c start q on e} :
    Step self (.queueEnobufs c start q) ⟨.setRecvEnobufs q on, .error e⟩ (.queue c (.failed start (.ioNfq e)))
  | queueMaxLen {c start q num len} :
    Step self (.queueMaxLen c start q) ⟨.setQueueMaxLen q num len, .ok ()⟩ (.afterQueue q c)
  | queueMaxLenFails {c start q num len e} :
    Step self (.queueMaxLen c start q) ⟨.setQueueMaxLen q num len, .error e⟩
      (.queue c (.failed start (.ioNfq e)))
  -- opening a connection
  | connectRetry {q old p e p'} :
    RetryStep self.backoff p e p' → Step self (.connect q old p) e (.inConnect q old p')
  | socketNew {q old start d t p c} :
    Step self (.connect q old (.running start)) ⟨.socketNew d t p, .ok c⟩ (.connecting q old start c)
  | socketNewFails {q old start d t p e} :
    Step self (.connect q old (.running start)) ⟨.socketNew d t p, .error e⟩
      (.connect q old (.failed start (.ioVsock e)))
  | connect {q old start c a} :
    Step self (.connecting q old start c) ⟨.connect c a, .ok ()⟩ (.connected q old start c)
  | connectFails {q old start c a e} :
    Step self (.connecting q old start c) ⟨.connect c a, .error e⟩ (.connect q old (.failed start (.ioVsock e)))
  | connected {q old start c a} :
    Step self (.connected q old start c) ⟨.localAddr c, .ok a⟩ (.prepare q old c)
  | connectedFails {q old start c e} :
    Step self (.connected q old start c) ⟨.localAddr c, .error e⟩ (.connect q old (.failed start (.ioVsock e)))
  -- half-closing it
  | prepare {q old c a} : Step self (.prepare q old c) ⟨.localAddr c, .ok a⟩ (.halfClose q old c)
  | prepareFails {q old c e} :
    Step self (.prepare q old c) ⟨.localAddr c, .error e⟩ (.returned (.err (.ioVsock e)))
  | halfClose {q old c} : Step self (.halfClose q old c) ⟨.shutdown c .read, .ok ()⟩ (.afterConnect q c old)
  | halfCloseFails {q old c e} :
    Step self (.halfClose q old c) ⟨.shutdown c .read, .error e⟩ (.returned (.err (.ioVsock e)))
  | release {q c old} : Step self (.release q c old) ⟨.dropSocket old, ()⟩ (.idle q c)
  -- the loops
  | idle {q c} : Step self (.idle q c) ⟨.isCancelled, false⟩ (.ready q c)
  | idleCancelled {q c} : Step self (.idle q c) ⟨.isCancelled, true⟩ (.returned (.ok ()))
  | ready {q c} : Step self (.ready q c) ⟨.isCancelled, false⟩ (.receiving q c)
  | readyCancelled {q c} : Step self (.ready q c) ⟨.isCancelled, true⟩ (.returned (.ok ()))
  | recv {q c m} : Step self (.receiving q c) ⟨.recv q, .ok m⟩ (.sending q c m 0)
  | recvOverflow {q c e} :
    e.rawOsError = some ENOBUFS → Step self (.receiving q c) ⟨.recv q, .error e⟩ (.ready q c)
  | recvFails {q c e} :
    e.rawOsError ≠ some ENOBUFS → Step self (.receiving q c) ⟨.recv q, .error e⟩ (.queueFailed q c)
  | send {q c m sent n} : sent < m.payload.length → 0 < n.val →
    Step self (.sending q c m sent) ⟨.send c (m.payload.drop sent), .ok n⟩ (.sending q c m (sent + n.val))
  | sendZero {q c m sent n} : sent < m.payload.length → n.val = 0 →
    Step self (.sending q c m sent) ⟨.send c (m.payload.drop sent), .ok n⟩ (.connect q (some c) .begin)
  | sendFails {q c m sent e} : sent < m.payload.length →
    Step self (.sending q c m sent) ⟨.send c (m.payload.drop sent), .error e⟩ (.connect q (some c) .begin)
  | verdict {q c m sent} : m.payload.length ≤ sent →
    Step self (.sending q c m sent) ⟨.verdict q { m with verdict := .drop }, .ok ()⟩ (.ready q c)
  | verdictFails {q c m sent e} : m.payload.length ≤ sent →
    Step self (.sending q c m sent) ⟨.verdict q { m with verdict := .drop }, .error e⟩ (.queueFailed q c)
  | dropQueue {q c} : Step self (.queueFailed q c) ⟨.dropQueue q, ()⟩ (.queue (some c) .begin)

def machine (self : NfqToVsock) : Machine sysSig Error Unit := ⟨Phase, .queue none .begin, .returned, Step self⟩

section
variable {self : NfqToVsock}

abbrev At (self : NfqToVsock) (p : Phase) (h : History) : Prop := self.machine.Path h p

theorem At.next {p p' : Phase} {e : SysEvent} {h : History} (hp : At self p h) (hs : Step self p e p') :
    At self p' (h ++ [e]) := .snoc hp hs

/-! ## `run` follows the machine -/

/-! A phase of `retry` is a phase of the whole until `retry` gives up. -/

theorem inQueue_of_not_ended {c : Option Fd} {p : RetryPhase} (hp : ¬ p.Ended) :
    Phase.inQueue c p = .queue c p := by
  cases p with
  | gaveUp => exact absurd trivial hp
  | _ => rfl

theorem inConnect_of_not_ended {q : Fd} {old : Option Fd} {p : RetryPhase} (hp : ¬ p.Ended) :
    Phase.inConnect q old p = .connect q old p := by
  cases p with
  | gaveUp => exact absurd trivial hp
  | _ => rfl

theorem runs_newSrcNetfilterQueue (c : Option Fd) :
    self.machine.Runs (At self (.queue c .begin)) self.newSrcNetfilterQueue
      (self.machine.Gives fun q => At self (.afterQueue q c)) := by
  refine triple_withBackoff (J := fun p => At self (.inQueue c p))
    (fun _ hp _ hj _ => ⟨_, hj, inQueue_of_not_ended hp ▸ nofun⟩)
    (fun hs hp _ => At.next (inQueue_of_not_ended hs.not_ended ▸ hp) (.queueRetry hs)) (fun start => ?_)
      (fun _ _ hp => hp)
  refine Task.triple_seq (fun q => At self (.queueBind c start q))
    (Task.triple_mapErr (Machine.runs_call nofun fun h r hp => ?_)) fun q => ?_
  · cases r with
    | ok q => exact At.next hp .queueOpen
    | error e => exact At.next hp .queueOpenFails
  refine Task.triple_seq (fun _ => At self (.queueEnobufs c start q))
    (Task.triple_mapErr (Machine.runs_call nofun fun h r hp => ?_)) fun _ => ?_
  · cases r with
    | ok _ => exact At.next hp .queueBind
    | error e => exact At.next hp .queueBindFails
  refine Task.triple_seq (fun _ => At self (.queueMaxLen c start q))
    (Task.triple_mapErr (Machine.runs_call nofun fun h r hp => ?_)) fun _ => ?_
  · cases r with
    | ok _ => exact At.next hp .queueEnobufs
    | error e => exact At.next hp .queueEnobufsFails
  refine Task.triple_seq (fun _ => At self (.afterQueue q c))
    (Task.triple_mapErr (Machine.runs_call nofun fun h r hp => ?_)) fun _ => Task.triple_ret fun h hp _ => hp
  cases r with
  | ok _ => exact At.next hp .queueMaxLen
  | error e => exact At.next hp .queueMaxLenFails

theorem runs_newClientSocketWithBackoff (q : Fd) (old : Option Fd) :
    self.machine.Runs (At self (.connect q old .begin))
      (Vsock.newClientSocketWithBackoff self.cfg.forwardAddress self.backoff)
      (self.machine.Gives fun c => At self (.prepare q old c)) := by
  refine triple_withBackoff (J := fun p => At self (.inConnect q old p))
    (fun _ hp _ hj _ => ⟨_, hj, inConnect_of_not_ended hp ▸ nofun⟩)
    (fun hs hp _ => At.next (inConnect_of_not_ended hs.not_ended ▸ hp) (.connectRetry hs)) (fun start => ?_)
      (fun _ _ hp => hp)
  refine Task.triple_seq (fun c => At self (.connecting q old start c))
    (Task.triple_mapErr (Machine.runs_call nofun fun h r hp => ?_)) fun c => ?_
  · cases r with
    | ok c => exact At.next hp .socketNew
    | error e => exact At.next hp .socketNewFails
  refine Task.triple_seq (fun _ => At self (.connected q old start c))
    (Task.triple_mapErr (Machine.runs_call nofun fun h r hp => ?_)) fun _ => ?_
  · cases r with
    | ok _ => exact At.next hp .connect
    | error e => exact At.next hp .connectFails
  refine Task.triple_seq (fun _ => At self (.prepare q old c))
    (Task.triple_mapErr (Machine.runs_call nofun fun h r hp => ?_)) fun _ => Task.triple_ret fun h hp _ => hp
  cases r with
  | ok a => exact At.next hp .connected
  | error e => exact At.next hp .connectedFails

theorem runs_newDstVsockSocket (q : Fd) (old : Option Fd) :
    self.machine.Runs (At self (.connect q old .begin)) self.newDstVsockSocket
      (self.machine.Gives fun c => At self (.afterConnect q c old)) := by
  refine Task.triple_seq (fun c => At self (.prepare q old c)) (runs_newClientSocketWithBackoff q old)
    fun c => ?_
  refine Task.triple_seq (fun _ => At self (.afterConnect q c old)) ?_ fun _ => Task.triple_ret fun h hp _ => hp
  refine Task.triple_seq (fun _ => At self (.halfClose q old c))
    (Task.triple_mapErr (Machine.runs_call nofun fun h r hp => ?_)) fun _ =>
    Task.triple_mapErr (Machine.runs_call nofun fun h r hp => ?_)
  · cases r with
    | ok a => exact At.next hp .prepare
    | error e => exact At.next hp .prepareFails
  · cases r with
    | ok _ => exact At.next hp .halfClose
    | error e => exact At.next hp .halfCloseFails

/-! ### `pump` -/

theorem runs_sendPayload (q c : Fd) (m : Message) :
    self.machine.Runs (At self (.sending q c m 0)) (sendPayload c m.payload)
      (Outcome.post (fun _ h => ∃ sent, m.payload.length ≤ sent ∧ At self (.sending q c m sent) h)
        (fun e h => (∃ io, e = .ioVsock io) ∧ At self (.connect q (some c) .begin) h) fun _ => False) := by
  refine Task.triple_loop (J := fun sent => At self (.sending q c m sent)) (fun sent => ?_) 0
  unfold sendStep
  by_cases hlt : sent < m.payload.length
  · rw [if_pos hlt]
    refine Task.triple_seq (fun n => At self (.sending q c m (sent + n))) (Task.triple_mapErr (triple_nonZero ?_))
      fun n => Task.triple_ret fun h hp _ => hp
    refine Machine.runs_call nofun fun h r hp => ?_
    cases r with
    | ok n =>
      show if n.val > 0 then _ else _
      by_cases hn : n.val > 0
      · rw [if_pos hn]
        exact At.next hp (.send hlt hn)
      · rw [if_neg hn]
        exact ⟨⟨_, rfl⟩, At.next hp (.sendZero hlt (by omega))⟩
    | error e => exact ⟨⟨e, rfl⟩, At.next hp (.sendFails hlt)⟩
  · rw [if_neg hlt]
    exact Task.triple_ret fun h hp _ => ⟨sent, Nat.le_of_not_lt hlt, hp⟩

/-- Where the machine is when `pump` fails. -/
def Failed (self : NfqToVsock) (q c : Fd) (e : Error) (h : History) : Prop :=
  ((∃ io, e = .ioNfq io) ∧ At self (.queueFailed q c) h) ∨
    ((∃ io, e = .ioVsock io) ∧ At self (.connect q (some c) .begin) h)

theorem runs_forward (q c : Fd) (m : Message) :
    self.machine.Runs (At self (.sending q c m 0)) (forward q c m)
      (Outcome.post (fun _ => At self (.ready q c)) (Failed self q c) fun _ => False) := by
  refine Task.triple_andThen (runs_sendPayload q c m) (fun _ => ?_) (fun e h he _ => .inr he)
    (fun h hf _ => hf)
  refine Task.triple_mapErr
    (Task.triple_call (fun h ⟨_, _, hp⟩ _ => ⟨_, hp, nofun⟩) fun h r ⟨sent, hle, hp⟩ _ => ?_)
  cases r with
  | ok _ => exact hp.next (.verdict hle)
  | error e => exact .inl ⟨⟨e, rfl⟩, hp.next (.verdictFails hle)⟩

theorem runs_pump (q c : Fd) : self.machine.Runs (At self (.ready q c)) (pump q c)
      (Outcome.post (fun _ => At self (.returned (.ok ()))) (Failed self q c) fun _ => False) := by
  refine Task.triple_loop (J := fun _ => At self (.ready q c)) (fun _ => ?_) ()
  refine Task.triple_seq (fun stop => At self (if stop then .returned (.ok ()) else .receiving q c))
    (Machine.runs_call nofun fun h r hp => ?_) fun stop => ?_
  · cases r with
    | true => exact At.next hp .readyCancelled
    | false => exact At.next hp .ready
  cases stop with
  | true => exact Task.triple_ret fun h hp _ => hp
  | false =>
    refine Task.triple_seq (fun r h => match r with
        | .ok m => At self (.sending q c m 0) h
        | .error e => At self (if e.rawOsError = some ENOBUFS then .ready q c else .queueFailed q c) h)
      (Task.triple_attempt (Machine.runs_call nofun fun h r hp => ?_)) fun r => ?_
    · cases r with
      | ok m => exact At.next hp .recv
      | error e =>
        show At self (if e.rawOsError = some ENOBUFS then _ else _) _
        by_cases he : e.rawOsError = some ENOBUFS
        · rw [if_pos he]
          exact At.next hp (.recvOverflow he)
        · rw [if_neg he]
          exact At.next hp (.recvFails he)
    · cases r with
      | ok m =>
        exact Task.triple_seq (fun _ => At self (.ready q c)) (runs_forward q c m) fun _ =>
          Task.triple_ret fun h hp _ => hp
      | error e =>
        by_cases he : e.rawOsError = some ENOBUFS
        · simp only [if_pos he]
          exact Task.triple_ret fun h hp _ => hp
        · simp only [if_neg he]
          exact Task.triple_fail fun h hp _ => .inl ⟨⟨e, rfl⟩, hp⟩

/-! ### `run` -/

theorem runs_runStep (s : Fd × Fd) :
    self.machine.Runs (At self (.idle s.1 s.2)) (self.runStep s.1 s.2)
      (self.machine.Gives
        (Ctl.post (fun s => At self (.idle s.1 s.2)) fun _ => At self (.returned (.ok ())))) := by
  obtain ⟨q, c⟩ := s
  refine Task.triple_seq (fun stop => At self (if stop then .returned (.ok ()) else .ready q c))
    (Machine.runs_call nofun fun h r hp => ?_) fun stop => ?_
  · cases r with
    | true => exact At.next hp .idleCancelled
    | false => exact At.next hp .idle
  cases stop with
  | true => exact Task.triple_ret fun h hp _ => hp
  | false =>
    refine Task.triple_seq (fun r h => match r with
        | .ok () => At self (.returned (.ok ())) h
        | .error e => Failed self q c e h)
      (Task.triple_attempt ((runs_pump q c).post fun o h hq => ?_)) fun r => ?_
    · match o with
      | .ok () => exact hq
      | .err _ => exact hq
      | .panic => exact hq.elim
    · match r with
      | .ok () => exact Task.triple_ret fun h hp _ => hp
      | .error e =>
        refine triple_or ?_ ?_
        · refine triple_of_fact fun ⟨io, hio⟩ => ?_
          subst hio
          refine Task.triple_seq (fun _ => At self (.queue (some c) .begin))
            (Machine.runs_call nofun fun h r hp => At.next hp .dropQueue) fun _ => ?_
          exact Task.triple_seq (fun q' => At self (.idle q' c)) (runs_newSrcNetfilterQueue (some c)) fun q' =>
            Task.triple_ret fun h hp _ => hp
        · refine triple_of_fact fun ⟨io, hio⟩ => ?_
          subst hio
          refine Task.triple_seq (fun c' => At self (.release q c' c)) (runs_newDstVsockSocket q (some c))
            fun c' => ?_
          exact Task.triple_seq (fun _ => At self (.idle q c'))
            (Machine.runs_call nofun fun h r hp => At.next hp .release)
            fun _ => Task.triple_ret fun h hp _ => hp

theorem runs_run :
    self.machine.Runs (fun h => self.machine.Path h self.machine.start) self.run
      (self.machine.Gives fun _ => At self (.returned (.ok ()))) := by
  refine Task.triple_seq (fun q => At self (.connect q none .begin)) (runs_newSrcNetfilterQueue none) fun q => ?_
  refine Task.triple_seq (fun c => At self (.idle q c)) (runs_newDstVsockSocket q none) fun c => ?_
  exact Machine.runs_loop (fun s => At self (.idle s.1 s.2)) runs_runStep (q, c)

/-- **Every run of the sender is a path of the machine**, and it returns what the machine returns. -/
theorem run_path {h : History} {o : Status sysSig (Outcome Error Unit)} (hx : Exec self.run h o) :
    self.machine.Arrives h o := Machine.path_of_runs runs_run hx

end

end NfqToVsock

/-! ## An example: pieces of runs -/

def sender : NfqToVsock := ⟨⟨0, 1024, .vsock 3 9000⟩, ⟨some 60000⟩⟩

/-- The sender opens its queue `q`. -/
def opensQueue (q : Fd) : History :=
  [⟨.now, (0 : Nat)⟩, ⟨.isCancelled, false⟩, ⟨.queueOpen, .ok q⟩, ⟨.queueBind q 0, .ok ()⟩,
    ⟨.setRecvEnobufs q true, .ok ()⟩, ⟨.setQueueMaxLen q 0 1024, .ok ()⟩]

/-- The sender opens its connection `c`. -/
def connects (c : Fd) : History :=
  [⟨.now, (0 : Nat)⟩, ⟨.isCancelled, false⟩, ⟨.socketNew .vsock .stream none, .ok c⟩,
    ⟨.connect c (.vsock 3 9000), .ok ()⟩, ⟨.localAddr c, .ok (.vsock 16 1)⟩, ⟨.localAddr c, .ok (.vsock 16 1)⟩,
    ⟨.shutdown c .read, .ok ()⟩]

end Glycerine
