import Glycerine.Bootstrap.Serve
import Glycerine.Interact.Machine
import Glycerine.System.Steps
/-
# The bootstrap service as a state machine

What `Bootstrap::run` can do, operation by operation; it listens and accepts as the receiver does. `run_path` says
that it does nothing else.
-/

namespace Glycerine
open Interact

namespace Bootstrap

inductive Phase where
  | listen (p : ListenPhase)
  /-- the head of the loop of `run` -/
  | idle (l : Fd)
  | accepting (l : Fd) (p : AcceptPhase)
  /-- `shutdown` is about to ask for the local address -/
  | prepare (l c : Fd)
  | halfClose (l c : Fd)
  | writeTimeout (l c : Fd)
  /-- `pos` bytes are written, and they are not all -/
  | serving (l c : Fd) (pos : Nat)
  | writing (l c : Fd) (pos : Nat)
  | served (l c : Fd)
  | returned (o : Outcome Error Unit)

namespace Phase

def inListen : ListenPhase → Phase := ListenPhase.whole (.returned <| .err ·) .idle .listen

def inAccept (l : Fd) : AcceptPhase → Phase :=
  AcceptPhase.whole (.returned <| .err ·) (.returned .panic) (.prepare l ·.1) (.accepting l)

def onWritten (self : Bootstrap) (l c : Fd) (pos : Nat) : Phase :=
  if pos < self.info.length then .serving l c pos else .served l c

end Phase

inductive Step (self : Bootstrap) : Phase → SysEvent → Phase → Prop where
  | listen {p e p'} : ListenStep self.backoff p e p' → Step self (.listen p) e (.inListen p')
  | idle {l} : Step self (.idle l) ⟨.isCancelled, false⟩ (.accepting l (.retry .begin))
  | idleCancelled {l} : Step self (.idle l) ⟨.isCancelled, true⟩ (.returned (.ok ()))
  | accepting {l p e p'} :
    AcceptStep self.backoff l self.peerCid p e p' → Step self (.accepting l p) e (.inAccept l p')
  -- preparing the connection
  | prepare {l c a} : Step self (.prepare l c) ⟨.localAddr c, .ok a⟩ (.halfClose l c)
  | prepareFails {l c e} : Step self (.prepare l c) ⟨.localAddr c, .error e⟩ (.returned (.err (.ioVsock e)))
  | halfClose {l c} : Step self (.halfClose l c) ⟨.shutdown c .read, .ok ()⟩ (.writeTimeout l c)
  | halfCloseFails {l c e} :
    Step self (.halfClose l c) ⟨.shutdown c .read, .error e⟩ (.returned (.err (.ioVsock e)))
  | writeTimeout {l c ms} :
    Step self (.writeTimeout l c) ⟨.setWriteTimeout c ms, .ok ()⟩ (.onWritten self l c 0)
  | writeTimeoutFails {l c ms e} :
    Step self (.writeTimeout l c) ⟨.setWriteTimeout c ms, .error e⟩ (.returned (.err (.ioVsock e)))
  -- serving it
  | serving {l c pos} : Step self (.serving l c pos) ⟨.isCancelled, false⟩ (.writing l c pos)
  | servingCancelled {l c pos} : Step self (.serving l c pos) ⟨.isCancelled, true⟩ (.served l c)
  | write {l c pos n} : 0 < n.val →
    Step self (.writing l c pos) ⟨.write c (self.info.drop pos), .ok n⟩ (.onWritten self l c (pos + n.val))
  | writeZero {l c pos n} : n.val = 0 →
    Step self (.writing l c pos) ⟨.write c (self.info.drop pos), .ok n⟩ (.served l c)
  | writeFails {l c pos e} :
    Step self (.writing l c pos) ⟨.write c (self.info.drop pos), .error e⟩ (.served l c)
  | drop {l c} : Step self (.served l c) ⟨.dropSocket c, ()⟩ (.idle l)

def machine (self : Bootstrap) : Machine sysSig Error Unit :=
  ⟨Phase, .listen (.retry .begin), .returned, Step self⟩

section
variable {self : Bootstrap}

abbrev At (self : Bootstrap) (p : Phase) (h : History) : Prop := self.machine.Path h p

theorem At.next {p p' : Phase} {e : SysEvent} {h : History} (hp : At self p h) (hs : Step self p e p') :
    At self p' (h ++ [e]) := .snoc hp hs

/-! ## `run` follows the machine -/

theorem inListen_of_not_ended {p : ListenPhase} (hp : ¬ p.Ended) : Phase.inListen p = .listen p :=
  ListenPhase.whole_of_not_ended hp

theorem inAccept_of_not_ended {l : Fd} {p : AcceptPhase} (hp : ¬ p.Ended) : Phase.inAccept l p = .accepting l p :=
  AcceptPhase.whole_of_not_ended hp

theorem runs_newClientVsockSocket (l : Fd) :
    self.machine.Runs (At self (.accepting l (.retry .begin))) (self.newClientVsockSocket l)
      (self.machine.Gives fun r => At self (.onWritten self l r.1 0)) := by
  refine Task.triple_seq (fun r => At self (.prepare l r.1))
    (triple_acceptConnectionWithBackoff (J := fun p => At self (.inAccept l p))
      (fun _ hp _ hj _ => ⟨_, hj, inAccept_of_not_ended hp ▸ nofun⟩)
      fun hs hp _ => At.next (inAccept_of_not_ended hs.not_ended ▸ hp) (.accepting hs)) fun r => ?_
  obtain ⟨c, a⟩ := r
  refine Task.triple_seq (fun _ => At self (.writeTimeout l c)) ?_ fun _ => ?_
  · refine Task.triple_seq (fun _ => At self (.halfClose l c))
      (Task.triple_mapErr (Machine.runs_call nofun fun h r hp => ?_)) fun _ =>
      Task.triple_mapErr (Machine.runs_call nofun fun h r hp => ?_)
    · cases r with
      | ok a => exact At.next hp .prepare
      | error e => exact At.next hp .prepareFails
    · cases r with
      | ok _ => exact At.next hp .halfClose
      | error e => exact At.next hp .halfCloseFails
  refine Task.triple_seq (fun _ => At self (.onWritten self l c 0))
    (Task.triple_mapErr (Machine.runs_call nofun fun h r hp => ?_)) fun _ => Task.triple_ret fun h hp _ => hp
  cases r with
  | ok _ => exact At.next hp .writeTimeout
  | error e => exact At.next hp .writeTimeoutFails

theorem runs_serve (l c : Fd) :
    self.machine.Runs (At self (.onWritten self l c 0)) (self.serve c)
      (Outcome.post (fun _ => At self (.served l c))
        (fun e h => (∃ io, e = .ioVsock io) ∧ At self (.served l c) h)
        fun _ => False) := by
  refine Task.triple_loop (J := fun pos => At self (.onWritten self l c pos)) (fun pos => ?_) 0
  unfold serveStep Phase.onWritten
  by_cases hlt : pos < self.info.length
  · rw [if_pos hlt, if_pos hlt]
    refine Task.triple_seq (fun stop => At self (if stop then .served l c else .writing l c pos))
      (Machine.runs_call nofun fun h r hp => ?_) fun stop => ?_
    · cases r with
      | true => exact At.next hp .servingCancelled
      | false => exact At.next hp .serving
    cases stop with
    | true => exact Task.triple_ret fun h hp _ => hp
    | false =>
      refine Task.triple_seq (fun n => At self (.onWritten self l c (pos + n)))
        (Task.triple_mapErr (triple_nonZero (Machine.runs_call nofun fun h r hp => ?_))) fun n =>
        Task.triple_ret fun h hp _ => hp
      cases r with
      | ok n =>
        show if n.val > 0 then _ else _
        by_cases hn : n.val > 0
        · rw [if_pos hn]
          exact At.next hp (.write hn)
        · rw [if_neg hn]
          exact ⟨⟨_, rfl⟩, At.next hp (.writeZero (by omega))⟩
      | error e => exact ⟨⟨e, rfl⟩, At.next hp .writeFails⟩
  · rw [if_neg hlt, if_neg hlt]
    exact Task.triple_ret fun h hp _ => hp

theorem runs_runStep (l : Fd) :
    self.machine.Runs (At self (.idle l)) (self.runStep l)
      (self.machine.Gives (Ctl.post (fun _ => At self (.idle l)) fun _ => At self (.returned (.ok ())))) := by
  refine Task.triple_seq (fun stop => At self (if stop then .returned (.ok ()) else .accepting l (.retry .begin)))
    (Machine.runs_call nofun fun h r hp => ?_) fun stop => ?_
  · cases r with
    | true => exact At.next hp .idleCancelled
    | false => exact At.next hp .idle
  cases stop with
  | true => exact Task.triple_ret fun h hp _ => hp
  | false =>
    refine Task.triple_seq (fun r => At self (.onWritten self l r.1 0)) (runs_newClientVsockSocket l) fun r => ?_
    obtain ⟨c, a⟩ := r
    have hdrop : self.machine.Runs (At self (.served l c))
        (do Socket.drop c; pure (.next ()) : Sys Error (Ctl Unit Unit))
        (self.machine.Gives (Ctl.post (fun _ => At self (.idle l)) fun _ => At self (.returned (.ok ())))) :=
      Task.triple_seq (fun _ => At self (.idle l)) (Machine.runs_call nofun fun h r hp => At.next hp .drop)
        fun _ =>
        Task.triple_ret fun h hp _ => hp
    refine Task.triple_seq (fun r h => (∀ e, r = .error e → ∃ io, e = .ioVsock io) ∧ At self (.served l c) h)
      (Task.triple_attempt ((runs_serve l c).post fun o h hq => ?_)) fun r => triple_of_fact fun hr => ?_
    · match o with
      | .ok () => exact ⟨nofun, hq⟩
      | .err e => exact ⟨fun e' he => by cases he; exact hq.1, hq.2⟩
      | .panic => exact hq.elim
    · match r with
      | .ok () => exact hdrop
      | .error e =>
        obtain ⟨io, rfl⟩ := hr e rfl
        exact hdrop

theorem runs_run :
    self.machine.Runs (fun h => self.machine.Path h self.machine.start) self.run
      (self.machine.Gives fun _ => At self (.returned (.ok ()))) := by
  refine Task.triple_seq (fun l => At self (.idle l))
    (triple_newListenerSocketWithBackoff (J := fun p => At self (.inListen p))
      (fun _ hp _ hj _ => ⟨_, hj, inListen_of_not_ended hp ▸ nofun⟩)
      (fun hs hp _ => At.next (inListen_of_not_ended hs.not_ended ▸ hp) (.listen hs)) _ _) fun l => ?_
  exact Machine.runs_loop (fun _ => At self (.idle l)) (fun _ => runs_runStep l) ()

/-- **Every run of the service is a path of the machine**, and it returns what the machine returns. -/
theorem run_path {h : History} {o : Status sysSig (Outcome Error Unit)} (hx : Exec self.run h o) :
    self.machine.Arrives h o := Machine.path_of_runs runs_run hx

end

end Bootstrap

/-! ## An example -/

def server : Bootstrap := ⟨.vsock 3 9000, 16, ⟨some 60000⟩, [0x7b, 0x7d]⟩

end Glycerine
