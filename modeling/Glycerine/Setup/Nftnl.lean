import Glycerine.Interact.Drive
import Glycerine.Interact.Machine
import Glycerine.System.Basic
import Mathlib.Data.List.Forall2
/-
# Sending a batch and reading its acknowledgements

What is behind the one operation `sendBatch` of the setup. The batch is sent over a fresh netlink socket, and then
datagrams are read until every message of the batch has been answered. A datagram holds any number of answers.

| here | there |
| --- | --- |
| `NetlinkOp`       | `mnl::Socket::new` (with its `portid`), `send_all`, `recv` and the messages of the datagram it read |
| `cbRun`           | `mnl::cb_run` |
| `processMessages` | the `for` loop of `send_and_process` (`nftnl.rs:83-87`), which returns what is left of `expected_seqs` |
| `sendAndProcess`  | `send_and_process` (`nftnl.rs:66-91`) |

Nothing is assumed of the kernel: `batch_answered` says how each run ends by what has been read in it.
-/

namespace Glycerine.Nftnl
open Interact

/-- `nftnl::FinalizedBatch`: what `send_all` sends, and the sequence numbers of its messages. -/
structure FinalizedBatch where
  messages : List Bytes
  sequenceNumbers : List UInt32
deriving DecidableEq, Repr

inductive NetlinkOp where
  | new
  | sendAll (batch : FinalizedBatch)
  | recv
deriving DecidableEq

variable {M : Type}

@[reducible] def NetlinkOp.Res (M : Type) : NetlinkOp → Type
  | .new => Except IoError UInt32
  | .sendAll _ => Except IoError Unit
  | .recv => Except IoError (List (Except IoError M))

abbrev netlinkSig (M : Type) : Sig := ⟨NetlinkOp, NetlinkOp.Res M⟩

abbrev NetlinkHistory (M : Type) := Trace (netlinkSig M)

section
variable (cbRun : M → UInt32 → UInt32 → Except IoError Unit)

def processMessages (portid : UInt32) : List (Except IoError M) → List UInt32 → Outcome IoError (List UInt32)
  | [], expectedSeqs => .ok expectedSeqs
  | .error e :: _, _ => .err e
  | .ok _ :: _, [] => .panic -- `.expect("unexpected ACK")`
  | .ok message :: messages, expectedSeq :: expectedSeqs =>
    match cbRun message expectedSeq portid with
    | .error e => .err e
    | .ok () => processMessages portid messages expectedSeqs

def receiveStep (portid : UInt32) (expectedSeqs : List UInt32) :
    Task (netlinkSig M) IoError (Ctl (List UInt32) Unit) :=
  if expectedSeqs.isEmpty then pure (.stop ())
  else do
    let messages ← Task.call .recv .ofExcept
    let expectedSeqs ← Prog.pure (processMessages cbRun portid messages expectedSeqs)
    pure (.next expectedSeqs)

def sendAndProcess (batch : FinalizedBatch) : Task (netlinkSig M) IoError Unit := do
  let portid ← Task.call .new .ofExcept
  Task.call (.sendAll batch) .ofExcept
  Task.loop (receiveStep cbRun portid) batch.sequenceNumbers

/-! ## What has been read -/

/-- Each message was accepted with the sequence number in its place. -/
def Accepted (portid : UInt32) : List (Except IoError M) → List UInt32 → Prop :=
  List.Forall₂ fun message seq => ∃ m, message = .ok m ∧ cbRun m seq portid = .ok ()

/-- The message does not pass: it could not be read, or the next sequence number refuses it. -/
def Refused (portid : UInt32) (message : Except IoError M) (expectedSeqs : List UInt32) (e : IoError) : Prop :=
  message = .error e ∨ ∃ m seq, message = .ok m ∧ expectedSeqs.head? = some seq ∧ cbRun m seq portid = .error e

/-- The history of a run that has sent the batch and read the datagrams `ds`. -/
def reading (batch : FinalizedBatch) (portid : UInt32) (ds : List (List (Except IoError M))) : NetlinkHistory M :=
  ⟨.new, .ok portid⟩ :: ⟨.sendAll batch, .ok ()⟩ :: ds.map fun d => ⟨.recv, .ok d⟩

/-- The messages of `seqs` have been answered, and nothing else has been read. -/
def Answered (batch : FinalizedBatch) (portid : UInt32) (seqs : List UInt32) (h : NetlinkHistory M) : Prop :=
  ∃ ds, h = reading batch portid ds ∧ Accepted cbRun portid ds.flatten seqs

/-- The run waits for the socket or for the kernel to take the batch, or for the answers `rest`. -/
def Waiting (batch : FinalizedBatch) (h : NetlinkHistory M) : Prop :=
  h = [] ∨ (∃ portid, h = [⟨.new, .ok portid⟩]) ∨
    ∃ portid seqs rest, batch.sequenceNumbers = seqs ++ rest ∧ rest ≠ [] ∧ Answered cbRun batch portid seqs h

/-- The last operation failed. -/
def BrokenOff (e : IoError) (h : NetlinkHistory M) : Prop :=
  ∃ g, h = g ++ [⟨.new, .error e⟩] ∨ (∃ batch, h = g ++ [⟨.sendAll batch, .error e⟩]) ∨ h = g ++ [⟨.recv, .error e⟩]

/-- Up to the last datagram all was answered as expected, and its messages before `message` as well. -/
def ReachedIn (batch : FinalizedBatch) (message : Except IoError M) (rest : List UInt32)
    (portid : UInt32) (h : NetlinkHistory M) : Prop :=
  ∃ seqs ds before after, batch.sequenceNumbers = seqs ++ rest ∧
    h = reading batch portid (ds ++ [before ++ message :: after]) ∧
    Accepted cbRun portid (ds.flatten ++ before) seqs

/-- How a run ends. -/
def Ends (batch : FinalizedBatch) : Outcome IoError Unit → NetlinkHistory M → Prop
  | .ok (), h => ∃ portid, Answered cbRun batch portid batch.sequenceNumbers h
  | .err e, h => BrokenOff e h ∨
      ∃ portid message rest, ReachedIn cbRun batch message rest portid h ∧ Refused cbRun portid message rest e
  | .panic, h => ∃ portid m, ReachedIn cbRun batch (.ok m) [] portid h

end

section
variable {cbRun : M → UInt32 → UInt32 → Except IoError Unit} {batch : FinalizedBatch} {portid : UInt32}

theorem processMessages_spec (messages : List (Except IoError M)) (expectedSeqs : List UInt32) :
    match processMessages cbRun portid messages expectedSeqs with
    | .ok rest => ∃ seqs, expectedSeqs = seqs ++ rest ∧ Accepted cbRun portid messages seqs
    | .err e => ∃ seqs rest before message after, expectedSeqs = seqs ++ rest ∧
        messages = before ++ message :: after ∧ Accepted cbRun portid before seqs ∧ Refused cbRun portid message rest e
    | .panic => ∃ before m after, messages = before ++ .ok m :: after ∧ Accepted cbRun portid before expectedSeqs := by
  fun_induction processMessages cbRun portid messages expectedSeqs with
  | case1 expectedSeqs => exact ⟨[], rfl, .nil⟩
  | case2 e messages expectedSeqs => exact ⟨[], expectedSeqs, [], .error e, messages, rfl, rfl, .nil, .inl rfl⟩
  | case3 m messages => exact ⟨[], m, messages, rfl, .nil⟩
  | case4 m messages seq expectedSeqs e he =>
    exact ⟨[], _, [], .ok m, messages, rfl, rfl, .nil, .inr ⟨m, seq, rfl, rfl, he⟩⟩
  | case5 m messages seq expectedSeqs hm ih =>
    have first : ∃ m', (.ok m : Except IoError M) = .ok m' ∧ cbRun m' seq portid = .ok () := ⟨m, rfl, hm⟩
    cases hr : processMessages cbRun portid messages expectedSeqs with
    | ok rest =>
      simp only [hr] at ih
      obtain ⟨seqs, rfl, ha⟩ := ih
      exact ⟨seq :: seqs, rfl, .cons first ha⟩
    | err e =>
      simp only [hr] at ih
      obtain ⟨seqs, rest, before, message, after, rfl, rfl, ha, hrefused⟩ := ih
      exact ⟨seq :: seqs, rest, .ok m :: before, message, after, rfl, rfl, .cons first ha, hrefused⟩
    | panic =>
      simp only [hr] at ih
      obtain ⟨before, m', after, rfl, ha⟩ := ih
      exact ⟨.ok m :: before, m', after, rfl, .cons first ha⟩

theorem reading_append (ds : List (List (Except IoError M))) (d : List (Except IoError M)) :
    reading batch portid ds ++ [⟨.recv, .ok d⟩] = reading batch portid (ds ++ [d]) := by
  simp [reading]

/-- One datagram: what it leaves unanswered is waited for, or the run ends at one of its messages. -/
theorem receiveStep_spec (expectedSeqs : List UInt32) :
    Triple Machine.anyEnv (Waiting cbRun batch)
      (fun h => ∃ seqs, batch.sequenceNumbers = seqs ++ expectedSeqs ∧ Answered cbRun batch portid seqs h)
      (receiveStep cbRun portid expectedSeqs)
      (Outcome.post (Ctl.post
          (fun rest h => ∃ seqs, batch.sequenceNumbers = seqs ++ rest ∧ Answered cbRun batch portid seqs h)
          fun _ => Ends cbRun batch (.ok ()))
        (fun e => Ends cbRun batch (.err e)) (Ends cbRun batch .panic)) := by
  unfold receiveStep
  by_cases hempty : expectedSeqs.isEmpty
  · rw [if_pos hempty]
    refine Task.triple_ret fun h ⟨seqs, hseqs, ha⟩ _ => ⟨portid, ?_⟩
    rw [List.isEmpty_iff] at hempty
    rw [hseqs, hempty, List.append_nil]
    exact ha
  rw [if_neg hempty]
  -- after the datagram `messages` has been read
  refine Task.triple_seq (fun messages h => ∃ seqs ds, batch.sequenceNumbers = seqs ++ expectedSeqs ∧
    h = reading batch portid (ds ++ [messages]) ∧ Accepted cbRun portid ds.flatten seqs)
    (Task.triple_call (fun h ⟨seqs, hseqs, ha⟩ _ => ?_) fun h r ⟨seqs, hseqs, ds, hh, ha⟩ _ => ?_) fun messages => ?_
  · exact .inr (.inr ⟨portid, seqs, expectedSeqs, hseqs, by simpa using hempty, ha⟩)
  · cases r with
    | ok messages => exact ⟨seqs, ds, hseqs, by rw [hh, reading_append], ha⟩
    | error e => exact .inl ⟨h, .inr (.inr rfl)⟩
  have hspec := @processMessages_spec _ cbRun portid messages expectedSeqs
  refine triple_bind (R := fun o h => o = processMessages cbRun portid messages expectedSeqs ∧
    ∃ seqs ds, batch.sequenceNumbers = seqs ++ expectedSeqs ∧ h = reading batch portid (ds ++ [messages]) ∧
      Accepted cbRun portid ds.flatten seqs) (triple_pure fun h hP _ => ⟨rfl, hP⟩) fun o => ?_
  cases o with
  | ok rest =>
    refine Task.triple_ret fun h ⟨ho, seqs, ds, hseqs, hh, ha⟩ _ => ?_
    rw [← ho] at hspec
    obtain ⟨seqs', rfl, ha'⟩ := hspec
    refine ⟨seqs ++ seqs', by simp [hseqs], ds ++ [messages], hh, ?_⟩
    rw [List.flatten_append, List.flatten_singleton]
    exact List.rel_append ha ha'
  | err e =>
    refine triple_pure fun h ⟨ho, seqs, ds, hseqs, hh, ha⟩ _ => ?_
    rw [← ho] at hspec
    obtain ⟨seqs', rest, before, message, after, rfl, rfl, ha', hrefused⟩ := hspec
    exact .inr ⟨portid, message, rest, ⟨seqs ++ seqs', ds, before, after, by simp [hseqs], hh,
      List.rel_append ha ha'⟩, hrefused⟩
  | panic =>
    refine triple_pure fun h ⟨ho, seqs, ds, hseqs, hh, ha⟩ _ => ?_
    rw [← ho] at hspec
    obtain ⟨before, m, after, rfl, ha'⟩ := hspec
    exact ⟨portid, m, seqs ++ expectedSeqs, ds, before, after, by simp [hseqs], hh, List.rel_append ha ha'⟩

theorem sendAndProcess_spec :
    Triple Machine.anyEnv (Waiting cbRun batch) (fun h => h = []) (sendAndProcess cbRun batch) (Ends cbRun batch) := by
  refine Task.triple_seq (fun portid h => h = [⟨.new, .ok portid⟩])
    (Task.triple_call (fun h hP _ => .inl hP) fun h r hP _ => ?_) fun portid => ?_
  · subst hP
    cases r with
    | ok portid => rfl
    | error e => exact .inl ⟨[], .inl rfl⟩
  refine Task.triple_seq (fun _ h => h = reading batch portid [])
    (Task.triple_call (fun h hP _ => .inr (.inl ⟨portid, hP⟩)) fun h r hP _ => ?_) fun _ => ?_
  · subst hP
    cases r with
    | ok => rfl
    | error e => exact .inl ⟨_, .inr (.inl ⟨batch, rfl⟩)⟩
  have hloop := Task.triple_loop (E := Machine.anyEnv) (I := Waiting cbRun batch) (Q := Ends cbRun batch)
    (@receiveStep_spec _ cbRun batch portid) batch.sequenceNumbers
  exact hloop.pre fun h hh => ⟨[], rfl, [], hh, .nil⟩

/-- All messages that have been read. -/
def received (h : NetlinkHistory M) : List (Except IoError M) :=
  h.flatMap fun
    | ⟨.recv, .ok messages⟩ => messages
    | _ => []

@[simp] theorem received_reading (ds : List (List (Except IoError M))) :
    received (reading batch portid ds) = ds.flatten := by
  induction ds with
  | nil => rfl
  | cons d ds ih =>
    simp only [reading, received, List.flatMap_cons, List.map_cons, List.nil_append, List.flatten_cons] at ih ⊢
    rw [ih]

/-- A panic takes more answers than the batch has messages. -/
theorem Ends.exceeds {h : NetlinkHistory M} (he : Ends cbRun batch .panic h) :
    ∃ portid ds, h = reading batch portid ds ∧ batch.sequenceNumbers.length < ds.flatten.length := by
  obtain ⟨portid, m, seqs, ds, before, after, hseqs, rfl, ha⟩ := he
  refine ⟨portid, _, rfl, ?_⟩
  have haccepted := ha.length_eq
  rw [hseqs]
  simp only [List.length_append, List.flatten_append, List.flatten_singleton, List.length_cons,
    List.append_nil] at haccepted ⊢
  omega

/-- Without one the run ends with a `Result`. -/
theorem Ends.answer {h : NetlinkHistory M} {r : Outcome IoError Unit} (he : Ends cbRun batch r h)
    (hlen : (received h).length ≤ batch.sequenceNumbers.length) :
    ∃ answer : Except IoError Unit, r = .ofExcept answer := by
  cases r with
  | ok => exact ⟨.ok (), rfl⟩
  | err e => exact ⟨.error e, rfl⟩
  | panic =>
    obtain ⟨portid, ds, rfl, hlt⟩ := he.exceeds
    rw [received_reading] at hlen
    omega

/-! ## How a batch is answered -/

/-- Whatever the kernel answers, and in however many datagrams: a batch is waited for only while some of its messages
have no answer, it succeeds only after all its messages were accepted in their order, it fails with what went wrong
first, and it panics only if there are more answers than messages. -/
theorem batch_answered {t : NetlinkHistory M} {o : Status (netlinkSig M) (Outcome IoError Unit)}
    (hx : Exec (sendAndProcess cbRun batch) t o) :
    match o with
    | .asks _ => Waiting cbRun batch t
    | .done r => Ends cbRun batch r t ∧
        ((received t).length ≤ batch.sequenceNumbers.length →
          ∃ answer : Except IoError Unit, r = .ofExcept answer) := by
  have hspec := @sendAndProcess_spec _ cbRun batch [] t o rfl hx trivial
  cases o with
  | asks op => exact hspec
  | done r =>
    have hends : Ends cbRun batch r t := hspec
    exact ⟨hends, hends.answer⟩

end

instance : DecidableEq (netlinkSig M).Op := inferInstanceAs (DecidableEq NetlinkOp)

/-- An answer is its sequence number, and `EPROTO` refuses another one. -/
def acknowledges (answer seq _portid : UInt32) : Except IoError Unit :=
  if answer = seq then .ok () else .error (.os 71)

/-- Three messages, answered in two datagrams with an empty one between them. -/
def answeredRun : NetlinkHistory UInt32 :=
  reading ⟨[[1], [2], [3]], [1, 2, 3]⟩ 4242 [[.ok 1, .ok 2], [], [.ok 3]]

theorem answeredRun_answered :
    Ends acknowledges ⟨[[1], [2], [3]], [1, 2, 3]⟩ (.ok ()) answeredRun ∧
      ((received answeredRun).length ≤ 3 →
        ∃ answer : Except IoError Unit, (Outcome.ok () : Outcome IoError Unit) = .ofExcept answer) :=
  batch_answered (o := .done (.ok ())) (exec_of_script 100 (by decide +kernel))

end Glycerine.Nftnl
