import Glycerine.Proxy.NfqMachine
/-
# What becomes of the messages of a queue

A message stays in the kernel's queue until it is given a verdict or the queue is closed. `pump` gives the verdict
behind the loop that sends the payload, and a send that fails leaves that loop with `?`: `run` then replaces the
connection and keeps the queue, and the message keeps its place in it. `settles_iff` says that nothing else goes
wrong.
-/

namespace Glycerine
open Interact Machine

/-! ## What a history says about a queue -/

/-- The messages without a verdict of queue `q`, after one more event. -/
def unsettledStep (q : Fd) (ms : List Message) : SysEvent → List Message
  | ⟨.recv q', .ok m⟩ => if q' = q then ms ++ [m] else ms
  | ⟨.verdict q' m, .ok ()⟩ => if q' = q then ms.filter (·.id ≠ m.id) else ms
  | ⟨.dropQueue q', ()⟩ => if q' = q then [] else ms
  | _ => ms

/-- The messages that were received from queue `q` and are still without a verdict. -/
def unsettled (q : Fd) (h : History) : List Message := h.foldl (unsettledStep q) []

def sendLostStep (lost : Bool) : SysEvent → Bool
  | ⟨.send _ _, .ok n⟩ => lost || n.val == 0
  | ⟨.send _ _, .error _⟩ => true
  | ⟨.dropQueue _, ()⟩ => false
  | _ => lost

/-- A send failed, and the queue was not closed since. -/
def sendLost (h : History) : Bool := h.foldl sendLostStep false

/-- There is at most one message without a verdict, and verdicts are `Drop`, for that one. -/
structure Settles (h : History) (e : SysEvent) : Prop where
  atMostOne : ∀ q, (unsettled q (h ++ [e])).length ≤ 1
  verdict : ∀ q m, e.1 = .verdict q m → ∃ m₀, unsettled q h = [m₀] ∧ m = { m₀ with verdict := .drop }

/-- No message is received from a queue that has lost one to a failed send. -/
def NotAfterLoss (h : History) (e : SysEvent) : Prop := ∀ q m, e = ⟨.recv q, .ok m⟩ → sendLost h = false

theorem unsettled_snoc (q : Fd) (h : History) (e : SysEvent) :
    unsettled q (h ++ [e]) = unsettledStep q (unsettled q h) e := by
  unfold unsettled
  rw [List.foldl_append]
  rfl

theorem sendLost_snoc (h : History) (e : SysEvent) : sendLost (h ++ [e]) = sendLostStep (sendLost h) e := by
  unfold sendLost
  rw [List.foldl_append]
  rfl

/-! ## What holds in each phase -/

namespace NfqToVsock

/-- No message is waiting for a verdict. -/
def Clear (h : History) : Prop := sendLost h = false ∧ ∀ q, unsettled q h = []

/-- Only messages of queue `q` may be waiting. -/
def OnlyOn (q : Fd) (ms : List Message) (h : History) : Prop :=
  unsettled q h = ms ∧ ∀ q', q' ≠ q → unsettled q' h = []

/-- Between two messages of queue `q`: none is waiting, or the one whose send failed. -/
def Between (q : Fd) (h : History) : Prop :=
  sendLost h = false ∧ OnlyOn q [] h ∨ sendLost h = true ∧ ∃ m, OnlyOn q [m] h

def VerdictInv : Phase → History → Prop
  | .queue _ _ | .queueBind _ _ _ | .queueEnobufs _ _ _ | .queueMaxLen _ _ _ => Clear
  | .connect q _ _ | .connecting q _ _ _ | .connected q _ _ _ | .prepare q _ _ | .halfClose q _ _
  | .release q _ _ | .idle q _ | .ready q _ | .receiving q _ => Between q
  | .sending q _ m _ => fun h => sendLost h = false ∧ OnlyOn q [m] h
  | .queueFailed q _ => fun h => ∃ ms, ms.length ≤ 1 ∧ OnlyOn q ms h
  | .returned _ => fun h => ∀ q, (unsettled q h).length ≤ 1

/-- An event that says nothing about messages and sends. -/
structure Idle (e : SysEvent) : Prop where
  unsettled : ∀ q ms, unsettledStep q ms e = ms
  sendLost : ∀ lost, sendLostStep lost e = lost
  recv : ∀ q m, e ≠ ⟨.recv q, .ok m⟩
  verdict : ∀ q m, e.1 ≠ .verdict q m

/-- The operations that are about messages. -/
def aboutMessages : SysOp → Bool
  | .recv _ | .verdict _ _ | .send _ _ | .dropQueue _ => true
  | _ => false

theorem idle_of_op {e : SysEvent} (he : aboutMessages e.1 = false) : Idle e := by
  obtain ⟨op, r⟩ := e
  cases op with
  | recv | verdict | send | dropQueue => cases he
  | _ =>
    refine ⟨fun _ _ => rfl, fun _ => rfl, fun _ _ h => ?_, fun _ _ h => ?_⟩
    · cases congrArg Sigma.fst h
    · cases h

theorem idle_of_recvError {q : Fd} {e : IoError} : Idle ⟨.recv q, .error e⟩ :=
  ⟨fun _ _ => rfl, fun _ => rfl, fun _ _ h => (nomatch h), fun _ _ h => (nomatch h)⟩

theorem idle_of_retryStep {b : ExponentialBackoff} {p p' : RetryPhase} {e : SysEvent} (hs : RetryStep b p e p') :
    Idle e := by
  cases hs <;> exact idle_of_op rfl

section
variable {h : History} {e : SysEvent} {q c : Fd} {ms : List Message}

theorem OnlyOn.length_le (ho : OnlyOn q ms h) (hl : ms.length ≤ 1) (q' : Fd) : (unsettled q' h).length ≤ 1 := by
  by_cases hq : q' = q
  · rw [hq, ho.1]
    exact hl
  · rw [ho.2 q' hq]
    exact Nat.zero_le _

theorem Between.only (hb : Between q h) : ∃ ms, ms.length ≤ 1 ∧ OnlyOn q ms h := by
  rcases hb with ⟨-, ho⟩ | ⟨-, m, ho⟩
  · exact ⟨[], Nat.zero_le _, ho⟩
  · exact ⟨[m], Nat.le_refl _, ho⟩

theorem Clear.between (hc : Clear h) (q : Fd) : Between q h := .inl ⟨hc.1, hc.2 q, fun q' _ => hc.2 q'⟩

theorem VerdictInv.atMostOne {p : Phase} (hp : VerdictInv p h) (q : Fd) : (unsettled q h).length ≤ 1 := by
  cases p with
  | queue | queueBind | queueEnobufs | queueMaxLen =>
    rw [hp.2 q]
    exact Nat.zero_le _
  | connect | connecting | connected | prepare | halfClose | release | idle | ready | receiving =>
    obtain ⟨ms, hl, ho⟩ := Between.only hp
    exact ho.length_le hl q
  | sending => exact hp.2.length_le (Nat.le_refl _) q
  | queueFailed =>
    obtain ⟨ms, hl, ho⟩ := hp
    exact ho.length_le hl q
  | returned => exact hp q

theorem OnlyOn.idle (ho : OnlyOn q ms h) (he : Idle e) : OnlyOn q ms (h ++ [e]) :=
  ⟨by rw [unsettled_snoc, he.unsettled, ho.1], fun q' hq => by rw [unsettled_snoc, he.unsettled, ho.2 q' hq]⟩

theorem Clear.idle (hc : Clear h) (he : Idle e) : Clear (h ++ [e]) :=
  ⟨by rw [sendLost_snoc, he.sendLost, hc.1], fun q => by rw [unsettled_snoc, he.unsettled, hc.2]⟩

theorem Between.idle (hb : Between q h) (he : Idle e) : Between q (h ++ [e]) := by
  rcases hb with ⟨hl, ho⟩ | ⟨hl, m, ho⟩
  · exact .inl ⟨by rw [sendLost_snoc, he.sendLost, hl], ho.idle he⟩
  · exact .inr ⟨by rw [sendLost_snoc, he.sendLost, hl], m, ho.idle he⟩

theorem atMostOne_idle (hl : ∀ q, (unsettled q h).length ≤ 1) (he : Idle e) (q : Fd) :
    (unsettled q (h ++ [e])).length ≤ 1 := by
  rw [unsettled_snoc, he.unsettled]
  exact hl q

/-- A message is received while none is waiting. -/
theorem OnlyOn.recv {m : Message} (ho : OnlyOn q [] h) : OnlyOn q [m] (h ++ [⟨.recv q, .ok m⟩]) := by
  refine ⟨?_, fun q' hq => ?_⟩
  · rw [unsettled_snoc, ho.1]
    exact if_pos rfl
  · rw [unsettled_snoc, ho.2 q' hq]
    exact if_neg hq.symm

theorem OnlyOn.send {bs : Bytes} {r : Except IoError (Fin (bs.length + 1))} (ho : OnlyOn q ms h) :
    OnlyOn q ms (h ++ [⟨.send c bs, r⟩]) := by
  refine ⟨?_, fun q' hq => ?_⟩
  · rw [unsettled_snoc, ho.1]
    cases r <;> rfl
  · rw [unsettled_snoc, ho.2 q' hq]
    cases r <;> rfl

theorem OnlyOn.verdictFails {m : Message} {e : IoError} (ho : OnlyOn q ms h) :
    OnlyOn q ms (h ++ [⟨.verdict q m, .error e⟩]) :=
  ⟨by rw [unsettled_snoc, ho.1]; rfl, fun q' hq => by rw [unsettled_snoc, ho.2 q' hq]; rfl⟩

theorem OnlyOn.verdict {m : Message} (ho : OnlyOn q [m] h) :
    OnlyOn q [] (h ++ [⟨.verdict q { m with verdict := .drop }, .ok ()⟩]) := by
  refine ⟨?_, fun q' hq => ?_⟩
  · rw [unsettled_snoc, ho.1]
    show (if q = q then [m].filter (·.id ≠ m.id) else [m]) = []
    simp
  · rw [unsettled_snoc, ho.2 q' hq]
    exact if_neg hq.symm

/-- Closing the queue settles what was waiting in it. -/
theorem OnlyOn.dropQueue (ho : OnlyOn q ms h) : Clear (h ++ [⟨.dropQueue q, ()⟩]) := by
  refine ⟨by rw [sendLost_snoc]; rfl, fun q' => ?_⟩
  rw [unsettled_snoc]
  by_cases hq : q' = q
  · subst hq
    exact if_pos rfl
  · rw [ho.2 q' hq]
    exact if_neg (Ne.symm hq)

/-- A second message while one is waiting. -/
theorem OnlyOn.recv_second {m m' : Message} (ho : OnlyOn q [m] h) : ¬ Settles h ⟨.recv q, .ok m'⟩ := by
  intro hs
  have hl := hs.atMostOne q
  rw [unsettled_snoc, ho.1] at hl
  simp [unsettledStep] at hl

theorem settles_of_idle {p' : Phase} (he : Idle e) (hp' : VerdictInv p' (h ++ [e])) :
    NotAfterLoss h e ∧ Settles h e ∧ VerdictInv p' (h ++ [e]) :=
  ⟨fun q m heq => absurd heq (he.recv q m), ⟨hp'.atMostOne, fun q m heq => absurd heq (he.verdict q m)⟩, hp'⟩

theorem verdictInv_inQueue {c : Option Fd} {p : RetryPhase} (hc : Clear h) : VerdictInv (.inQueue c p) h := by
  cases p with
  | gaveUp e => exact fun q => by rw [hc.2 q]; exact Nat.zero_le _
  | _ => exact hc

theorem verdictInv_inConnect {old : Option Fd} {p : RetryPhase} (hb : Between q h) :
    VerdictInv (.inConnect q old p) h := by
  cases p with
  | gaveUp e => exact VerdictInv.atMostOne (p := .idle q 0) hb
  | _ => exact hb

theorem verdict_step {self : NfqToVsock} {p p' : Phase} (hs : Step self p e p') (hp : VerdictInv p h) :
    NotAfterLoss h e ∧ Settles h e ∧ VerdictInv p' (h ++ [e]) ∨ ¬ NotAfterLoss h e ∧ ¬ Settles h e := by
  cases hs with
  | queueRetry hr =>
    have he := idle_of_retryStep hr
    exact .inl (settles_of_idle he (verdictInv_inQueue (Clear.idle hp he)))
  | connectRetry hr =>
    have he := idle_of_retryStep hr
    exact .inl (settles_of_idle he (verdictInv_inConnect (Between.idle hp he)))
  | queueOpen | queueOpenFails | queueBind | queueBindFails | queueEnobufs | queueEnobufsFails | queueMaxLenFails =>
    exact .inl (settles_of_idle (idle_of_op rfl) (Clear.idle hp (idle_of_op rfl)))
  | @queueMaxLen c start q num len =>
    have hc : Clear (h ++ [⟨.setQueueMaxLen q num len, .ok ()⟩]) := Clear.idle hp (idle_of_op rfl)
    refine .inl (settles_of_idle (idle_of_op rfl) ?_)
    cases c <;> exact hc.between q
  | socketNew | socketNewFails | connect | connectFails | connected | connectedFails | prepare | release | idle | ready =>
    exact .inl (settles_of_idle (idle_of_op rfl) (Between.idle hp (idle_of_op rfl)))
  | @halfClose q old c =>
    have hb : Between q (h ++ [⟨.shutdown c .read, .ok ()⟩]) := Between.idle hp (idle_of_op rfl)
    refine .inl (settles_of_idle (idle_of_op rfl) ?_)
    cases old <;> exact hb
  | prepareFails | halfCloseFails | idleCancelled | readyCancelled =>
    exact .inl (settles_of_idle (idle_of_op rfl) (atMostOne_idle (VerdictInv.atMostOne hp) (idle_of_op rfl)))
  | @recv q c m =>
    rcases hp with ⟨hl, ho⟩ | ⟨hl, _, ho⟩
    · have hrecv : OnlyOn q [m] (h ++ [⟨.recv q, .ok m⟩]) := ho.recv
      refine .inl ⟨fun _ _ _ => hl, ⟨hrecv.length_le (Nat.le_refl _), fun _ _ h => nomatch h⟩, ?_, hrecv⟩
      rw [sendLost_snoc]
      exact hl
    · refine .inr ⟨fun hk => ?_, ho.recv_second⟩
      rw [hk _ _ rfl] at hl
      cases hl
  | recvOverflow => exact .inl (settles_of_idle idle_of_recvError (Between.idle hp idle_of_recvError))
  | recvFails =>
    exact .inl (settles_of_idle idle_of_recvError (Between.only (Between.idle hp idle_of_recvError)))
  | @send q c m sent n hlt hpos =>
    have ho : OnlyOn q [m] (h ++ [⟨.send c (m.payload.drop sent), .ok n⟩]) := hp.2.send
    refine .inl ⟨nofun, ⟨ho.length_le (Nat.le_refl _), nofun⟩, ?_, ho⟩
    rw [sendLost_snoc, hp.1]
    exact beq_false_of_ne (Nat.ne_of_gt hpos)
  | @sendZero q c m sent n hlt hz =>
    have ho : OnlyOn q [m] (h ++ [⟨.send c (m.payload.drop sent), .ok n⟩]) := hp.2.send
    refine .inl ⟨nofun, ⟨ho.length_le (Nat.le_refl _), nofun⟩, .inr ⟨?_, m, ho⟩⟩
    rw [sendLost_snoc, hp.1]
    exact beq_iff_eq.2 hz
  | @sendFails q c m sent e =>
    have ho : OnlyOn q [m] (h ++ [⟨.send c (m.payload.drop sent), .error e⟩]) := hp.2.send
    refine .inl ⟨nofun, ⟨ho.length_le (Nat.le_refl _), nofun⟩, .inr ⟨?_, m, ho⟩⟩
    rw [sendLost_snoc]
    rfl
  | @verdict q c m sent =>
    obtain ⟨hl, ho⟩ := hp
    have hv := ho.verdict
    refine .inl ⟨nofun, ⟨hv.length_le (Nat.zero_le _), fun q' m' heq => ?_⟩, .inl ⟨?_, hv⟩⟩
    · cases heq
      exact ⟨m, ho.1, rfl⟩
    · rw [sendLost_snoc]
      exact hl
  | @verdictFails q c m sent e =>
    obtain ⟨hl, ho⟩ := hp
    have hv : OnlyOn q [m] (h ++ [⟨.verdict q { m with verdict := .drop }, .error e⟩]) := ho.verdictFails
    refine .inl ⟨nofun, ⟨hv.length_le (Nat.le_refl _), fun q' m' heq => ?_⟩, [m], Nat.le_refl _, hv⟩
    cases heq
    exact ⟨m, ho.1, rfl⟩
  | @dropQueue q c =>
    obtain ⟨ms, hl, ho⟩ := hp
    have hc := ho.dropQueue
    exact .inl ⟨nofun, ⟨fun q' => by rw [hc.2 q']; exact Nat.zero_le _, nofun⟩, hc⟩

/-- **Every message is settled exactly as long as no message is received from a queue that has lost one to a failed
send.** -/
theorem settles_iff {self : NfqToVsock} {h : History} {o : Status sysSig (Outcome Error Unit)}
    (hx : Exec self.run h o) : Throughout Settles h ↔ Throughout NotAfterLoss h := by
  obtain ⟨p, hp⟩ := (run_path hx).path
  exact hp.exact (J := VerdictInv) ⟨rfl, fun _ => rfl⟩ verdict_step

end

end NfqToVsock

/-- Two messages, both sent and settled. -/
def settledRun : History :=
  opensQueue 1 ++ connects 2 ++
    [⟨.isCancelled, false⟩, ⟨.isCancelled, false⟩, ⟨.recv 1, .ok ⟨0, [1, 2, 3], .accept⟩⟩,
      ⟨.send 2 [1, 2, 3], .ok 2⟩, ⟨.send 2 [3], .ok 1⟩, ⟨.verdict 1 ⟨0, [1, 2, 3], .drop⟩, .ok ()⟩,
      ⟨.isCancelled, false⟩, ⟨.recv 1, .ok ⟨1, [4], .accept⟩⟩, ⟨.send 2 [4], .ok 1⟩,
      ⟨.verdict 1 ⟨1, [4], .drop⟩, .ok ()⟩]

theorem settles_iff_settled : Throughout Settles settledRun ↔ Throughout NotAfterLoss settledRun :=
  have hx : Exec sender.run settledRun (.asks .isCancelled) := exec_of_script 100 (by decide +kernel)
  NfqToVsock.settles_iff hx

/-- The first message is sent over a connection that breaks; the second is received over the next one. -/
def leakingRun : History :=
  opensQueue 1 ++ connects 2 ++
    [⟨.isCancelled, false⟩, ⟨.isCancelled, false⟩, ⟨.recv 1, .ok ⟨0, [1, 2, 3], .accept⟩⟩,
      ⟨.send 2 [1, 2, 3], .ok 2⟩, ⟨.send 2 [3], .error (.os 104)⟩] ++
    connects 3 ++ [⟨.dropSocket 2, ()⟩, ⟨.isCancelled, false⟩, ⟨.isCancelled, false⟩,
      ⟨.recv 1, .ok ⟨1, [4], .accept⟩⟩]

/-- A failed send leaks a message: both messages are without a verdict, and the queue was open all the time. -/
theorem failed_send_leaks :
    Exec sender.run leakingRun
      (.asks (.send 3 [4])) ∧ unsettled 1 leakingRun = [⟨0, [1, 2, 3], .accept⟩, ⟨1, [4], .accept⟩] ∧
      ¬ ∀ (self : NfqToVsock) h o, Exec self.run h o → Throughout Settles h := by
  have hx : Exec sender.run leakingRun (.asks (.send 3 [4])) := exec_of_script 100 (by decide +kernel)
  have hu : unsettled 1 leakingRun = [⟨0, [1, 2, 3], .accept⟩, ⟨1, [4], .accept⟩] := by decide
  refine ⟨hx, hu, fun hall => ?_⟩
  have hlast : leakingRun = leakingRun.dropLast ++ [⟨.recv 1, .ok ⟨1, [4], .accept⟩⟩] := rfl
  have hs := hall _ _ _ hx leakingRun.dropLast ⟨.recv 1, .ok ⟨1, [4], .accept⟩⟩ ⟨[], rfl⟩
  have hl := hs.atMostOne 1
  rw [← hlast, hu] at hl
  exact absurd hl (by decide)

end Glycerine
