import Glycerine.Interact.Comes
import Glycerine.Services.Reactive
import Glycerine.Bootstrap.ServeMachine
import Glycerine.Proxy.Ipv4Machine
/-
# Connections from other CIDs

`accept_connection` runs inside `backoff::retry`: a connection from another CID is shut down and becomes a
transient error, and the retry goes on only while `max_elapsed_time` since the start of the call does not pass, the
next delay included. The time spent waiting for the connection counts. What is proved here is that a rejected
connection makes the call fail, and with it both services, exactly when it comes too late, and that otherwise the
next one is accepted.
-/

namespace Glycerine
open Interact Machine

/-! ## What a history says about rejected connections -/

def ExponentialBackoff.exhausted (b : ExponentialBackoff) (elapsed : Nat) : Bool :=
  b.maxElapsedTime.any (· < elapsed)

/-- What the `backoff` crate does, which draws the delay `draw h` after `h`: it gives up when the time is over, or
would be over after that delay. -/
def KeepsTime (draw : History → Nat) (h : History) : SysEvent → Prop
  | ⟨.nextBackoff b n, r⟩ => r = if b.exhausted (n + draw h) = true then none else some (draw h)
  | _ => True

/-- The error of a rejected connection. -/
def unexpectedCid : Error := .glycerineInvalidConfig "unexpected cid"

/-- The connection from another CID that an event brings. -/
def strangerIn (peerCid : Nat) : SysEvent → Option Fd
  | ⟨.accept _, .ok (c, .vsock cid _)⟩ => if cid = peerCid then none else some c
  | _ => none

/-- The connection from another CID that has just been accepted. -/
def stranger (peerCid : Nat) (h : History) : Option Fd := h.getLast?.bind (strangerIn peerCid)

def rejectedStep (peerCid : Nat) (rejected : Bool) (e : SysEvent) : Bool :=
  match e.1 with
  | .accept _ => (strangerIn peerCid e).isSome
  | .nextBackoff _ _ => false
  | _ => rejected

/-- The last connection was rejected, and whether there is another try is not decided yet. -/
def rejected (peerCid : Nat) (h : History) : Bool := h.foldl (rejectedStep peerCid) false

/-- When a connection has been rejected, there is time for the delay before the next try. -/
def RejectsInTime (draw : History → Nat) (peerCid : Nat) (h : History) (e : SysEvent) : Prop :=
  ∀ b n r, e = ⟨.nextBackoff b n, r⟩ → rejected peerCid h = true → b.exhausted (n + draw h) = false

abbrev InTime (draw : History → Nat) (peerCid : Nat) (h : History) : Prop :=
  Throughout (RejectsInTime draw peerCid) h

/-- A connection from another CID is shut down at once. -/
def ShutsDown (peerCid : Nat) (h : History) (e : SysEvent) : Prop :=
  ∀ c, stranger peerCid h = some c → e.1 = .shutdown c .both

/-- Nothing but connections from other CIDs disturbs the call: no shutdown, no failure of `accept_connection`
itself, and every peer has a vsock address. -/
def Harmless : SysEvent → Prop
  | ⟨.isCancelled, c⟩ => c = false
  | ⟨.localAddr _, .error _⟩ | ⟨.accept _, .error _⟩ | ⟨.accept _, .ok (_, .inet _ _)⟩ => False
  | _ => True

instance {draw : History → Nat} {h : History} : DecidablePred (KeepsTime draw h) := fun e =>
  decidable_of_bool (match e with
    | ⟨.nextBackoff b n, r⟩ => decide (r = if b.exhausted (n + draw h) = true then none else some (draw h))
    | _ => true) (by unfold KeepsTime; split; exact decide_eq_true_iff; exact iff_of_true rfl trivial)

instance : DecidablePred Harmless := fun e =>
  decidable_of_bool (match e with
    | ⟨.isCancelled, c⟩ => !c
    | ⟨.localAddr _, .error _⟩ | ⟨.accept _, .error _⟩ | ⟨.accept _, .ok (_, .inet _ _)⟩ => false
    | _ => true) (by unfold Harmless; split <;> simp)

section
variable {draw : History → Nat} {cid : Nat} {h : History} {e : SysEvent}

theorem stranger_snoc : stranger cid (h ++ [e]) = strangerIn cid e := by
  unfold stranger
  rw [List.getLast?_append]
  rfl

theorem rejected_snoc : rejected cid (h ++ [e]) = rejectedStep cid (rejected cid h) e := by
  unfold rejected
  rw [List.foldl_append]
  rfl

theorem inTime_snoc : InTime draw cid (h ++ [e]) ↔ InTime draw cid h ∧ RejectsInTime draw cid h e := throughout_snoc

/-- Only the decision about another try is a matter of time. -/
theorem InTime.other (ht : InTime draw cid h) (he : ∀ b n, e.1 ≠ .nextBackoff b n) : InTime draw cid (h ++ [e]) := by
  refine inTime_snoc.2 ⟨ht, fun b n r heq => ?_⟩
  subst heq
  exact absurd rfl (he b n)

/-! ## What holds in each phase -/

/-- No connection has been rejected since the last decision. -/
def NoneRejected (draw : History → Nat) (cid : Nat) (h : History) : Prop := InTime draw cid h ∧ rejected cid h = false

/-- An operation that neither brings a connection nor decides about another try. -/
def Unrelated : SysOp → Prop
  | .accept _ | .nextBackoff _ _ => False
  | _ => True

theorem rejected_unrelated (he : Unrelated e.1) : rejected cid (h ++ [e]) = rejected cid h := by
  obtain ⟨op, r⟩ := e
  rw [rejected_snoc]
  cases op with
  | accept => exact he.elim
  | nextBackoff => exact he.elim
  | _ => rfl

theorem InTime.unrelated (ht : InTime draw cid h) (he : Unrelated e.1) : InTime draw cid (h ++ [e]) :=
  ht.other fun b n heq => by rw [heq] at he; exact he

theorem NoneRejected.unrelated (hq : NoneRejected draw cid h) (he : Unrelated e.1) :
    NoneRejected draw cid (h ++ [e]) :=
  ⟨hq.1.unrelated he, (rejected_unrelated he).trans hq.2⟩

/-- The error that may be retried is that of a rejected connection if and only if one was rejected; `retry` ends
with it if and only if that was too late. -/
def RetryInv (draw : History → Nat) (cid : Nat) : RetryPhase → History → Prop
  | .failed _ e | .asking _ _ e => fun h => InTime draw cid h ∧ (e = unexpectedCid ↔ rejected cid h = true)
  | .gaveUp e => fun h => e ≠ unexpectedCid ↔ InTime draw cid h
  | _ => NoneRejected draw cid

theorem retryInv_step {b : ExponentialBackoff} {p p' : RetryPhase} (hs : RetryStep b p e p')
    (hp : RetryInv draw cid p h) (hk : KeepsTime draw h e) : RetryInv draw cid p' (h ++ [e]) := by
  cases hs with
  | start | attempt | sleep => exact NoneRejected.unrelated hp trivial
  | cancelled => exact iff_of_true nofun (NoneRejected.unrelated hp (by trivial)).1
  | @clock start t e =>
    obtain ⟨ht, he⟩ := hp
    refine ⟨ht.unrelated trivial, ?_⟩
    rw [rejected_unrelated (by trivial)]
    exact he
  | @again start t e d =>
    have hlive : b.exhausted (t - start + draw h) = false :=
      Bool.eq_false_iff.2 fun hx => nomatch (show some d = _ from hk).trans (if_pos hx)
    refine ⟨inTime_snoc.2 ⟨hp.1, fun b' n r heq _ => ?_⟩, by rw [rejected_snoc]; rfl⟩
    cases heq
    exact hlive
  | @giveUp start t e =>
    have hover : b.exhausted (t - start + draw h) = true := by
      by_contra hx
      exact nomatch (show none = _ from hk).trans (if_neg hx)
    obtain ⟨ht, he⟩ := hp
    show e ≠ unexpectedCid ↔ _
    rw [inTime_snoc, ne_eq, he]
    refine ⟨fun hn => ⟨ht, fun _ _ _ _ hr => absurd hr hn⟩, fun hr hx => ?_⟩
    have := hr.2 _ _ _ rfl hx
    rw [hover] at this
    cases this

theorem RetryInv.inTime {p : RetryPhase} (hp : RetryInv draw cid p h) (he : ¬ p.Ended) : InTime draw cid h := by
  cases p with
  | gaveUp => exact absurd trivial he
  | _ => exact hp.1

theorem RetryInv.returned {er : Error} (hp : RetryInv draw cid (.gaveUp er) h) :
    (Outcome.err er : Outcome Error Unit) ≠ .err unexpectedCid ↔ InTime draw cid h := by
  rw [ne_eq, Outcome.err.injEq]
  exact hp

theorem NoneRejected.failed (hq : NoneRejected draw cid h) {er : Error} (her : er ≠ unexpectedCid) :
    InTime draw cid h ∧ (er = unexpectedCid ↔ rejected cid h = true) :=
  ⟨hq.1, iff_of_false her (by rw [hq.2]; exact Bool.false_ne_true)⟩

def ListenInv (draw : History → Nat) (cid : Nat) : ListenPhase → History → Prop
  | .retry p => RetryInv draw cid p
  | _ => NoneRejected draw cid

theorem listenInv_step {b : ExponentialBackoff} {p p' : ListenPhase} (hs : ListenStep b p e p')
    (hp : ListenInv draw cid p h) (hk : KeepsTime draw h e) : ListenInv draw cid p' (h ++ [e]) := by
  cases hs with
  | retry hr => exact retryInv_step hr hp hk
  | new | bind | listen => exact NoneRejected.unrelated hp trivial
  | newFails | bindFails | listenFails => exact (NoneRejected.unrelated hp (by trivial)).failed nofun

theorem ListenInv.inTime {p : ListenPhase} (hp : ListenInv draw cid p h) (he : ¬ p.Ended) : InTime draw cid h := by
  cases p with
  | retry p => exact RetryInv.inTime hp he
  | _ => exact hp.1

def AcceptInv (draw : History → Nat) (cid : Nat) : AcceptPhase → History → Prop
  | .retry p => RetryInv draw cid p
  | .reject _ _ | .drop _ _ => fun h => InTime draw cid h ∧ rejected cid h = true
  | _ => NoneRejected draw cid

theorem acceptInv_step {b : ExponentialBackoff} {l : Fd} {p p' : AcceptPhase} (hs : AcceptStep b l cid p e p')
    (hp : AcceptInv draw cid p h) (hk : KeepsTime draw h e) : AcceptInv draw cid p' (h ++ [e]) := by
  cases hs with
  | retry hr => exact retryInv_step hr hp hk
  | localAddr => exact NoneRejected.unrelated hp trivial
  | localAddrFails => exact (NoneRejected.unrelated hp (by trivial)).failed nofun
  | accept => exact ⟨hp.1.other nofun, by rw [rejected_snoc]; simp [rejectedStep, strangerIn]⟩
  | alien => exact ⟨hp.1.other nofun, by rw [rejected_snoc]; rfl⟩
  | acceptFails => exact NoneRejected.failed ⟨hp.1.other (by nofun), by rw [rejected_snoc]; rfl⟩ nofun
  | unexpected hcid => exact ⟨hp.1.other nofun, by rw [rejected_snoc]; simp [rejectedStep, strangerIn, hcid]⟩
  | reject => exact ⟨hp.1.unrelated trivial, (rejected_unrelated (by trivial)).trans hp.2⟩
  | drop =>
    exact ⟨hp.1.unrelated trivial, iff_of_true rfl ((rejected_unrelated (by trivial)).trans hp.2)⟩

theorem AcceptInv.inTime {p : AcceptPhase} (hp : AcceptInv draw cid p h) (he : ¬ p.Ended) : InTime draw cid h := by
  cases p with
  | retry p => exact RetryInv.inTime hp he
  | _ => exact hp.1

def SinkInv (draw : History → Nat) (cid : Nat) : SinkPhase → History → Prop
  | .retry p => RetryInv draw cid p
  | _ => NoneRejected draw cid

theorem sinkInv_step {b : ExponentialBackoff} {p p' : SinkPhase} (hs : SinkStep b p e p')
    (hp : SinkInv draw cid p h) (hk : KeepsTime draw h e) : SinkInv draw cid p' (h ++ [e]) := by
  cases hs with
  | retry hr => exact retryInv_step hr hp hk
  | new | bindDevice | headerIncluded | recvBufferSize => exact NoneRejected.unrelated hp trivial
  | newFails | bindDeviceFails | headerIncludedFails | recvBufferSizeFails =>
    exact (NoneRejected.unrelated hp (by trivial)).failed nofun

theorem SinkInv.inTime {p : SinkPhase} (hp : SinkInv draw cid p h) (he : ¬ p.Ended) : InTime draw cid h := by
  cases p with
  | retry p => exact RetryInv.inTime hp he
  | _ => exact hp.1

/-! ## `accept_connection_with_backoff` -/

/-- The call can fail only because of a connection from another CID. -/
def OnlyStrangers (cid : Nat) : AcceptPhase → Prop
  | .retry p => p.Errors (· = unexpectedCid)
  | .accepted r => ∃ port, r.2 = .vsock cid port
  | .panicked => False
  | _ => True

theorem onlyStrangers_step {b : ExponentialBackoff} {l : Fd} {p p' : AcceptPhase}
    (hs : AcceptStep b l cid p e p') (hu : Harmless e) (hp : OnlyStrangers cid p) : OnlyStrangers cid p' := by
  cases hs with
  | retry hr =>
    cases hr with
    | cancelled => cases hu
    | clock | giveUp => exact hp
    | start | attempt | again | sleep => trivial
  | localAddr | unexpected | reject => trivial
  | accept => exact ⟨_, rfl⟩
  | drop => rfl
  | localAddrFails | acceptFails | alien => exact hu.elim

/-- A call that only strangers disturb goes on until the expected peer connects, exactly when no stranger comes
too late. -/
theorem acceptConnectionWithBackoff_ok_iff {b : ExponentialBackoff} {l : Fd}
    {o : Status sysSig (Outcome Error (Fd × SockAddr))}
    (hx : Exec (Vsock.acceptConnectionWithBackoff l cid b) h o) (hk : Throughout (KeepsTime draw) h)
    (hu : ∀ e ∈ h, Harmless e) :
    (∀ r, o = .done r → ∃ c port, r = .ok (c, .vsock cid port)) ↔ InTime draw cid h := by
  have hinv : ∀ {p : AcceptPhase}, (acceptor b l cid).Path h p → AcceptInv draw cid p h ∧ OnlyStrangers cid p := by
    intro p hp
    have h₀ : AcceptInv draw cid (.retry .begin) [] := ⟨throughout_nil, rfl⟩
    refine Machine.Path.inv (M := acceptor b l cid) (E := keeping fun h e => KeepsTime draw h e ∧ Harmless e)
      (J := fun p h => AcceptInv draw cid p h ∧ OnlyStrangers cid p) ⟨h₀, trivial⟩ (fun hs hp hE => ?_) hp
      (hk.and (throughout_of_forall hu))
    obtain ⟨hke, hue⟩ := (throughout_snoc.1 hE).2
    exact ⟨acceptInv_step hs hp.1 hke, onlyStrangers_step hs hue hp.2⟩
  have harr := acceptor_path hx
  match o with
  | .asks op =>
    obtain ⟨p, hp, hw⟩ := harr
    exact iff_of_true nofun ((hinv hp).1.inTime fun he => (acceptor_ended_iff.1 he).elim hw)
  | .done (.ok (c, a)) =>
    obtain ⟨hq, port, ha⟩ := hinv harr
    refine iff_of_true (fun r hr => ?_) hq.1
    cases hr
    exact ⟨c, port, by rw [show a = _ from ha]⟩
  | .done (.err er) =>
    obtain ⟨ht, rfl⟩ := hinv harr
    refine iff_of_false (fun hall => ?_) fun hin => ht.2 hin rfl
    obtain ⟨_, _, heq⟩ := hall _ rfl
    cases heq
  | .done .panic => exact (hinv harr).2.elim

/-- The connection that is being shut down. -/
def AcceptPhase.stranger : AcceptPhase → Option Fd
  | .reject _ c => some c
  | _ => none

theorem shutsDown_of_none (hn : stranger cid h = none) : ShutsDown cid h e := fun c hc => by
  rw [hn] at hc
  cases hc

theorem AcceptStep.shutsDown {b : ExponentialBackoff} {l : Fd} {p p' : AcceptPhase}
    (hs : AcceptStep b l cid p e p') (hp : stranger cid h = p.stranger) :
    ShutsDown cid h e ∧ stranger cid (h ++ [e]) = p'.stranger := by
  rw [stranger_snoc]
  cases hs with
  | retry hr => exact ⟨shutsDown_of_none hp, by cases hr <;> rfl⟩
  | localAddr | localAddrFails | acceptFails | alien | drop => exact ⟨shutsDown_of_none hp, rfl⟩
  | accept => exact ⟨shutsDown_of_none hp, if_pos rfl⟩
  | unexpected hcid => exact ⟨shutsDown_of_none hp, if_neg hcid⟩
  | reject =>
    refine ⟨fun c hc => ?_, rfl⟩
    rw [hp] at hc
    cases hc
    rfl

theorem acceptConnectionWithBackoff_shutsDown {b : ExponentialBackoff} {l : Fd}
    {o : Status sysSig (Outcome Error (Fd × SockAddr))}
    (hx : Exec (Vsock.acceptConnectionWithBackoff l cid b) h o) : Throughout (ShutsDown cid) h := by
  obtain ⟨p, hp⟩ := (acceptor_path hx).path
  have hinv := Machine.Path.inv (M := acceptor b l cid) (E := anyEnv)
    (J := fun p h => Throughout (ShutsDown cid) h ∧ stranger cid h = AcceptPhase.stranger p) ⟨throughout_nil, rfl⟩
    (fun hs hp _ =>
      have ⟨hd, hn⟩ := hs.shutsDown hp.2
      ⟨throughout_snoc.2 ⟨hp.1, hd⟩, hn⟩) hp trivial
  exact hinv.1

/-! ## The next connection -/

def Accepts : SysOp → Prop
  | .accept _ => True
  | _ => False

/-- What happens in `v`, after `h`, as long as only strangers disturb the call, and none too late. -/
def OnTime (draw : History → Nat) (peerCid : Nat) (h v : History) : Prop :=
  Throughout (KeepsTime draw) (h ++ v) ∧ (∀ e ∈ v, Harmless e) ∧ InTime draw peerCid (h ++ v)

/-- How many operations there are before the next `accept`, at most. -/
def RetryPhase.toAccept : RetryPhase → Nat
  | .begin | .sleeping _ _ => 3
  | .attempt _ => 2
  | .running _ => 1
  | .failed _ _ => 5
  | .asking _ _ _ => 4
  | .gaveUp _ => 0

def AcceptPhase.toAccept : AcceptPhase → Nat
  | .retry p => p.toAccept
  | .reject _ _ => 7
  | .drop _ _ => 6
  | .accept _ | .accepted _ | .panicked => 0

theorem AcceptPhase.toAccept_le (p : AcceptPhase) : p.toAccept ≤ 7 := by
  cases p with
  | retry p => cases p <;> exact Nat.le_of_ble_eq_true rfl
  | _ => exact Nat.le_of_ble_eq_true rfl

theorem AcceptStep.toAccept {b : ExponentialBackoff} {l : Fd} {p p' : AcceptPhase} (hs : AcceptStep b l cid p e p')
    (hu : Harmless e) (ha : e.1 ≠ .accept l) : 1 + p'.toAccept ≤ p.toAccept := by
  cases hs with
  | retry hr =>
    cases hr with
    | cancelled => cases hu
    | _ => exact Nat.le_of_ble_eq_true rfl
  | localAddrFails => exact hu.elim
  | accept | acceptFails | unexpected | alien => exact absurd rfl ha
  | localAddr | reject | drop => exact Nat.le_refl _

/-- Whatever the call has been through, it asks for a connection again, unless it has the expected one. -/
theorem acceptConnectionWithBackoff_comes {b : ExponentialBackoff} {l : Fd}
    {o : Status sysSig (Outcome Error (Fd × SockAddr))}
    (hx : Exec (Vsock.acceptConnectionWithBackoff l cid b) h o) (hk : Throughout (KeepsTime draw) h)
    (hu : ∀ e ∈ h, Harmless e) (hin : InTime draw cid h) :
    Comes (Vsock.acceptConnectionWithBackoff l cid b) h (OnTime draw cid h) (· = .accept l)
      (fun r _ => ∃ c port, r = .ok (c, .vsock cid port)) 8 [] := by
  refine Machine.comes (M := acceptor b l cid) (K := fun _ => True) (d := AcceptPhase.toAccept) (g := fun _ => 0)
    (R := fun e => Harmless e ∧ e.1 ≠ .accept l) (n := 7) (k := 0) Vsock.reactive_acceptConnectionWithBackoff
    acceptor_path (fun hs _ he => ⟨trivial, hs.toAccept he.1 he.2⟩) (fun q _ => ⟨trivial, q.toAccept_le⟩)
    (fun hE ha => ⟨fun e he => ⟨hE.2.1 e he, ha e he⟩, Nat.le_of_eq total_zero⟩) (fun hx _ hE => ?_) hx
    ⟨by simpa using hk, nofun, by simpa using hin⟩
  obtain ⟨hk, hv, hin⟩ := hE
  exact (acceptConnectionWithBackoff_ok_iff hx hk (List.forall_mem_append.2 ⟨hu, hv⟩)).2 hin _ rfl

/-! ## The services -/

/-- After a connection from another CID the service asks for the next one. -/
def AcceptsNext (draw : History → Nat) (peerCid : Nat) (run : Sys Error Unit) (h : History) : Prop :=
  ∀ c, stranger peerCid h = some c → Comes run h (OnTime draw peerCid h) Accepts (fun _ _ => False) 8 []

/-- In a phase of `K` the service accepts connections, or it has failed because of a stranger. -/
theorem acceptsNext_of_steps {M : Machine sysSig Error Unit} {run : Sys Error Unit} {K : M.Phase → Prop}
    {d : M.Phase → Nat} (hrun : Reactive run) (hpath : ∀ {h o}, Exec run h o → M.Arrives h o)
    (hs : ∀ {q e q'}, M.Step q e q' → K q → Harmless e → ¬ Accepts e.1 → K q' ∧ 1 + d q' ≤ d q)
    (hret : ∀ {r}, K (M.returned r) → r = .err unexpectedCid)
    (hfrom : ∀ {c q}, M.Path h q → stranger cid h = some c → K q ∧ d q ≤ 7)
    (hstops : ∀ {h o}, Exec run h o → Throughout (KeepsTime draw) h →
      (o ≠ .done (.err unexpectedCid) ↔ InTime draw cid h))
    {o : Status sysSig (Outcome Error Unit)} (hx : Exec run h o) (hk : Throughout (KeepsTime draw) h) :
    o ≠ .done (.err unexpectedCid) ∧ AcceptsNext draw cid run h ↔ InTime draw cid h := by
  rw [hstops hx hk]
  refine and_iff_left_of_imp fun hin c hc => ?_
  refine Machine.comes (M := M) (K := K) (d := d) (g := fun _ => 0) (R := fun e => Harmless e ∧ ¬ Accepts e.1)
    (n := 7) (k := 0) hrun hpath (fun hst hq he => hs hst hq he.1 he.2) (fun q hq => hfrom hq hc)
    (fun hE ha => ⟨fun e he => ⟨hE.2.1 e he, ha e he⟩, Nat.le_of_eq total_zero⟩) (fun hx hr hE => ?_) hx
    ⟨by simpa using hk, nofun, by simpa using hin⟩
  exact (hstops hx hE.1).2 hE.2.2 (by rw [hret hr])

/-- While it accepts connections, a service fails because of a stranger or goes on. -/
theorem AcceptStep.goesOn {b : ExponentialBackoff} {l : Fd} {p p' : AcceptPhase} (hs : AcceptStep b l cid p e p')
    (hp : OnlyStrangers cid p) (hu : Harmless e) (ha : ¬ Accepts e.1) :
    1 + p'.toAccept ≤ p.toAccept ∧
      (p' = .retry (.gaveUp unexpectedCid) ∨ OnlyStrangers cid p' ∧ ¬ p'.Ended) := by
  have hop : e.1 ≠ .accept l := fun heq => ha (heq ▸ trivial)
  refine ⟨hs.toAccept hu hop, ?_⟩
  have honly := onlyStrangers_step hs hu hp
  rcases p'.ended_cases with ⟨er, rfl⟩ | ⟨r, rfl⟩ | rfl | he
  · exact .inl (by rw [show er = _ from honly])
  · cases hs with
    | accept => exact absurd rfl hop
  · exact honly.elim
  · exact .inr ⟨honly, he⟩

theorem strangerIn_retry {b : ExponentialBackoff} {p p' : RetryPhase} (hs : RetryStep b p e p') :
    strangerIn cid e = none := by
  cases hs <;> rfl

theorem strangerIn_listen {b : ExponentialBackoff} {p p' : ListenPhase} (hs : ListenStep b p e p') :
    strangerIn cid e = none := by
  cases hs with
  | retry hr => exact strangerIn_retry hr
  | _ => rfl

theorem strangerIn_sink {b : ExponentialBackoff} {p p' : SinkPhase} (hs : SinkStep b p e p') :
    strangerIn cid e = none := by
  cases hs with
  | retry hr => exact strangerIn_retry hr
  | _ => rfl

/-- A stranger is about to be rejected. -/
theorem AcceptStep.reject_of_stranger {b : ExponentialBackoff} {l c : Fd} {p p' : AcceptPhase}
    (hs : AcceptStep b l cid p e p') (hc : strangerIn cid e = some c) : ∃ start, p' = .reject start c := by
  cases hs with
  | retry hr =>
    rw [strangerIn_retry hr] at hc
    cases hc
  | accept => cases (if_pos rfl).symm.trans hc
  | @unexpected start c' cid' port hcid =>
    cases (if_neg hcid).symm.trans hc
    exact ⟨start, rfl⟩
  | _ => cases hc

/-- A machine whose phases say whether the rejections were in time. -/
theorem stops_iff_of_inv {M : Machine sysSig Error Unit} {J : M.Phase → History → Prop}
    {o : Status sysSig (Outcome Error Unit)} (hinv : ∀ {p : M.Phase}, M.Path h p → J p h)
    (hw : ∀ {p : M.Phase}, J p h → (∀ r, p ≠ M.returned r) → InTime draw cid h)
    (hr : ∀ r, J (M.returned r) h → (r ≠ .err unexpectedCid ↔ InTime draw cid h)) (harr : M.Arrives h o) :
    o ≠ .done (.err unexpectedCid) ↔ InTime draw cid h := by
  cases o with
  | asks op =>
    obtain ⟨p, hp, hlive⟩ := harr
    exact iff_of_true nofun (hw (hinv hp) hlive)
  | done r =>
    rw [← hr r (hinv harr), ne_eq, ne_eq, Status.done.injEq]

end

namespace VsockToIpv4

section
variable {self : VsockToIpv4} {draw : History → Nat} {cid : Nat} {h : History} {e : SysEvent}

def TimeInv (draw : History → Nat) (cid : Nat) : Phase → History → Prop
  | .listen p => fun h => ¬ p.Ended ∧ ListenInv draw cid p h
  | .accepting _ _ p => fun h => ¬ p.Ended ∧ AcceptInv draw cid p h
  | .sink _ _ _ p => fun h => ¬ p.Ended ∧ SinkInv draw cid p h
  | .returned o => fun h => o ≠ .err unexpectedCid ↔ InTime draw cid h
  | _ => NoneRejected draw cid

theorem timeInv_inListen {p : ListenPhase} (hp : ListenInv draw cid p h) : TimeInv draw cid (.inListen p) h := by
  rcases p.ended_cases with ⟨_, rfl⟩ | ⟨_, rfl⟩ | he
  · exact RetryInv.returned hp
  · exact ⟨not_false, hp⟩
  · rw [inListen_of_not_ended he]
    exact ⟨he, hp⟩

theorem timeInv_inAccept {l : Fd} {raw : Option (Fd × Fd)} {p : AcceptPhase} (hp : AcceptInv draw cid p h) :
    TimeInv draw cid (.inAccept l raw p) h := by
  rcases p.ended_cases with ⟨_, rfl⟩ | ⟨_, rfl⟩ | rfl | he
  · exact RetryInv.returned hp
  · exact hp
  · exact iff_of_true nofun hp.1
  · rw [inAccept_of_not_ended he]
    exact ⟨he, hp⟩

theorem timeInv_inSink {l src : Fd} {o : Opening} {p : SinkPhase} (hp : SinkInv draw cid p h) :
    TimeInv draw cid (.inSink l src o p) h := by
  rcases p.ended_cases with ⟨_, rfl⟩ | ⟨_, rfl⟩ | he
  · exact RetryInv.returned hp
  · cases o with
    | firstTcp => exact ⟨not_false, hp⟩
    | tcp _ | udp _ => exact hp
  · rw [inSink_of_not_ended he]
    exact ⟨he, hp⟩

theorem timeInv_onBytes {l : Fd} {s : Sockets} {got : Bytes} (hq : NoneRejected draw cid h) :
    TimeInv draw cid (.onBytes l s got) h := by
  by_cases hlen : got.length < 20
  · rw [(packet_of_header hlen).1]
    exact hq
  have hge : 20 ≤ got.length := Nat.le_of_not_lt hlen
  rcases ipv4TotalLen_cases (got.take 20) with ⟨n, pr, hok⟩ | herr
  · rw [(onBytes_of_ok hge hok).1]
    unfold Phase.dispatch
    split
    · exact hq
    · split <;> exact hq
  · rw [onBytes_of_error hge herr]
    exact iff_of_true (by decide) hq.1

theorem timeInv_step {p p' : Phase} (hs : Step self p e p') (hp : TimeInv draw self.cfg.peerCid p h)
    (hk : KeepsTime draw h e) : TimeInv draw self.cfg.peerCid p' (h ++ [e]) := by
  cases hs with
  | listen hl => exact timeInv_inListen (listenInv_step hl hp.2 hk)
  | accepting ha => exact timeInv_inAccept (acceptInv_step ha hp.2 hk)
  | sink hk' => exact timeInv_inSink (sinkInv_step hk' hp.2 hk)
  | prepare | idle | ready | readEof | readInterrupted | readFails | sendZero | sendFails =>
    exact NoneRejected.unrelated hp trivial
  | dropSource | dropTcp | dropUdp => exact ⟨not_false, NoneRejected.unrelated hp trivial⟩
  | @halfClose l raw c =>
    have hq : NoneRejected draw self.cfg.peerCid (h ++ [⟨.shutdown c .write, .ok ()⟩]) :=
      NoneRejected.unrelated hp trivial
    cases raw with
    | none => exact ⟨not_false, hq⟩
    | some _ => exact hq
  | prepareFails | halfCloseFails | idleCancelled | readyCancelled =>
    exact iff_of_true nofun (NoneRejected.unrelated hp (by trivial)).1
  | read => exact timeInv_onBytes (NoneRejected.unrelated hp trivial)
  | send => split <;> exact NoneRejected.unrelated hp trivial

theorem TimeInv.inTime {p : Phase} (hp : TimeInv draw cid p h) (hw : ∀ r, p ≠ .returned r) : InTime draw cid h := by
  cases p with
  | returned r => exact absurd rfl (hw r)
  | listen p => exact hp.2.inTime hp.1
  | accepting _ _ p => exact hp.2.inTime hp.1
  | sink _ _ _ p => exact hp.2.inTime hp.1
  | _ => exact hp.1

/-- A connection is being accepted after a stranger. -/
def Again (cid : Nat) : Phase → Prop
  | .accepting _ _ p => OnlyStrangers cid p ∧ ¬ p.Ended
  | .returned r => r = .err unexpectedCid
  | _ => False

def Phase.toAccept : Phase → Nat
  | .accepting _ _ p => p.toAccept
  | _ => 0

theorem again_step {p p' : Phase} (hs : Step self p e p') (hp : Again self.cfg.peerCid p) (hu : Harmless e)
    (ha : ¬ Accepts e.1) : Again self.cfg.peerCid p' ∧ 1 + p'.toAccept ≤ p.toAccept := by
  cases hs with
  | accepting hst =>
    obtain ⟨hle, rfl | ⟨honly, he⟩⟩ := hst.goesOn hp.1 hu ha
    · exact ⟨rfl, hle⟩
    · rw [inAccept_of_not_ended he]
      exact ⟨⟨honly, he⟩, hle⟩
  | _ => exact hp.elim

theorem again_of_stranger {p : Phase} {c : Fd} (hp : At self p h) (hc : stranger self.cfg.peerCid h = some c) :
    Again self.cfg.peerCid p ∧ p.toAccept ≤ 7 := by
  rcases List.eq_nil_or_concat h with rfl | ⟨h, e, rfl⟩
  · cases hc
  rw [List.concat_eq_append] at hp hc
  rw [stranger_snoc] at hc
  obtain ⟨q, -, hs⟩ := hp.last
  cases hs with
  | accepting hst =>
    obtain ⟨start, rfl⟩ := hst.reject_of_stranger hc
    exact ⟨⟨trivial, not_false⟩, Nat.le_refl _⟩
  | listen hst =>
    rw [strangerIn_listen hst] at hc
    cases hc
  | sink hst =>
    rw [strangerIn_sink hst] at hc
    cases hc
  | _ => cases hc

theorem run_stops_iff {o : Status sysSig (Outcome Error Unit)} (hx : Exec self.run h o)
    (hk : Throughout (KeepsTime draw) h) : o ≠ .done (.err unexpectedCid) ↔ InTime draw self.cfg.peerCid h := by
  have h₀ : TimeInv draw self.cfg.peerCid (.listen (.retry .begin)) [] := ⟨not_false, throughout_nil, rfl⟩
  refine stops_iff_of_inv (M := self.machine) (J := TimeInv draw self.cfg.peerCid) (fun hp => ?_) TimeInv.inTime
    (fun _ hr => hr) (run_path hx)
  exact hp.inv (E := keeping (KeepsTime draw)) (J := TimeInv draw self.cfg.peerCid) h₀
    (fun hs hp hE => timeInv_step hs hp (throughout_snoc.1 hE).2) hk

end

end VsockToIpv4

namespace Bootstrap

section
variable {self : Bootstrap} {draw : History → Nat} {cid : Nat} {h : History} {e : SysEvent}

def TimeInv (draw : History → Nat) (cid : Nat) : Phase → History → Prop
  | .listen p => fun h => ¬ p.Ended ∧ ListenInv draw cid p h
  | .accepting _ p => fun h => ¬ p.Ended ∧ AcceptInv draw cid p h
  | .returned o => fun h => o ≠ .err unexpectedCid ↔ InTime draw cid h
  | _ => NoneRejected draw cid

theorem timeInv_inListen {p : ListenPhase} (hp : ListenInv draw cid p h) : TimeInv draw cid (.inListen p) h := by
  rcases p.ended_cases with ⟨_, rfl⟩ | ⟨_, rfl⟩ | he
  · exact RetryInv.returned hp
  · exact hp
  · rw [inListen_of_not_ended he]
    exact ⟨he, hp⟩

theorem timeInv_inAccept {l : Fd} {p : AcceptPhase} (hp : AcceptInv draw cid p h) :
    TimeInv draw cid (.inAccept l p) h := by
  rcases p.ended_cases with ⟨_, rfl⟩ | ⟨_, rfl⟩ | rfl | he
  · exact RetryInv.returned hp
  · exact hp
  · exact iff_of_true nofun hp.1
  · rw [inAccept_of_not_ended he]
    exact ⟨he, hp⟩

theorem timeInv_onWritten {l c : Fd} {pos : Nat} (hq : NoneRejected draw cid h) :
    TimeInv draw cid (.onWritten self l c pos) h := by
  unfold Phase.onWritten
  split <;> exact hq

theorem timeInv_step {p p' : Phase} (hs : Step self p e p') (hp : TimeInv draw self.peerCid p h)
    (hk : KeepsTime draw h e) : TimeInv draw self.peerCid p' (h ++ [e]) := by
  cases hs with
  | listen hl => exact timeInv_inListen (listenInv_step hl hp.2 hk)
  | accepting ha => exact timeInv_inAccept (acceptInv_step ha hp.2 hk)
  | idle => exact ⟨not_false, NoneRejected.unrelated hp trivial⟩
  | prepare | halfClose | serving | servingCancelled | writeZero | writeFails | drop =>
    exact NoneRejected.unrelated hp trivial
  | writeTimeout | write => exact timeInv_onWritten (NoneRejected.unrelated hp trivial)
  | idleCancelled | prepareFails | halfCloseFails | writeTimeoutFails =>
    exact iff_of_true nofun (NoneRejected.unrelated hp (by trivial)).1

theorem TimeInv.inTime {p : Phase} (hp : TimeInv draw cid p h) (hw : ∀ r, p ≠ .returned r) : InTime draw cid h := by
  cases p with
  | returned r => exact absurd rfl (hw r)
  | listen p => exact hp.2.inTime hp.1
  | accepting _ p => exact hp.2.inTime hp.1
  | _ => exact hp.1

def Again (cid : Nat) : Phase → Prop
  | .accepting _ p => OnlyStrangers cid p ∧ ¬ p.Ended
  | .returned r => r = .err unexpectedCid
  | _ => False

def Phase.toAccept : Phase → Nat
  | .accepting _ p => p.toAccept
  | _ => 0

theorem again_step {p p' : Phase} (hs : Step self p e p') (hp : Again self.peerCid p) (hu : Harmless e)
    (ha : ¬ Accepts e.1) : Again self.peerCid p' ∧ 1 + p'.toAccept ≤ p.toAccept := by
  cases hs with
  | accepting hst =>
    obtain ⟨hle, rfl | ⟨honly, he⟩⟩ := hst.goesOn hp.1 hu ha
    · exact ⟨rfl, hle⟩
    · rw [inAccept_of_not_ended he]
      exact ⟨⟨honly, he⟩, hle⟩
  | _ => exact hp.elim

theorem again_of_stranger {p : Phase} {c : Fd} (hp : At self p h) (hc : stranger self.peerCid h = some c) :
    Again self.peerCid p ∧ p.toAccept ≤ 7 := by
  rcases List.eq_nil_or_concat h with rfl | ⟨h, e, rfl⟩
  · cases hc
  rw [List.concat_eq_append] at hp hc
  rw [stranger_snoc] at hc
  obtain ⟨q, -, hs⟩ := hp.last
  cases hs with
  | accepting hst =>
    obtain ⟨start, rfl⟩ := hst.reject_of_stranger hc
    exact ⟨⟨trivial, not_false⟩, Nat.le_refl _⟩
  | listen hst =>
    rw [strangerIn_listen hst] at hc
    cases hc
  | _ => cases hc

theorem run_stops_iff {o : Status sysSig (Outcome Error Unit)} (hx : Exec self.run h o)
    (hk : Throughout (KeepsTime draw) h) : o ≠ .done (.err unexpectedCid) ↔ InTime draw self.peerCid h := by
  have h₀ : TimeInv draw self.peerCid (.listen (.retry .begin)) [] := ⟨not_false, throughout_nil, rfl⟩
  refine stops_iff_of_inv (M := self.machine) (J := TimeInv draw self.peerCid) (fun hp => ?_) TimeInv.inTime
    (fun _ hr => hr) (run_path hx)
  exact hp.inv (E := keeping (KeepsTime draw)) (J := TimeInv draw self.peerCid) h₀
    (fun hs hp hE => timeInv_step hs hp (throughout_snoc.1 hE).2) hk

end

end Bootstrap

/-- CID 99 connects `t` milliseconds after the start, and `d` is what the crate makes of that. -/
def strangerAfter (t : Nat) (d : Option Nat) : History :=
  [⟨.now, (0 : Nat)⟩, ⟨.isCancelled, false⟩, ⟨.localAddr 1, .ok (.vsock 3 9000)⟩, ⟨.accept 1, .ok (2, .vsock 99 7)⟩,
    ⟨.shutdown 2 .both, .ok ()⟩, ⟨.dropSocket 2, ()⟩, ⟨.now, t⟩, ⟨.nextBackoff ⟨some 60000⟩ t, d⟩]

end Glycerine
