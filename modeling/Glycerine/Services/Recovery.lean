import Glycerine.Interact.Comes
import Glycerine.Services.Reactive
import Glycerine.Bootstrap.ServeMachine
import Glycerine.Proxy.Ipv4Machine
import Glycerine.Proxy.NfqMachine
/-
# What a broken connection does to a service

Each of the three services replaces a connection whose read, send or write fails. The steps that prepare a new
connection (half-closing it, and the write timeout of the bootstrap service) are outside of what is recovered: an
error of theirs leaves `run` by `?`. `Recovers` and `Reconnects` are what the services do about a failure, `PrepOk` is
what they need.
-/

namespace Glycerine
open Interact Machine

/-! ## What a history says about connections -/

/-- Nothing goes wrong but connections: there is no shutdown, what is retried succeeds in time, and every peer has a
vsock address. -/
def Benign : SysEvent → Prop
  | ⟨.isCancelled, c⟩ => c = false
  | ⟨.nextBackoff _ _, d⟩ => d.isSome = true
  | ⟨.accept _, .ok (_, .inet _ _)⟩ => False
  | _ => True

instance : DecidablePred Benign := fun e =>
  decidable_of_bool (match e with
    | ⟨.isCancelled, c⟩ => !c
    | ⟨.nextBackoff _ _, d⟩ => d.isSome
    | ⟨.accept _, .ok (_, .inet _ _)⟩ => false
    | _ => true) (by unfold Benign; split <;> simp)

/-- The bytes of the packet that is being read, after one more event. -/
def readingStep (got : Bytes) : SysEvent → Bytes
  | ⟨.read _ _, .ok bs⟩ =>
    if bs.1 = [] ∨ VsockToIpv4.wanted (got ++ bs.1) = 0 then [] else got ++ bs.1
  | ⟨.read _ _, .error e⟩ => if e.isInterrupted then got else []
  | _ => got

def reading (h : History) : Bytes := h.foldl readingStep []

/-- A read completes a header that is not the header of a packet. -/
def Malformed (h : History) : SysEvent → Prop
  | ⟨.read _ _, .ok bs⟩ => 20 ≤ (reading h ++ bs.1).length ∧ announced ((reading h ++ bs.1).take 20) = none
  | _ => False

instance {h : History} : DecidablePred (Malformed h) := fun e =>
  decidable_of_bool (match e with
    | ⟨.read _ _, .ok bs⟩ =>
      decide (20 ≤ (reading h ++ bs.1).length ∧ announced ((reading h ++ bs.1).take 20) = none)
    | _ => false) (by unfold Malformed; split <;> simp)

/-- The call that establishes connection `c`: its accept, or the look at its address that ends
`new_client_socket`. -/
def establishes (c : Fd) : SysEvent → Prop
  | ⟨.accept _, .ok (c', _)⟩ | ⟨.localAddr c', .ok _⟩ => c' = c
  | _ => False

def Established (c : Fd) (h : History) : Prop := ∃ e, h.getLast? = some e ∧ establishes c e

/-- A step of preparing a connection fails: the half-close, the look at the address that it begins with, or the
write timeout. -/
def PrepFails (h : History) : SysEvent → Prop
  | ⟨.localAddr c, .error _⟩ => Established c h
  | ⟨.shutdown _ how, .error _⟩ => how ≠ .both
  | ⟨.setWriteTimeout _ _, .error _⟩ => True
  | _ => False

def PrepOk (h : History) (e : SysEvent) : Prop := ¬ PrepFails h e

def failedStep (failed : Bool) : SysEvent → Bool
  | ⟨.read _ _, .ok bs⟩ => failed || bs.1.isEmpty
  | ⟨.read _ _, .error e⟩ => failed || !e.isInterrupted
  | ⟨.send _ _, .ok n⟩ | ⟨.write _ _, .ok n⟩ => failed || n.val == 0
  | ⟨.send _ _, .error _⟩ | ⟨.write _ _, .error _⟩ => true
  | ⟨.accept _, .ok _⟩ | ⟨.connect _ _, .ok _⟩ => false
  | _ => failed

/-- A read, send or write failed, and no connection was established since. -/
def failed (h : History) : Bool := h.foldl failedStep false

/-- The operations of `pump` and `serve`. -/
def serving : SysOp → Bool
  | .read _ _ | .send _ _ | .write _ _ | .sendTo _ _ _ | .recv _ | .verdict _ _ => true
  | _ => false

/-- After a failure the service does not go on before it has the next connection. -/
def Recovers (h : History) (e : SysEvent) : Prop := serving e.1 = true → failed h = false

/-- The service asks for a connection. -/
def Connects : SysOp → Prop
  | .accept _ | .connect _ _ => True
  | _ => False

/-- How often an operation is retried. -/
def retries : SysEvent → Nat
  | ⟨.nextBackoff _ _, _⟩ => 1
  | _ => 0

/-- From `h` on the service asks for the next connection: after at most 8 operations, and 5 more for each retry. -/
def Reconnects (run : Sys Error Unit) (h : History) : Prop :=
  ∀ k, Comes run h (fun v => (∀ e ∈ v, Benign e) ∧ total retries v ≤ k) Connects (fun _ _ => False) (8 + 5 * k) []

section
variable {h : History} {e : SysEvent} {c : Fd}

theorem reading_snoc : reading (h ++ [e]) = readingStep (reading h) e := by
  unfold reading
  rw [List.foldl_append]
  rfl

theorem failed_snoc : failed (h ++ [e]) = failedStep (failed h) e := by
  unfold failed
  rw [List.foldl_append]
  rfl

theorem established_snoc : Established c (h ++ [e]) ↔ establishes c e := by
  unfold Established
  rw [List.getLast?_append]
  constructor
  · rintro ⟨_, heq, he⟩
    cases heq
    exact he
  · intro he
    exact ⟨e, rfl, he⟩

/-- An event that says nothing about connections. -/
structure Neutral (e : SysEvent) : Prop where
  reading : ∀ got, readingStep got e = got
  failed : ∀ b, failedStep b e = b
  recovers : ∀ h, Recovers h e
  prepOk : ∀ h, PrepOk h e
  establishes : ∀ c, ¬ establishes c e

/-- The operations that are about connections, or use them. -/
def aboutConnections : SysOp → Bool
  | .read _ _ | .send _ _ | .write _ _ | .sendTo _ _ _ | .recv _ | .verdict _ _ | .accept _ | .connect _ _
  | .localAddr _ | .shutdown _ _ | .setWriteTimeout _ _ => true
  | _ => false

theorem neutral_of_op (he : aboutConnections e.1 = false) : Neutral e := by
  obtain ⟨op, r⟩ := e
  cases op with
  | read | send | write | sendTo | recv | verdict | accept | connect | localAddr | shutdown | setWriteTimeout =>
    cases he
  | _ => exact ⟨fun _ => rfl, fun _ => rfl, nofun, fun _ => not_false, fun _ => not_false⟩

theorem recovers_of_op (he : serving e.1 = false) : Recovers h e := by
  intro hs
  rw [he] at hs
  cases hs

/-! ## The parts that all services have -/

/-- With the budget to retry, `retry` does not give up; the operation begins after a look at the token. -/
def RetryGoing : RetryPhase → History → Prop
  | .running _ => fun h => ∀ c, ¬ Established c h
  | .gaveUp _ => fun _ => False
  | _ => fun _ => True

theorem retry_neutral {b : ExponentialBackoff} {p p' : RetryPhase} (hs : RetryStep b p e p') : Neutral e := by
  cases hs <;> exact neutral_of_op rfl

theorem retryGoing_step {b : ExponentialBackoff} {p p' : RetryPhase} (hs : RetryStep b p e p') (hb : Benign e) :
    RetryGoing p' (h ++ [e]) := by
  cases hs with
  | cancelled | giveUp => cases hb
  | attempt => exact fun c hc => established_snoc.1 hc
  | start | clock | again | sleep => trivial

def ListenGoing : ListenPhase → History → Prop
  | .retry p => RetryGoing p
  | _ => fun _ => True

theorem listen_neutral {b : ExponentialBackoff} {p p' : ListenPhase} (hs : ListenStep b p e p') : Neutral e := by
  cases hs with
  | retry hr => exact retry_neutral hr
  | _ => exact neutral_of_op rfl

theorem listenGoing_step {b : ExponentialBackoff} {p p' : ListenPhase} (hs : ListenStep b p e p')
    (hb : Benign e) :
    ListenGoing p' (h ++ [e]) := by
  cases hs with
  | retry hr => exact retryGoing_step hr hb
  | _ => trivial

def SinkGoing : SinkPhase → History → Prop
  | .retry p => RetryGoing p
  | _ => fun _ => True

theorem sink_neutral {b : ExponentialBackoff} {p p' : SinkPhase} (hs : SinkStep b p e p') : Neutral e := by
  cases hs with
  | retry hr => exact retry_neutral hr
  | _ => exact neutral_of_op rfl

theorem sinkGoing_step {b : ExponentialBackoff} {p p' : SinkPhase} (hs : SinkStep b p e p') (hb : Benign e) :
    SinkGoing p' (h ++ [e]) := by
  cases hs with
  | retry hr => exact retryGoing_step hr hb
  | _ => trivial

def AcceptGoing : AcceptPhase → History → Prop
  | .retry p => RetryGoing p
  | .accepted r => fun h => Established r.1 h ∧ failed h = false
  | .panicked => fun _ => False
  | _ => fun _ => True

theorem acceptGoing_step {b : ExponentialBackoff} {l : Fd} {cid : Nat} {p p' : AcceptPhase}
    (hs : AcceptStep b l cid p e p') (hp : AcceptGoing p h) (hb : Benign e) :
    Recovers h e ∧ PrepOk h e ∧ AcceptGoing p' (h ++ [e]) := by
  cases hs with
  | retry hr =>
    have hn := retry_neutral hr
    exact ⟨hn.recovers h, hn.prepOk h, retryGoing_step hr hb⟩
  | localAddr | acceptFails | unexpected | drop => exact ⟨recovers_of_op rfl, not_false, trivial⟩
  | localAddrFails => exact ⟨recovers_of_op rfl, hp l, trivial⟩
  | accept => exact ⟨recovers_of_op rfl, not_false, established_snoc.2 rfl, failed_snoc⟩
  | alien => exact hb.elim
  | @reject start c r =>
    refine ⟨recovers_of_op rfl, ?_, trivial⟩
    cases r with
    | ok _ => exact not_false
    | error er => exact fun hf => hf rfl

theorem accept_reading {b : ExponentialBackoff} {l : Fd} {cid : Nat} {p p' : AcceptPhase}
    (hs : AcceptStep b l cid p e p') : reading (h ++ [e]) = reading h := by
  rw [reading_snoc]
  cases hs with
  | retry hr => exact (retry_neutral hr).reading _
  | _ => rfl

end

/-! ## The way to the next connection -/

/-- How many operations there are before the next `accept` or `connect`, at most; what is done by then may fail. -/
def RetryPhase.toConnect : RetryPhase → Nat
  | .begin | .sleeping _ _ => 5
  | .attempt _ => 4
  | .running _ => 3
  | .failed _ _ => 2
  | .asking _ _ _ => 1
  | .gaveUp _ => 0

theorem RetryPhase.toConnect_le (p : RetryPhase) : p.toConnect ≤ 5 := by
  cases p <;> exact Nat.le_of_ble_eq_true rfl

theorem RetryStep.toConnect {b : ExponentialBackoff} {p p' : RetryPhase} {e : SysEvent} (hs : RetryStep b p e p') :
    1 + p'.toConnect ≤ p.toConnect + 5 * retries e := by
  cases hs <;> exact Nat.le_of_ble_eq_true rfl

theorem RetryStep.not_gaveUp {b : ExponentialBackoff} {p p' : RetryPhase} {e : SysEvent} (hs : RetryStep b p e p')
    (hb : Benign e) : ¬ p'.Ended := by
  cases hs with
  | cancelled | giveUp => cases hb
  | _ => exact not_false

def AcceptPhase.toConnect : AcceptPhase → Nat
  | .retry p => p.toConnect
  | .reject _ _ => 4
  | .drop _ _ => 3
  | .accept _ | .accepted _ | .panicked => 0

theorem AcceptPhase.toConnect_le (p : AcceptPhase) : p.toConnect ≤ 5 := by
  cases p with
  | retry p => exact p.toConnect_le
  | _ => exact Nat.le_of_ble_eq_true rfl

theorem AcceptStep.toConnect {b : ExponentialBackoff} {l : Fd} {cid : Nat} {p p' : AcceptPhase} {e : SysEvent}
    (hs : AcceptStep b l cid p e p') (hb : Benign e) (hc : ¬ Connects e.1) :
    ¬ p'.Ended ∧ 1 + p'.toConnect ≤ p.toConnect + 5 * retries e := by
  cases hs with
  | retry hr => exact ⟨hr.not_gaveUp hb, hr.toConnect⟩
  | accept | acceptFails | unexpected | alien => exact absurd trivial hc
  | _ => exact ⟨not_false, Nat.le_of_ble_eq_true rfl⟩

/-! ## Whole runs -/

/-- A service that fails to go on only when the preparation of a connection fails: as long as it goes on `J` holds of
the phase, and after a failure it is in a phase of `Lost`, `d` operations from the next connection. -/
structure Recovering (M : Machine sysSig Error Unit) (run : Sys Error Unit) (K : History → SysEvent → Prop)
    (J : M.Phase → History → Prop) (Lost : M.Phase → Prop) (d : M.Phase → Nat) : Prop where
  reactive : Reactive run
  path : ∀ {h o}, Exec run h o → M.Arrives h o
  dead : ∀ {r e p'}, ¬ M.Step (M.returned r) e p'
  start : J M.start []
  step : ∀ {p e p' h}, M.Step p e p' → J p h → K h e →
    Recovers h e ∧ (PrepOk h e ∧ J p' (h ++ [e]) ∨ ¬ PrepOk h e ∧ ∃ r, p' = M.returned r)
  not_returned : ∀ {r h}, ¬ J (M.returned r) h
  lost : ∀ {p h}, J p h → failed h = true → Lost p ∧ d p ≤ 7
  back : ∀ {p e p'}, M.Step p e p' → Lost p → Benign e → ¬ Connects e.1 → Lost p' ∧ 1 + d p' ≤ d p + 5 * retries e
  not_lost : ∀ {r}, ¬ Lost (M.returned r)

namespace Recovering
variable {M : Machine sysSig Error Unit} {run : Sys Error Unit} {K : History → SysEvent → Prop}
  {J : M.Phase → History → Prop} {Lost : M.Phase → Prop} {d : M.Phase → Nat} {h : History}
  {o : Status sysSig (Outcome Error Unit)}

theorem inv (hr : Recovering M run K J Lost d) (hk : Throughout K h) {p : M.Phase} (hp : M.Path h p) :
    Throughout Recovers h ∧ (Throughout PrepOk h ∧ J p h ∨ ¬ Throughout PrepOk h ∧ ∃ r, p = M.returned r) := by
  refine hp.inv (E := keeping K) (J := fun p h => Throughout Recovers h ∧
    (Throughout PrepOk h ∧ J p h ∨ ¬ Throughout PrepOk h ∧ ∃ r, p = M.returned r))
    ⟨throughout_nil, .inl ⟨throughout_nil, hr.start⟩⟩ (fun hs hp hE => ?_) hk
  obtain ⟨hrec, ⟨hok, hj⟩ | ⟨-, r, rfl⟩⟩ := hp
  · obtain ⟨hre, hcase⟩ := hr.step hs hj (throughout_snoc.1 hE).2
    refine ⟨throughout_snoc.2 ⟨hrec, hre⟩, ?_⟩
    rcases hcase with ⟨hoke, hj'⟩ | ⟨hoke, hret⟩
    · exact .inl ⟨throughout_snoc.2 ⟨hok, hoke⟩, hj'⟩
    · exact .inr ⟨fun hall => hoke (throughout_snoc.1 hall).2, hret⟩
  · exact absurd hs hr.dead

theorem recovers (hr : Recovering M run K J Lost d) (hx : Exec run h o) (hk : Throughout K h) :
    Throughout Recovers h := by
  obtain ⟨p, hp⟩ := (hr.path hx).path
  exact (hr.inv hk hp).1

theorem asks_iff (hr : Recovering M run K J Lost d) (hx : Exec run h o) (hk : Throughout K h) :
    (∃ op, o = .asks op) ↔ Throughout PrepOk h := by
  have harr := hr.path hx
  cases o with
  | asks op =>
    obtain ⟨p, hp, hw⟩ := harr
    obtain ⟨-, ⟨hok, -⟩ | ⟨-, r, rfl⟩⟩ := hr.inv hk hp
    · exact iff_of_true ⟨op, rfl⟩ hok
    · exact absurd rfl (hw r)
  | done r =>
    obtain ⟨-, ⟨-, hj⟩ | ⟨hok, -⟩⟩ := hr.inv hk harr
    · exact absurd hj hr.not_returned
    · exact iff_of_false nofun hok

/-- After a failure the service is on its way to the next connection. -/
theorem reconnects (hr : Recovering M run K J Lost d) (hx : Exec run h o) (hk : Throughout K h)
    (hok : Throughout PrepOk h) (hf : failed h = true) : Reconnects run h := by
  intro k
  have hn : 8 + 5 * k = 7 + 5 * k + 1 := by omega
  rw [hn]
  refine Machine.comes (K := Lost) (d := d) (g := fun e => 5 * retries e) (R := fun e => Benign e ∧ ¬ Connects e.1)
    hr.reactive hr.path (fun hs hp he => hr.back hs hp he.1 he.2) (fun p hp => ?_) (fun hE hc => ?_)
    (fun _ hp _ => hr.not_lost hp) hx ⟨nofun, Nat.zero_le _⟩
  · obtain ⟨-, ⟨-, hj⟩ | ⟨hno, -⟩⟩ := hr.inv hk hp
    · exact hr.lost hj hf
    · exact absurd hok hno
  · obtain ⟨hb, hle⟩ := hE
    refine ⟨fun e he => ⟨hb e he, hc e he⟩, ?_⟩
    rw [total_mul]
    exact Nat.mul_le_mul_left 5 hle

theorem recovers_iff (hr : Recovering M run K J Lost d) (hx : Exec run h o) (hk : Throughout K h) :
    Throughout Recovers h ∧
      ((∃ op, o = .asks op) ∧ (failed h = true → Reconnects run h) ↔ Throughout PrepOk h) := by
  refine ⟨hr.recovers hx hk, ?_⟩
  rw [hr.asks_iff hx hk]
  exact and_iff_left_of_imp (hr.reconnects hx hk)

end Recovering

namespace VsockToIpv4

section
variable {self : VsockToIpv4} {h : History} {e : SysEvent}

/-- What holds while `run` goes on: a phase that uses the connection has one that has not failed, and the part of a
packet that is being read is the phase's. -/
def Going : Phase → History → Prop
  | .listen p => fun h => ListenGoing p h ∧ failed h = false ∧ reading h = []
  | .accepting _ _ p => fun h => AcceptGoing p h ∧ reading h = []
  | .prepare _ _ c => fun h => Established c h ∧ failed h = false ∧ reading h = []
  | .sink _ _ _ p => fun h => SinkGoing p h ∧ failed h = false ∧ reading h = []
  | .packet _ _ got => fun h => failed h = false ∧ reading h = got
  | .vsockFailed _ _ => fun h => reading h = []
  | .returned _ => fun _ => False
  | _ => fun h => failed h = false ∧ reading h = []

theorem going_inListen {p : ListenPhase} (hp : ListenGoing p h) (hf : failed h = false) (hr : reading h = []) :
    Going (.inListen p) h := by
  rcases p.ended_cases with ⟨_, rfl⟩ | ⟨_, rfl⟩ | he
  · exact hp
  · exact ⟨trivial, hr⟩
  · rw [inListen_of_not_ended he]
    exact ⟨hp, hf, hr⟩

theorem going_inAccept {l : Fd} {raw : Option (Fd × Fd)} {p : AcceptPhase} (hp : AcceptGoing p h)
    (hr : reading h = []) : Going (.inAccept l raw p) h := by
  rcases p.ended_cases with ⟨_, rfl⟩ | ⟨_, rfl⟩ | rfl | he
  · exact hp
  · exact ⟨hp.1, hp.2, hr⟩
  · exact hp
  · rw [inAccept_of_not_ended he]
    exact ⟨hp, hr⟩

theorem going_inSink {l src : Fd} {o : Opening} {p : SinkPhase} (hp : SinkGoing p h) (hf : failed h = false)
    (hr : reading h = []) : Going (.inSink l src o p) h := by
  rcases p.ended_cases with ⟨_, rfl⟩ | ⟨_, rfl⟩ | he
  · exact hp
  · cases o with
    | firstTcp => exact ⟨trivial, hf, hr⟩
    | tcp _ | udp _ => exact ⟨hf, hr⟩
  · rw [inSink_of_not_ended he]
    exact ⟨hp, hf, hr⟩

/-- A read that is not of a malformed packet: more is wanted, or the packet is whole. -/
theorem going_onBytes {l : Fd} {s : Sockets} {got : Bytes} (hf : failed h = false)
    (hbad : ¬ (20 ≤ got.length ∧ announced (got.take 20) = none))
    (hr : reading h = if wanted got = 0 then [] else got) : Going (.onBytes l s got) h := by
  by_cases hlen : got.length < 20
  · obtain ⟨hp, hw⟩ := packet_of_header (l := l) (s := s) hlen
    rw [hp]
    rw [if_neg (by omega)] at hr
    exact ⟨hf, hr⟩
  have hge : 20 ≤ got.length := Nat.le_of_not_lt hlen
  rcases ipv4TotalLen_cases (got.take 20) with ⟨n, pr, hok⟩ | herr
  · obtain ⟨hp, hw⟩ := onBytes_of_ok (l := l) (s := s) hge hok
    rw [hp]
    by_cases hlt : got.length < n
    · rw [if_pos hlt]
      rw [if_neg (by omega)] at hr
      exact ⟨hf, hr⟩
    · rw [if_neg hlt]
      rw [if_pos (by omega)] at hr
      unfold Phase.dispatch
      split <;> exact ⟨hf, hr⟩
  · exact absurd ⟨hge, by unfold announced; rw [herr]⟩ hbad

theorem going_step {p p' : Phase} (hs : Step self p e p') (hp : Going p h) (hb : Benign e)
    (hm : ¬ Malformed h e) :
    Recovers h e ∧ (PrepOk h e ∧ Going p' (h ++ [e]) ∨ ¬ PrepOk h e ∧ ∃ r, p' = .returned r) := by
  cases hs with
  | listen hl =>
    have hn := listen_neutral hl
    refine ⟨hn.recovers h, .inl ⟨hn.prepOk h, going_inListen (listenGoing_step hl hb) ?_ ?_⟩⟩
    · rw [failed_snoc, hn.failed, hp.2.1]
    · rw [reading_snoc, hn.reading, hp.2.2]
  | accepting ha =>
    obtain ⟨hrec, hok, hp'⟩ := acceptGoing_step ha hp.1 hb
    exact ⟨hrec, .inl ⟨hok, going_inAccept hp' ((accept_reading ha).trans hp.2)⟩⟩
  | sink hk =>
    have hn := sink_neutral hk
    refine ⟨hn.recovers h, .inl ⟨hn.prepOk h, going_inSink (sinkGoing_step hk hb) ?_ ?_⟩⟩
    · rw [failed_snoc, hn.failed, hp.2.1]
    · rw [reading_snoc, hn.reading, hp.2.2]
  | prepare => exact ⟨recovers_of_op rfl, .inl ⟨not_false, failed_snoc.trans hp.2.1, reading_snoc.trans hp.2.2⟩⟩
  | prepareFails => exact ⟨recovers_of_op rfl, .inr ⟨fun hok => hok hp.1, _, rfl⟩⟩
  | @halfClose l raw c =>
    have hf : failed (h ++ [⟨.shutdown c .write, .ok ()⟩]) = false := failed_snoc.trans hp.1
    have hr : reading (h ++ [⟨.shutdown c .write, .ok ()⟩]) = [] := reading_snoc.trans hp.2
    refine ⟨recovers_of_op rfl, .inl ⟨not_false, ?_⟩⟩
    cases raw with
    | none => exact ⟨trivial, hf, hr⟩
    | some _ => exact ⟨hf, hr⟩
  | halfCloseFails => exact ⟨recovers_of_op rfl, .inr ⟨fun hok => hok nofun, _, rfl⟩⟩
  | idle | ready => exact ⟨recovers_of_op rfl, .inl ⟨not_false, failed_snoc.trans hp.1, reading_snoc.trans hp.2⟩⟩
  | idleCancelled | readyCancelled => cases hb
  | @read l s got bs hne =>
    obtain ⟨hf, rfl⟩ := hp
    refine ⟨fun _ => hf, .inl ⟨not_false, going_onBytes ?_ hm ?_⟩⟩
    · rw [failed_snoc, hf]
      exact List.isEmpty_eq_false_iff.2 hne
    · rw [reading_snoc]
      simp [readingStep, hne]
  | readEof hnil =>
    refine ⟨fun _ => hp.1, .inl ⟨not_false, ?_⟩⟩
    show reading _ = []
    rw [reading_snoc]
    simp [readingStep, hnil]
  | readInterrupted he =>
    refine ⟨fun _ => hp.1, .inl ⟨not_false, ?_, ?_⟩⟩
    · rw [failed_snoc, hp.1]
      simp [failedStep, he]
    · rw [reading_snoc]
      exact (if_pos he).trans hp.2
  | readFails he =>
    refine ⟨fun _ => hp.1, .inl ⟨not_false, ?_⟩⟩
    show reading _ = []
    rw [reading_snoc]
    simp [readingStep, he]
  | dropSource => exact ⟨recovers_of_op rfl, .inl ⟨not_false, trivial, reading_snoc.trans hp⟩⟩
  | send =>
    refine ⟨fun _ => hp.1, .inl ⟨not_false, ?_⟩⟩
    split <;> exact ⟨failed_snoc.trans hp.1, reading_snoc.trans hp.2⟩
  | sendZero | sendFails =>
    exact ⟨fun _ => hp.1, .inl ⟨not_false, failed_snoc.trans hp.1, reading_snoc.trans hp.2⟩⟩
  | dropTcp | dropUdp =>
    exact ⟨recovers_of_op rfl, .inl ⟨not_false, trivial, failed_snoc.trans hp.1, reading_snoc.trans hp.2⟩⟩

/-- The phases in which the connection is lost. -/
def Lost : Phase → Prop
  | .vsockFailed _ _ | .accepting _ _ _ => True
  | _ => False

def Phase.toConnect : Phase → Nat
  | .vsockFailed _ _ => 6
  | .accepting _ _ p => p.toConnect
  | _ => 0

theorem lost_of_going {p : Phase} (hp : Going p h) (hf : failed h = true) : Lost p ∧ p.toConnect ≤ 7 := by
  have hno (hf' : failed h = false) : False := Bool.false_ne_true (hf'.symm.trans hf)
  cases p with
  | vsockFailed => exact ⟨trivial, Nat.le_of_ble_eq_true rfl⟩
  | accepting _ _ p => exact ⟨trivial, Nat.le_trans p.toConnect_le (by decide)⟩
  | listen | sink | prepare => exact (hno hp.2.1).elim
  | returned => exact hp.elim
  | halfClose | idle | ready | packet | sending | rawFailed => exact (hno hp.1).elim

theorem lost_step {p p' : Phase} (hs : Step self p e p') (hp : Lost p) (hb : Benign e) (hc : ¬ Connects e.1) :
    Lost p' ∧ 1 + p'.toConnect ≤ p.toConnect + 5 * retries e := by
  cases hs with
  | accepting ha =>
    obtain ⟨he, hle⟩ := ha.toConnect hb hc
    rw [inAccept_of_not_ended he]
    exact ⟨trivial, hle⟩
  | dropSource => exact ⟨trivial, Nat.le_refl _⟩
  | _ => exact hp.elim

theorem recovering : Recovering self.machine self.run (fun h e => Benign e ∧ ¬ Malformed h e) Going Lost
    Phase.toConnect where
  reactive := run_reactive
  path := run_path
  dead := fun hs => nomatch hs
  start := ⟨trivial, rfl, rfl⟩
  step := fun hs hp hk => going_step hs hp hk.1 hk.2
  not_returned := id
  lost := lost_of_going
  back := lost_step
  not_lost := id

end

end VsockToIpv4

namespace NfqToVsock

section
variable {self : NfqToVsock} {h : History} {e : SysEvent}

def Going : Phase → History → Prop
  | .queue _ p => fun h => RetryGoing p h ∧ failed h = false
  | .connect _ _ p => RetryGoing p
  | .connecting _ _ _ _ => fun _ => True
  | .connected _ _ _ _ => fun h => (∀ c, ¬ Established c h) ∧ failed h = false
  | .prepare _ _ c => fun h => Established c h ∧ failed h = false
  | .returned _ => fun _ => False
  | _ => fun h => failed h = false

theorem going_inQueue {c : Option Fd} {p : RetryPhase} (hp : RetryGoing p h) (hf : failed h = false) :
    Going (.inQueue c p) h := by
  cases p with
  | gaveUp => exact hp
  | _ => exact ⟨hp, hf⟩

theorem going_inConnect {q : Fd} {old : Option Fd} {p : RetryPhase} (hp : RetryGoing p h) :
    Going (.inConnect q old p) h := by
  cases p <;> exact hp

theorem going_step {p p' : Phase} (hs : Step self p e p') (hp : Going p h) (hb : Benign e) :
    Recovers h e ∧ (PrepOk h e ∧ Going p' (h ++ [e]) ∨ ¬ PrepOk h e ∧ ∃ r, p' = .returned r) := by
  cases hs with
  | queueRetry hr =>
    have hn := retry_neutral hr
    refine ⟨hn.recovers h, .inl ⟨hn.prepOk h, going_inQueue (retryGoing_step hr hb) ?_⟩⟩
    rw [failed_snoc, hn.failed, hp.2]
  | connectRetry hr =>
    have hn := retry_neutral hr
    exact ⟨hn.recovers h, .inl ⟨hn.prepOk h, going_inConnect (retryGoing_step hr hb)⟩⟩
  | queueOpen => exact ⟨recovers_of_op rfl, .inl ⟨not_false, failed_snoc.trans hp.2⟩⟩
  | queueOpenFails => exact ⟨recovers_of_op rfl, .inl ⟨not_false, trivial, failed_snoc.trans hp.2⟩⟩
  | queueBind | queueEnobufs | release | idle | ready =>
    exact ⟨recovers_of_op rfl, .inl ⟨not_false, failed_snoc.trans hp⟩⟩
  | queueBindFails | queueEnobufsFails | queueMaxLenFails | dropQueue =>
    exact ⟨recovers_of_op rfl, .inl ⟨not_false, trivial, failed_snoc.trans hp⟩⟩
  | @queueMaxLen c start q num len =>
    have hf : failed (h ++ [⟨.setQueueMaxLen q num len, .ok ()⟩]) = false := failed_snoc.trans hp
    refine ⟨recovers_of_op rfl, .inl ⟨not_false, ?_⟩⟩
    cases c with
    | none => exact trivial
    | some _ => exact hf
  | socketNew | socketNewFails | connectFails => exact ⟨recovers_of_op rfl, .inl ⟨not_false, trivial⟩⟩
  | connect => exact ⟨recovers_of_op rfl, .inl ⟨not_false, fun c hc => established_snoc.1 hc, failed_snoc⟩⟩
  | connected => exact ⟨recovers_of_op rfl, .inl ⟨not_false, established_snoc.2 rfl, failed_snoc.trans hp.2⟩⟩
  | @connectedFails q old start c er => exact ⟨recovers_of_op rfl, .inl ⟨hp.1 c, trivial⟩⟩
  | prepare => exact ⟨recovers_of_op rfl, .inl ⟨not_false, failed_snoc.trans hp.2⟩⟩
  | prepareFails => exact ⟨recovers_of_op rfl, .inr ⟨fun hok => hok hp.1, _, rfl⟩⟩
  | @halfClose q old c =>
    have hf : failed (h ++ [⟨.shutdown c .read, .ok ()⟩]) = false := failed_snoc.trans hp
    refine ⟨recovers_of_op rfl, .inl ⟨not_false, ?_⟩⟩
    cases old <;> exact hf
  | halfCloseFails => exact ⟨recovers_of_op rfl, .inr ⟨fun hok => hok nofun, _, rfl⟩⟩
  | idleCancelled | readyCancelled => cases hb
  | recv | recvOverflow | recvFails | verdict | verdictFails =>
    exact ⟨fun _ => hp, .inl ⟨not_false, failed_snoc.trans hp⟩⟩
  | send hlt hpos =>
    refine ⟨fun _ => hp, .inl ⟨not_false, failed_snoc.trans ?_⟩⟩
    rw [show failed h = false from hp]
    exact beq_false_of_ne (Nat.ne_of_gt hpos)
  | sendZero | sendFails => exact ⟨fun _ => hp, .inl ⟨not_false, trivial⟩⟩

def Lost : Phase → Prop
  | .connect _ _ _ | .connecting _ _ _ _ => True
  | _ => False

def Phase.toConnect : Phase → Nat
  | .connect _ _ p => p.toConnect
  | _ => 0

theorem lost_of_going {p : Phase} (hp : Going p h) (hf : failed h = true) : Lost p ∧ p.toConnect ≤ 7 := by
  have hno (hf' : failed h = false) : False := Bool.false_ne_true (hf'.symm.trans hf)
  cases p with
  | connect _ _ p => exact ⟨trivial, Nat.le_trans p.toConnect_le (by decide)⟩
  | connecting => exact ⟨trivial, Nat.zero_le _⟩
  | queue | connected | prepare => exact (hno hp.2).elim
  | returned => exact hp.elim
  | _ => exact (hno hp).elim

theorem lost_step {p p' : Phase} (hs : Step self p e p') (hp : Lost p) (hb : Benign e) (hc : ¬ Connects e.1) :
    Lost p' ∧ 1 + p'.toConnect ≤ p.toConnect + 5 * retries e := by
  cases hs with
  | connectRetry hr =>
    rw [inConnect_of_not_ended (hr.not_gaveUp hb)]
    exact ⟨trivial, hr.toConnect⟩
  | socketNew | socketNewFails => exact ⟨trivial, Nat.le_of_ble_eq_true rfl⟩
  | connect | connectFails => exact absurd trivial hc
  | _ => exact hp.elim

theorem recovering : Recovering self.machine self.run (fun _ => Benign) Going Lost Phase.toConnect where
  reactive := run_reactive
  path := run_path
  dead := fun hs => nomatch hs
  start := ⟨trivial, rfl⟩
  step := going_step
  not_returned := id
  lost := lost_of_going
  back := lost_step
  not_lost := id

end

end NfqToVsock

namespace Bootstrap

section
variable {self : Bootstrap} {h : History} {e : SysEvent}

def Going : Phase → History → Prop
  | .listen p => fun h => ListenGoing p h ∧ failed h = false
  | .accepting _ p => AcceptGoing p
  | .prepare _ c => fun h => Established c h ∧ failed h = false
  | .idle _ | .served _ _ => fun _ => True
  | .returned _ => fun _ => False
  | _ => fun h => failed h = false

theorem going_inListen {p : ListenPhase} (hp : ListenGoing p h) (hf : failed h = false) : Going (.inListen p) h := by
  rcases p.ended_cases with ⟨_, rfl⟩ | ⟨_, rfl⟩ | he
  · exact hp
  · exact hp
  · rw [inListen_of_not_ended he]
    exact ⟨hp, hf⟩

theorem going_inAccept {l : Fd} {p : AcceptPhase} (hp : AcceptGoing p h) : Going (.inAccept l p) h := by
  rcases p.ended_cases with ⟨_, rfl⟩ | ⟨_, rfl⟩ | rfl | he
  · exact hp
  · exact hp
  · exact hp
  · rw [inAccept_of_not_ended he]
    exact hp

theorem going_onWritten {l c : Fd} {pos : Nat} (hf : failed h = false) : Going (.onWritten self l c pos) h := by
  unfold Phase.onWritten
  split
  · exact hf
  · exact trivial

theorem going_step {p p' : Phase} (hs : Step self p e p') (hp : Going p h) (hb : Benign e) :
    Recovers h e ∧ (PrepOk h e ∧ Going p' (h ++ [e]) ∨ ¬ PrepOk h e ∧ ∃ r, p' = .returned r) := by
  cases hs with
  | listen hl =>
    have hn := listen_neutral hl
    refine ⟨hn.recovers h, .inl ⟨hn.prepOk h, going_inListen (listenGoing_step hl hb) ?_⟩⟩
    rw [failed_snoc, hn.failed, hp.2]
  | accepting ha =>
    obtain ⟨hrec, hok, hp'⟩ := acceptGoing_step ha hp hb
    exact ⟨hrec, .inl ⟨hok, going_inAccept hp'⟩⟩
  | idle | servingCancelled | drop => exact ⟨recovers_of_op rfl, .inl ⟨not_false, trivial⟩⟩
  | idleCancelled => cases hb
  | prepare => exact ⟨recovers_of_op rfl, .inl ⟨not_false, failed_snoc.trans hp.2⟩⟩
  | prepareFails => exact ⟨recovers_of_op rfl, .inr ⟨fun hok => hok hp.1, _, rfl⟩⟩
  | halfClose | serving => exact ⟨recovers_of_op rfl, .inl ⟨not_false, failed_snoc.trans hp⟩⟩
  | halfCloseFails => exact ⟨recovers_of_op rfl, .inr ⟨fun hok => hok nofun, _, rfl⟩⟩
  | writeTimeout => exact ⟨recovers_of_op rfl, .inl ⟨not_false, going_onWritten (failed_snoc.trans hp)⟩⟩
  | writeTimeoutFails => exact ⟨recovers_of_op rfl, .inr ⟨fun hok => hok trivial, _, rfl⟩⟩
  | write hpos =>
    refine ⟨fun _ => hp, .inl ⟨not_false, going_onWritten (failed_snoc.trans ?_)⟩⟩
    rw [show failed h = false from hp]
    exact beq_false_of_ne (Nat.ne_of_gt hpos)
  | writeZero | writeFails => exact ⟨fun _ => hp, .inl ⟨not_false, trivial⟩⟩

def Lost : Phase → Prop
  | .idle _ | .accepting _ _ | .served _ _ => True
  | _ => False

def Phase.toConnect : Phase → Nat
  | .served _ _ => 7
  | .idle _ => 6
  | .accepting _ p => p.toConnect
  | _ => 0

theorem lost_of_going {p : Phase} (hp : Going p h) (hf : failed h = true) : Lost p ∧ p.toConnect ≤ 7 := by
  have hno (hf' : failed h = false) : False := Bool.false_ne_true (hf'.symm.trans hf)
  cases p with
  | idle | served => exact ⟨trivial, Nat.le_of_ble_eq_true rfl⟩
  | accepting _ p => exact ⟨trivial, Nat.le_trans p.toConnect_le (by decide)⟩
  | listen | prepare => exact (hno hp.2).elim
  | returned => exact hp.elim
  | _ => exact (hno hp).elim

theorem lost_step {p p' : Phase} (hs : Step self p e p') (hp : Lost p) (hb : Benign e) (hc : ¬ Connects e.1) :
    Lost p' ∧ 1 + p'.toConnect ≤ p.toConnect + 5 * retries e := by
  cases hs with
  | accepting ha =>
    obtain ⟨he, hle⟩ := ha.toConnect hb hc
    rw [inAccept_of_not_ended he]
    exact ⟨trivial, hle⟩
  | idle | drop => exact ⟨trivial, Nat.le_refl _⟩
  | idleCancelled => cases hb
  | _ => exact hp.elim

theorem recovering : Recovering self.machine self.run (fun _ => Benign) Going Lost Phase.toConnect where
  reactive := run_reactive
  path := run_path
  dead := fun hs => nomatch hs
  start := ⟨trivial, rfl⟩
  step := going_step
  not_returned := id
  lost := lost_of_going
  back := lost_step
  not_lost := id

end

end Bootstrap

/-- **A broken connection never ends a service, except while it is being prepared.** As long as nothing else goes
wrong, none of the three services goes on with a connection whose read, send or write failed before it has the next
one; and none returns, and each asks for the next connection after such a failure, exactly if no step of preparing a
connection fails. -/
theorem broken_connections_recover_iff {h : History} (hb : ∀ e ∈ h, Benign e) :
    (∀ {self : VsockToIpv4} {o : Status sysSig (Outcome Error Unit)}, Exec self.run h o →
      Throughout (fun h e => ¬ Malformed h e) h → Throughout Recovers h ∧
        ((∃ op, o = .asks op) ∧ (failed h = true → Reconnects self.run h) ↔ Throughout PrepOk h)) ∧
    (∀ {self : NfqToVsock} {o : Status sysSig (Outcome Error Unit)}, Exec self.run h o → Throughout Recovers h ∧
      ((∃ op, o = .asks op) ∧ (failed h = true → Reconnects self.run h) ↔ Throughout PrepOk h)) ∧
    (∀ {self : Bootstrap} {o : Status sysSig (Outcome Error Unit)}, Exec self.run h o → Throughout Recovers h ∧
      ((∃ op, o = .asks op) ∧ (failed h = true → Reconnects self.run h) ↔ Throughout PrepOk h)) :=
  have hb' := throughout_of_forall hb
  ⟨fun hx hm => VsockToIpv4.recovering.recovers_iff hx (hb'.and hm),
    fun hx => NfqToVsock.recovering.recovers_iff hx hb', fun hx => Bootstrap.recovering.recovers_iff hx hb'⟩

/-- Connection `c` breaks in the middle of a packet, and `c'` takes its place. -/
def receiverReconnects (c c' : Fd) : History :=
  listens 1 ++ accepts 1 c ++ opensRaw 3 .TCP ++ opensRaw 4 .UDP ++
    [⟨.isCancelled, false⟩, ⟨.isCancelled, false⟩, ⟨.read c 20, .ok headerPart⟩,
      ⟨.read c 15, .error (.os 104)⟩, ⟨.dropSocket c, ()⟩] ++ accepts 1 c' ++
    [⟨.isCancelled, false⟩, ⟨.isCancelled, false⟩]

def senderReconnects (c c' : Fd) : History :=
  opensQueue 1 ++ connects c ++
    [⟨.isCancelled, false⟩, ⟨.isCancelled, false⟩, ⟨.recv 1, .ok ⟨0, [1, 2, 3], .accept⟩⟩,
      ⟨.send c [1, 2, 3], .error (.os 104)⟩] ++ connects c' ++
    [⟨.dropSocket c, ()⟩, ⟨.isCancelled, false⟩, ⟨.isCancelled, false⟩]

/-- The server gives up on connection `c`, whose write fails. -/
def serverReconnects (c : Fd) : History :=
  listens 1 ++ ⟨.isCancelled, false⟩ :: (accepts 1 c).dropLast ++
    [⟨.shutdown c .read, .ok ()⟩, ⟨.setWriteTimeout c 1000, .ok ()⟩, ⟨.isCancelled, false⟩,
      ⟨.write c [0x7b, 0x7d], .error (.os 104)⟩, ⟨.dropSocket c, ()⟩]

/-- The receiver and the sender have the next connection, the server is about to ask for it. -/
theorem broken_connections_recover_iff_reset :
    (Throughout Recovers (receiverReconnects 2 5) ∧
      ((∃ op, (.asks (.read 5 20) : Status sysSig (Outcome Error Unit)) = .asks op) ∧
          (failed (receiverReconnects 2 5) = true → Reconnects receiver.run (receiverReconnects 2 5)) ↔
        Throughout PrepOk (receiverReconnects 2 5))) ∧
    (Throughout Recovers (senderReconnects 2 3) ∧
      ((∃ op, (.asks (.recv 1) : Status sysSig (Outcome Error Unit)) = .asks op) ∧
          (failed (senderReconnects 2 3) = true → Reconnects sender.run (senderReconnects 2 3)) ↔
        Throughout PrepOk (senderReconnects 2 3))) ∧
    failed (serverReconnects 2) = true ∧
    (Throughout Recovers (serverReconnects 2) ∧
      ((∃ op, (.asks .isCancelled : Status sysSig (Outcome Error Unit)) = .asks op) ∧
          (failed (serverReconnects 2) = true → Reconnects server.run (serverReconnects 2)) ↔
        Throughout PrepOk (serverReconnects 2))) :=
  have hr : Exec receiver.run (receiverReconnects 2 5) (.asks (.read 5 20)) :=
    exec_of_script 200 (by decide +kernel)
  have hs : Exec sender.run (senderReconnects 2 3) (.asks (.recv 1)) := exec_of_script 200 (by decide +kernel)
  have hb : Exec server.run (serverReconnects 2) (.asks .isCancelled) := exec_of_script 200 (by decide +kernel)
  ⟨(broken_connections_recover_iff (by decide)).1 hr (by decide), (broken_connections_recover_iff (by decide)).2.1 hs,
    rfl, (broken_connections_recover_iff (by decide)).2.2 hb⟩

/-- The peer is gone before its connection is half-closed: each service ends with the error of `shutdown`. -/
theorem lost_peer_stops :
    Exec receiver.run (listens 1 ++ (accepts 1 2).dropLast ++ [⟨.shutdown 2 .write, .error (.os 107)⟩])
        (.done (.err (.ioVsock (.os 107)))) ∧
      Exec sender.run (opensQueue 1 ++ (connects 2).dropLast ++ [⟨.shutdown 2 .read, .error (.os 107)⟩])
        (.done (.err (.ioVsock (.os 107)))) ∧
      Exec server.run
        (listens 1 ++ ⟨.isCancelled, false⟩ :: (accepts 1 2).dropLast ++ [⟨.shutdown 2 .read, .error (.os 107)⟩])
        (.done (.err (.ioVsock (.os 107)))) ∧
      ¬ ∀ (self : VsockToIpv4) (h : History) (o : Status sysSig (Outcome Error Unit)), Exec self.run h o →
        (∀ e ∈ h, Benign e) → Throughout (fun h e => ¬ Malformed h e) h → ∃ op, o = .asks op := by
  have hr : Exec receiver.run (listens 1 ++ (accepts 1 2).dropLast ++ [⟨.shutdown 2 .write, .error (.os 107)⟩])
      (.done (.err (.ioVsock (.os 107)))) := exec_of_script 100 (by decide +kernel)
  refine ⟨hr, exec_of_script 100 (by decide +kernel), exec_of_script 100 (by decide +kernel), fun hall => ?_⟩
  obtain ⟨_, heq⟩ := hall _ _ _ hr (by decide) (by decide)
  cases heq

end Glycerine
