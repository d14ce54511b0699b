import Glycerine.Interact.Machine
import Glycerine.Proxy.Packet
import Glycerine.System.Steps
/-
# The receiver as a state machine

What `VsockToIpv4::run` can do, operation by operation. While it reads, the phase is the part of the current
packet that it has (`packet`); the two calls of `read_exact` are one phase, because the header decides how many
more bytes are wanted (`wanted`). `run_path` says that `run` does nothing else.
-/

namespace Glycerine
open Interact

namespace VsockToIpv4

/-- Which raw socket is being opened, and the other one if it is there. -/
inductive Opening where
  | firstTcp
  | tcp (udp : Fd)
  | udp (tcp : Fd)
deriving DecidableEq

inductive Phase where
  | listen (p : ListenPhase)
  /-- waiting for a connection; the raw sockets are kept, if there are any yet -/
  | accepting (l : Fd) (raw : Option (Fd × Fd)) (p : AcceptPhase)
  /-- `shutdown` is about to ask for the local address -/
  | prepare (l : Fd) (raw : Option (Fd × Fd)) (c : Fd)
  | halfClose (l : Fd) (raw : Option (Fd × Fd)) (c : Fd)
  | sink (l src : Fd) (o : Opening) (p : SinkPhase)
  /-- the head of the loop of `run` -/
  | idle (l : Fd) (s : Sockets)
  /-- the head of the loop of `pump` -/
  | ready (l : Fd) (s : Sockets)
  /-- the bytes of the current packet so far, which are not all of it -/
  | packet (l : Fd) (s : Sockets) (got : Bytes)
  | sending (l : Fd) (s : Sockets) (pr : Protocol) (p : Bytes) (sent : Nat)
  | vsockFailed (l : Fd) (s : Sockets)
  | rawFailed (l : Fd) (s : Sockets) (pr : Protocol)
  | returned (o : Outcome Error Unit)

namespace Phase

def inAccept (l : Fd) (raw : Option (Fd × Fd)) : AcceptPhase → Phase :=
  AcceptPhase.whole (.returned <| .err ·) (.returned .panic) (.prepare l raw ·.1) (.accepting l raw)

def inListen : ListenPhase → Phase :=
  ListenPhase.whole (.returned <| .err ·) (.accepting · none (.retry .begin)) .listen

def afterSink (l src fd : Fd) : Opening → Phase
  | .firstTcp => .sink l src (.udp fd) (.retry .begin)
  | .tcp udp => .idle l ⟨src, fd, udp⟩
  | .udp tcp => .idle l ⟨src, tcp, fd⟩

def inSink (l src : Fd) (o : Opening) : SinkPhase → Phase
  | .retry (.gaveUp e) => .returned (.err e)
  | .opened fd => afterSink l src fd o
  | p => .sink l src o p

def afterHalfClose (l c : Fd) : Option (Fd × Fd) → Phase
  | none => .sink l c .firstTcp (.retry .begin)
  | some (tcp, udp) => .idle l ⟨c, tcp, udp⟩

/-- A whole packet was read. -/
def dispatch (l : Fd) (s : Sockets) (pr : Protocol) (p : Bytes) : Phase :=
  if pr = .TCP ∨ pr = .UDP then .sending l s pr p 0 else .ready l s

/-- The phase after the bytes `got` of a packet. -/
def onBytes (l : Fd) (s : Sockets) (got : Bytes) : Phase :=
  if got.length < 20 then .packet l s got
  else
    match ipv4TotalLen (got.take 20) with
    | .error e => .returned (.err e)
    | .ok (n, pr) => if got.length < n then .packet l s got else dispatch l s pr got

end Phase

/-- How many bytes a read asks for after the bytes `got` of a packet. -/
def wanted (got : Bytes) : Nat :=
  if got.length < 20 then 20 - got.length
  else
    match ipv4TotalLen (got.take 20) with
    | .error _ => 0
    | .ok (n, _) => n - got.length

def rawSocket (s : Sockets) (pr : Protocol) : Fd := if pr = .TCP then s.tcp else s.udp

inductive Step (self : VsockToIpv4) : Phase → SysEvent → Phase → Prop where
  | listen {p e p'} : ListenStep self.backoff p e p' → Step self (.listen p) e (.inListen p')
  | accepting {l raw p e p'} :
    AcceptStep self.backoff l self.cfg.peerCid p e p' → Step self (.accepting l raw p) e (.inAccept l raw p')
  -- half-closing the connection
  | prepare {l raw c a} : Step self (.prepare l raw c) ⟨.localAddr c, .ok a⟩ (.halfClose l raw c)
  | prepareFails {l raw c e} :
    Step self (.prepare l raw c) ⟨.localAddr c, .error e⟩ (.returned (.err (.ioVsock e)))
  | halfClose {l raw c} :
    Step self (.halfClose l raw c) ⟨.shutdown c .write, .ok ()⟩ (.afterHalfClose l c raw)
  | halfCloseFails {l raw c e} :
    Step self (.halfClose l raw c) ⟨.shutdown c .write, .error e⟩ (.returned (.err (.ioVsock e)))
  | sink {l src o p e p'} : SinkStep self.backoff p e p' → Step self (.sink l src o p) e (.inSink l src o p')
  -- the loops
  | idle {l s} : Step self (.idle l s) ⟨.isCancelled, false⟩ (.ready l s)
  | idleCancelled {l s} : Step self (.idle l s) ⟨.isCancelled, true⟩ (.returned (.ok ()))
  | ready {l s} : Step self (.ready l s) ⟨.isCancelled, false⟩ (.packet l s [])
  | readyCancelled {l s} : Step self (.ready l s) ⟨.isCancelled, true⟩ (.returned (.ok ()))
  | read {l s got bs} : bs.1 ≠ [] →
    Step self (.packet l s got) ⟨.read s.src (wanted got), .ok bs⟩ (.onBytes l s (got ++ bs.1))
  | readEof {l s got bs} : bs.1 = [] →
    Step self (.packet l s got) ⟨.read s.src (wanted got), .ok bs⟩ (.vsockFailed l s)
  | readInterrupted {l s got e} : e.isInterrupted = true →
    Step self (.packet l s got) ⟨.read s.src (wanted got), .error e⟩ (.packet l s got)
  | readFails {l s got e} : e.isInterrupted = false →
    Step self (.packet l s got) ⟨.read s.src (wanted got), .error e⟩ (.vsockFailed l s)
  | dropSource {l s} :
    Step self (.vsockFailed l s) ⟨.dropSocket s.src, ()⟩ (.accepting l (some (s.tcp, s.udp)) (.retry .begin))
  | send {l s pr p sent a n} : sent < p.length → 0 < n.val →
    Step self (.sending l s pr p sent) ⟨.sendTo (rawSocket s pr) (p.drop sent) a, .ok n⟩
      (if sent + n.val < p.length then .sending l s pr p (sent + n.val) else .ready l s)
  | sendZero {l s pr p sent a n} : sent < p.length → n.val = 0 →
    Step self (.sending l s pr p sent) ⟨.sendTo (rawSocket s pr) (p.drop sent) a, .ok n⟩ (.rawFailed l s pr)
  | sendFails {l s pr p sent a e} : sent < p.length →
    Step self (.sending l s pr p sent) ⟨.sendTo (rawSocket s pr) (p.drop sent) a, .error e⟩ (.rawFailed l s pr)
  | dropTcp {l s} :
    Step self (.rawFailed l s .TCP) ⟨.dropSocket s.tcp, ()⟩ (.sink l s.src (.tcp s.udp) (.retry .begin))
  | dropUdp {l s} :
    Step self (.rawFailed l s .UDP) ⟨.dropSocket s.udp, ()⟩ (.sink l s.src (.udp s.tcp) (.retry .begin))

def machine (self : VsockToIpv4) : Machine sysSig Error Unit :=
  ⟨Phase, .listen (.retry .begin), .returned, Step self⟩

section
variable {self : VsockToIpv4}

abbrev At (self : VsockToIpv4) (p : Phase) (h : History) : Prop := self.machine.Path h p

theorem At.next {p p' : Phase} {e : SysEvent} {h : History} (hp : At self p h) (hs : Step self p e p') :
    At self p' (h ++ [e]) := .snoc hp hs

/-! ## `run` follows the machine -/

/-! A phase of a part is a phase of the whole as long as the part has steps to do. -/

theorem inListen_of_not_ended {p : ListenPhase} (hp : ¬ p.Ended) : Phase.inListen p = .listen p :=
  ListenPhase.whole_of_not_ended hp

theorem inAccept_of_not_ended {l : Fd} {raw : Option (Fd × Fd)} {p : AcceptPhase} (hp : ¬ p.Ended) :
    Phase.inAccept l raw p = .accepting l raw p := AcceptPhase.whole_of_not_ended hp

theorem inSink_of_not_ended {l src : Fd} {o : Opening} {p : SinkPhase} (hp : ¬ p.Ended) :
    Phase.inSink l src o p = .sink l src o p := by
  match p with
  | .retry (.gaveUp _) | .opened _ => exact absurd trivial hp
  | .retry .begin | .retry (.attempt _) | .retry (.running _) | .retry (.failed _ _)
  | .retry (.asking _ _ _) | .retry (.sleeping _ _) | .bindDevice _ _ | .headerIncluded _ _ 
    | .recvBufferSize _ _ => rfl

theorem runs_newListenerSocket (X : History → Prop) :
    self.machine.Runs (At self (.listen (.retry .begin)))
      (Vsock.newListenerSocketWithBackoff self.cfg.listenAddress self.backoff)
      (Outcome.post (fun l => At self (.accepting l none (.retry .begin)))
        (fun e => At self (.returned (.err e))) X) :=
  triple_newListenerSocketWithBackoff (J := fun p => At self (.inListen p))
      (fun _ hp _ hj _ => ⟨_, hj, inListen_of_not_ended hp ▸ nofun⟩)
    (fun hs hp _ => At.next (inListen_of_not_ended hs.not_ended ▸ hp) (.listen hs)) _ _

theorem runs_newSrcVsockSocket (l : Fd) (raw : Option (Fd × Fd)) :
    self.machine.Runs (At self (.accepting l raw (.retry .begin))) (self.newSrcVsockSocket l)
      (self.machine.Gives fun c => At self (.afterHalfClose l c raw)) := by
  refine Task.triple_seq (fun r => At self (.prepare l raw r.1))
    (triple_acceptConnectionWithBackoff (J := fun p => At self (.inAccept l raw p))
      (fun _ hp _ hj _ => ⟨_, hj, inAccept_of_not_ended hp ▸ nofun⟩)
      fun hs hp _ => At.next (inAccept_of_not_ended hs.not_ended ▸ hp) (.accepting hs)) fun r => ?_
  obtain ⟨c, _⟩ := r
  refine Task.triple_seq (fun _ => At self (.afterHalfClose l c raw)) ?_ fun _ => Task.triple_ret fun h hp _ => hp
  refine Task.triple_seq (fun _ => At self (.halfClose l raw c))
    (Task.triple_mapErr (Machine.runs_call nofun fun h r hp => ?_)) fun _ =>
    Task.triple_mapErr (Machine.runs_call nofun fun h r hp => ?_)
  · cases r with
    | ok a => exact At.next hp .prepare
    | error e => exact At.next hp .prepareFails
  · cases r with
    | ok _ => exact At.next hp .halfClose
    | error e => exact At.next hp .halfCloseFails

theorem runs_newDstIpv4Socket (l src : Fd) (o : Opening) (pr : Protocol) (X : History → Prop) :
    self.machine.Runs (At self (.sink l src o (.retry .begin))) (self.newDstIpv4Socket pr)
      (Outcome.post (fun fd => At self (.afterSink l src fd o)) (fun e => At self (.returned (.err e))) X) :=
  triple_newSinkSocketWithBackoff (J := fun p => At self (.inSink l src o p))
      (fun _ hp _ hj _ => ⟨_, hj, inSink_of_not_ended hp ▸ nofun⟩)
    (fun hs hp _ => At.next (inSink_of_not_ended hs.not_ended ▸ hp) (.sink hs)) _ _ _

/-! ### `pump` -/

/-! The four ways a read of `k` wanted bytes ends. -/

section
variable {l k : Fd} {s : Sockets} {got : Bytes} {h : History}

theorem At.read (hk : wanted got = k) {bs : {bs : Bytes // bs.length ≤ k}} (hne : bs.1 ≠ [])
    (hp : At self (.packet l s got) h) :
    At self (.onBytes l s (got ++ bs.1)) (h ++ [⟨.read s.src k, .ok bs⟩]) := by
  subst hk
  exact At.next hp (.read hne)

theorem At.readEof (hk : wanted got = k) {bs : {bs : Bytes // bs.length ≤ k}} (hnil : bs.1 = [])
    (hp : At self (.packet l s got) h) : At self (.vsockFailed l s) (h ++ [⟨.read s.src k, .ok bs⟩]) := by
  subst hk
  exact At.next hp (.readEof hnil)

theorem At.readInterrupted (hk : wanted got = k) {e : IoError} (he : e.isInterrupted = true)
    (hp : At self (.packet l s got) h) : At self (.packet l s got) (h ++ [⟨.read s.src k, .error e⟩]) := by
  subst hk
  exact At.next hp (.readInterrupted he)

theorem At.readFails (hk : wanted got = k) {e : IoError} (he : e.isInterrupted = false)
    (hp : At self (.packet l s got) h) : At self (.vsockFailed l s) (h ++ [⟨.read s.src k, .error e⟩]) := by
  subst hk
  exact At.next hp (.readFails he)

end

/-- `read_exact` reads what `onBytes` wants; the hypothesis is that it wants no more and no less. -/
theorem runs_readExact (l : Fd) (s : Sockets) (got : Bytes) (n : Nat)
    (hn : ∀ bs : Bytes, bs.length < n →
      Phase.onBytes l s (got ++ bs) = .packet l s (got ++ bs) ∧ wanted (got ++ bs) = n - bs.length) :
    self.machine.Runs (At self (.onBytes l s got)) (readExact s.src n)
      (Outcome.post (fun bs => At self (.onBytes l s (got ++ bs.1))) (fun _ => At self (.vsockFailed l s))
        fun _ => False) := by
  refine (Task.triple_loop (J := fun (bs : {bs : Bytes // bs.length ≤ n}) => At self (.onBytes l s (got ++ bs.1)))
    (fun bs => ?_) _).pre fun h hp => by simpa using hp
  unfold readStep
  by_cases hlen : bs.1.length = n
  · rw [dif_pos hlen]
    exact Task.triple_ret fun h hp _ => hp
  rw [dif_neg hlen]
  obtain ⟨hphase, hwant⟩ := hn bs.1 (Nat.lt_of_le_of_ne bs.2 hlen)
  refine Task.triple_seq (fun r => match r with
      | .ok bs' => At self (if bs'.1.length = 0 then .vsockFailed l s else .onBytes l s (got ++ bs.1 ++ bs'.1))
      | .error e => At self (if e.isInterrupted then .packet l s (got ++ bs.1) else .vsockFailed l s))
    (Task.triple_attempt (Machine.runs_call (hphase ▸ nofun) fun h r hp => ?_)) fun r => ?_
  · rw [hphase] at hp
    match r with
    | .ok bs' =>
      show At self (if bs'.1.length = 0 then _ else _) _
      by_cases h0 : bs'.1.length = 0
      · rw [if_pos h0]
        exact At.readEof hwant (List.length_eq_zero_iff.1 h0) hp
      · rw [if_neg h0]
        exact At.read hwant (fun hnil => h0 (by rw [hnil]; rfl)) hp
    | .error e =>
      show At self (if e.isInterrupted then _ else _) _
      cases he : e.isInterrupted with
      | true => exact At.readInterrupted hwant he hp
      | false => exact At.readFails hwant he hp
  · match r with
    | .ok ⟨bs', hbs'⟩ =>
      by_cases h0 : bs'.length = 0
      · simp only [if_pos h0]
        exact Task.triple_fail fun h hp _ => hp
      · simp only [if_neg h0]
        refine Task.triple_ret fun h hp _ => ?_
        show At self (.onBytes l s (got ++ (bs.1 ++ bs'))) h
        rw [← List.append_assoc]
        exact hp
    | .error e =>
      by_cases he : e.isInterrupted = true
      · simp only [if_pos he]
        refine Task.triple_ret fun h hp _ => ?_
        show At self (.onBytes l s (got ++ bs.1)) h
        rw [hphase]
        exact hp
      · simp only [if_neg he]
        exact Task.triple_fail fun h hp _ => hp

theorem triple_slice {E : Env sysSig} {I P : History → Prop} {ε : Type} {n i j : Nat} {buf : Buf n} {bs : Bytes}
    (h : buf.slice i j = some bs) {Q : Outcome ε Bytes → History → Prop} (hq : ∀ h, P h → Q (.ok bs) h) :
    Triple E I P (slice buf i j : Sys ε Bytes) Q := by
  unfold Glycerine.slice
  rw [h]
  exact Task.triple_ret fun h hp _ => hq h hp

/-- The bytes of the packet are at the front of the buffer. -/
theorem runs_readExactInto {l : Fd} {s : Sockets} {got : Bytes} {n i j : Nat} {buf : Buf n} (hij : i ≤ j ∧ j ≤ n)
    (hgot : buf.bytes.take i = got) (hi : got.length = i)
    (hn : ∀ bs : Bytes, bs.length < j - i →
      Phase.onBytes l s (got ++ bs) = .packet l s (got ++ bs) ∧ wanted (got ++ bs) = j - i - bs.length) :
    self.machine.Runs (At self (.onBytes l s got)) (readExactInto s.src buf i j)
      (Outcome.post
        (fun buf' h => ∃ p, (p.length = j ∧ p.take i = got ∧ buf'.slice 0 j = some p) ∧
          At self (.onBytes l s p) h)
        (fun _ => At self (.vsockFailed l s)) fun _ => False) := by
  unfold readExactInto
  rw [dif_pos hij]
  refine Task.triple_seq (fun (bs : {bs : Bytes // bs.length = j - i}) => At self (.onBytes l s (got ++ bs.1)))
    (runs_readExact l s got (j - i) hn) fun ⟨bs, hbs⟩ => Task.triple_ret fun h hp _ => ?_
  refine ⟨got ++ bs, ⟨?_, ?_, ?_⟩, hp⟩
  · rw [List.length_append]
    omega
  · rw [← hi, List.take_left]
  · rw [← hgot]
    exact buf.slice_write bs (by omega) (by omega)

theorem packet_of_header {l : Fd} {s : Sockets} {bs : Bytes} (h : bs.length < 20) :
    Phase.onBytes l s bs = .packet l s bs ∧ wanted bs = 20 - bs.length := by
  unfold Phase.onBytes wanted
  rw [if_pos h, if_pos h]
  exact ⟨rfl, rfl⟩

theorem onBytes_of_ok {l : Fd} {s : Sockets} {p : Bytes} {n : Nat} {pr : Protocol} (hp : 20 ≤ p.length)
    (hok : ipv4TotalLen (p.take 20) = .ok (n, pr)) :
    Phase.onBytes l s p = (if p.length < n then .packet l s p else .dispatch l s pr p) ∧
      wanted p = n - p.length := by
  have hlen : ¬ p.length < 20 := by omega
  unfold Phase.onBytes wanted
  simp only [if_neg hlen, hok]
  exact ⟨trivial, trivial⟩

theorem onBytes_of_error {l : Fd} {s : Sockets} {p : Bytes} {e : Error} (hp : 20 ≤ p.length)
    (herr : ipv4TotalLen (p.take 20) = .error e) : Phase.onBytes l s p = .returned (.err e) := by
  unfold Phase.onBytes
  rw [if_neg (by omega), herr]

theorem runs_sendPayload {l : Fd} {s : Sockets} {pr : Protocol} {p : Bytes} (wrap : IoError → Error)
    {buf : Buf Ipv4.MAX_PACKET_SIZE} (hbuf : buf.slice 0 p.length = some p) (hpos : 0 < p.length) :
    self.machine.Runs (At self (.sending l s pr p 0)) (self.sendPayload (rawSocket s pr) wrap buf p.length)
      (Outcome.post (fun _ => At self (.ready l s))
        (fun e h => (∃ io, e = wrap io) ∧ At self (.rawFailed l s pr) h) fun _ => False) := by
  refine (Task.triple_loop (J := fun sent =>
    At self (if sent < p.length then .sending l s pr p sent else .ready l s)) (fun sent => ?_) 0).pre
      fun h hp => by
      rwa [if_pos hpos]
  unfold sendStep
  by_cases hlt : sent < p.length
  · rw [if_pos hlt, if_pos hlt]
    refine Task.triple_seq (fun chunk h => chunk = p.drop sent ∧ At self (.sending l s pr p sent) h)
      (triple_slice (Buf.slice_drop hbuf (by omega)) fun h hp => ⟨rfl, hp⟩) fun chunk => triple_of_fact ?_
    rintro rfl
    refine Task.triple_seq
      (fun n => At self (if sent + n < p.length then .sending l s pr p (sent + n) else .ready l s))
      (Task.triple_mapErr (triple_nonZero (Machine.runs_call nofun fun h r hp => ?_))) fun n =>
      Task.triple_ret fun h hp _ => hp
    cases r with
    | ok n =>
      show if n.val > 0 then _ else _
      by_cases hn : n.val > 0
      · rw [if_pos hn]
        exact At.next hp (.send hlt hn)
      · rw [if_neg hn]
        exact ⟨⟨_, rfl⟩, At.next hp (.sendZero hlt (by omega))⟩
    | error e => exact ⟨⟨e, rfl⟩, At.next hp (.sendFails hlt)⟩
  · rw [if_neg hlt, if_neg hlt]
    exact Task.triple_ret fun h hp _ => hp

/-- Where the machine is when `pump` fails. -/
def Failed (self : VsockToIpv4) (l : Fd) (s : Sockets) (e : Error) (h : History) : Prop :=
  ((∃ io, e = .ioVsock io) ∧ At self (.vsockFailed l s) h) ∨
    ((∃ io, e = .ioIpv4Tcp io) ∧ At self (.rawFailed l s .TCP) h) ∨
    ((∃ io, e = .ioIpv4Udp io) ∧ At self (.rawFailed l s .UDP) h) ∨
    (e = .glycerineRuntime "invalid ipv4 packet" ∧ At self (.returned (.err e)) h)

theorem runs_dispatch {l : Fd} {s : Sockets} (pr : Protocol) {p : Bytes} {buf : Buf Ipv4.MAX_PACKET_SIZE}
    (hbuf : buf.slice 0 p.length = some p) (hpos : 0 < p.length) :
    self.machine.Runs (At self (.dispatch l s pr p)) (self.dispatch s.tcp s.udp pr buf p.length)
      (Outcome.post (fun _ => At self (.ready l s)) (Failed self l s) fun _ => False) := by
  unfold Phase.dispatch
  by_cases ht : pr = .TCP
  · subst ht
    rw [dispatch_tcp]
    simp only [if_true, true_or]
    refine (runs_sendPayload .ioIpv4Tcp hbuf hpos).post fun o h hq => ?_
    match o with
    | .ok _ => exact hq
    | .err e => exact .inr (.inl hq)
  · by_cases hu : pr = .UDP
    · subst hu
      rw [dispatch_udp]
      simp only [or_true, if_true]
      refine (runs_sendPayload .ioIpv4Udp hbuf hpos).post fun o h hq => ?_
      match o with
      | .ok _ => exact hq
      | .err e => exact .inr (.inr (.inl hq))
    · rw [dispatch_other ht hu]
      simp only [ht, hu, if_false, or_self]
      exact Task.triple_ret fun h hp _ => hp

/-- The packet behind a header that was accepted: the rest of it is read and it is handed on. -/
theorem runs_packet {l : Fd} {s : Sockets} {hd : Bytes} {n : Nat} {pr : Protocol}
    {buf : Buf Ipv4.MAX_PACKET_SIZE} (hlen : hd.length = 20) (hok : ipv4TotalLen hd = .ok (n, pr))
    (hbuf : buf.slice 0 20 = some hd) :
    self.machine.Runs (At self (.onBytes l s hd))
      (do
        let buf' ← (readExactInto s.src buf 20 n).mapErr Error.ioVsock
        self.dispatch s.tcp s.udp pr buf' n
        pure (.next buf') : Sys Error (Ctl (Buf Ipv4.MAX_PACKET_SIZE) Unit))
      (Outcome.post (Ctl.post (fun _ => At self (.ready l s)) fun _ => At self (.returned (.ok ())))
        (Failed self l s)
        fun _ => False) := by
  obtain ⟨hge, hle⟩ := ipv4TotalLen_bounds hok
  have hfront : buf.bytes.take 20 = hd := by
    unfold Buf.slice at hbuf
    rw [if_pos (by omega)] at hbuf
    simpa using hbuf
  have hbody : ∀ bs : Bytes, (hd ++ bs).take 20 = hd := fun bs => by rw [← hlen, List.take_left]
  refine Task.triple_seq (fun buf' h => ∃ p : Bytes, (p.length = n ∧ p.take 20 = hd ∧ buf'.slice 0 n = some p) ∧
      At self (.onBytes l s p) h)
    (Task.triple_mapErr ((runs_readExactInto ⟨hge, hle⟩ hfront hlen fun bs hbs => ?_).post fun o h hq => ?_))
    fun buf' => triple_exists fun p => triple_of_fact fun ⟨hp, htake, hslice⟩ => ?_
  · have hlen' : (hd ++ bs).length = 20 + bs.length := by rw [List.length_append, hlen]
    obtain ⟨h₁, h₂⟩ := onBytes_of_ok (l := l) (s := s) (p := hd ++ bs) (by omega) ((hbody bs).symm ▸ hok)
    rw [h₁, h₂, if_pos (by omega)]
    exact ⟨rfl, by omega⟩
  · match o with
    | .ok _ => exact hq
    | .err e => exact .inl ⟨⟨e, rfl⟩, hq⟩
  · subst hp
    have hwhole := (onBytes_of_ok (l := l) (s := s) hge (htake.symm ▸ hok)).1
    rw [if_neg (Nat.lt_irrefl _)] at hwhole
    rw [hwhole]
    exact Task.triple_seq (fun _ => At self (.ready l s)) (runs_dispatch pr hslice (by omega)) fun _ =>
      Task.triple_ret fun h hp _ => hp

theorem runs_pump (l : Fd) (s : Sockets) :
    self.machine.Runs (At self (.ready l s)) (self.pump s.src s.tcp s.udp)
      (Outcome.post (fun _ => At self (.returned (.ok ()))) (Failed self l s) fun _ => False) := by
  have hmax : Ipv4.MAX_PACKET_SIZE = 65535 := rfl
  refine Task.triple_loop (J := fun _ => At self (.ready l s)) (fun buf => ?_) _
  refine Task.triple_seq (fun stop => At self (if stop then .returned (.ok ()) else .packet l s []))
    (Machine.runs_call nofun fun h r hp => ?_) fun stop => ?_
  · cases r with
    | true => exact At.next hp .readyCancelled
    | false => exact At.next hp .ready
  cases stop with
  | true => exact Task.triple_ret fun h hp _ => hp
  | false =>
    refine Task.triple_seq (fun buf' h => ∃ hd : Bytes,
        (hd.length = 20 ∧ hd.take 0 = [] ∧ buf'.slice 0 20 = some hd) ∧ At self (.onBytes l s hd) h)
      (Task.triple_mapErr ((runs_readExactInto (i := 0) (j := 20) ⟨Nat.zero_le _, by omega⟩ rfl rfl fun bs hbs =>
        packet_of_header hbs).post fun o h hq => ?_))
      fun buf' => triple_exists fun hd => triple_of_fact fun ⟨hlen, _, hslice⟩ => ?_
    · match o with
      | .ok _ => exact hq
      | .err e => exact .inl ⟨⟨e, rfl⟩, hq⟩
    refine Task.triple_seq (fun header h => header = hd ∧ At self (.onBytes l s hd) h)
      (triple_slice hslice fun h hp => ⟨rfl, hp⟩) fun header => triple_of_fact ?_
    rintro rfl
    have htake : header.take 20 = header := List.take_of_length_le (by omega)
    refine Task.triple_seq
      (fun r h => ipv4TotalLen header = .ok (r.1, r.2) ∧ At self (.onBytes l s header) h)
      (triple_pure fun h hp _ => ?_) fun ⟨n, pr⟩ => triple_of_fact fun hok => runs_packet hlen hok hslice
    rcases ipv4TotalLen_cases header with ⟨n, pr, hok⟩ | herr
    · rw [hok]
      exact ⟨rfl, hp⟩
    · rw [onBytes_of_error (by omega) (htake.symm ▸ herr)] at hp
      rw [herr]
      exact .inr (.inr (.inr ⟨rfl, hp⟩))

/-! ### `run` -/

theorem runs_runStep (l : Fd) (s : Sockets) :
    self.machine.Runs (At self (.idle l s)) (self.runStep l s)
      (self.machine.Gives (Ctl.post (fun s => At self (.idle l s)) fun _ => At self (.returned (.ok ())))) := by
  refine Task.triple_seq (fun stop => At self (if stop then .returned (.ok ()) else .ready l s))
    (Machine.runs_call nofun fun h r hp => ?_) fun stop => ?_
  · cases r with
    | true => exact At.next hp .idleCancelled
    | false => exact At.next hp .idle
  cases stop with
  | true => exact Task.triple_ret fun h hp _ => hp
  | false =>
    refine Task.triple_seq (fun r h => match r with
        | .ok () => At self (.returned (.ok ())) h
        | .error e => Failed self l s e h)
      (Task.triple_attempt ((runs_pump l s).post fun o h hq => ?_)) fun r => ?_
    · match o with
      | .ok () => exact hq
      | .err _ => exact hq
      | .panic => exact hq.elim
    · match r with
      | .ok () => exact Task.triple_ret fun h hp _ => hp
      | .error e =>
        refine triple_or ?_ (triple_or ?_ (triple_or ?_ ?_))
        · refine triple_of_fact fun ⟨io, hio⟩ => ?_
          subst hio
          refine Task.triple_seq (fun _ => At self (.accepting l (some (s.tcp, s.udp)) (.retry .begin)))
            (Machine.runs_call nofun fun h r hp => At.next hp .dropSource) fun _ => ?_
          exact Task.triple_seq (fun c => At self (.idle l { s with src := c }))
            (runs_newSrcVsockSocket l (some (s.tcp, s.udp))) fun c => Task.triple_ret fun h hp _ => hp
        · refine triple_of_fact fun ⟨io, hio⟩ => ?_
          subst hio
          refine Task.triple_seq (fun _ => At self (.sink l s.src (.tcp s.udp) (.retry .begin)))
            (Machine.runs_call nofun fun h r hp => At.next hp .dropTcp) fun _ => ?_
          exact Task.triple_seq (fun fd => At self (.idle l { s with tcp := fd }))
            (runs_newDstIpv4Socket l s.src (.tcp s.udp) .TCP _) fun fd => Task.triple_ret fun h hp _ => hp
        · refine triple_of_fact fun ⟨io, hio⟩ => ?_
          subst hio
          refine Task.triple_seq (fun _ => At self (.sink l s.src (.udp s.tcp) (.retry .begin)))
            (Machine.runs_call nofun fun h r hp => At.next hp .dropUdp) fun _ => ?_
          exact Task.triple_seq (fun fd => At self (.idle l { s with udp := fd }))
            (runs_newDstIpv4Socket l s.src (.udp s.tcp) .UDP _) fun fd => Task.triple_ret fun h hp _ => hp
        · refine triple_of_fact fun he => ?_
          subst he
          exact Task.triple_fail fun h hp _ => hp

theorem runs_run :
    self.machine.Runs (fun h => self.machine.Path h self.machine.start) self.run
      (self.machine.Gives fun _ => At self (.returned (.ok ()))) := by
  refine Task.triple_seq (fun l => At self (.accepting l none (.retry .begin)))
    (runs_newListenerSocket _) fun l => ?_
  refine Task.triple_seq (fun c => At self (.sink l c .firstTcp (.retry .begin)))
    (runs_newSrcVsockSocket l none) fun c => ?_
  refine Task.triple_seq (fun tcp => At self (.sink l c (.udp tcp) (.retry .begin)))
    (runs_newDstIpv4Socket l c .firstTcp .TCP _) fun tcp => ?_
  refine Task.triple_seq (fun udp => At self (.idle l ⟨c, tcp, udp⟩))
    (runs_newDstIpv4Socket l c (.udp tcp) .UDP _) fun udp => ?_
  exact Machine.runs_loop (fun s => At self (.idle l s)) (runs_runStep l) ⟨c, tcp, udp⟩

/-- **Every run of the receiver is a path of the machine**, and it returns what the machine returns. -/
theorem run_path {h : History} {o : Status sysSig (Outcome Error Unit)} (hx : Exec self.run h o) :
    self.machine.Arrives h o := Machine.path_of_runs runs_run hx

end

end VsockToIpv4

/-! ## An example: pieces of runs -/

def receiver : VsockToIpv4 := ⟨⟨.vsock 3 9000, 16, .inet [10, 0, 0, 2] 0, "ens5"⟩, ⟨some 60000⟩⟩

/-- The receiver listens on `l`. -/
def listens (l : Fd) : History :=
  [⟨.now, (0 : Nat)⟩, ⟨.isCancelled, false⟩, ⟨.socketNew .vsock .stream none, .ok l⟩,
    ⟨.bind l (.vsock 3 9000), .ok ()⟩, ⟨.listen l 16, .ok ()⟩]

/-- It accepts connection `c`. -/
def accepts (l c : Fd) : History :=
  [⟨.now, (0 : Nat)⟩, ⟨.isCancelled, false⟩, ⟨.localAddr l, .ok (.vsock 3 9000)⟩,
    ⟨.accept l, .ok (c, .vsock 16 1)⟩, ⟨.localAddr c, .ok (.vsock 3 9000)⟩, ⟨.shutdown c .write, .ok ()⟩]

/-- It opens the raw socket `fd`. -/
def opensRaw (fd : Fd) (p : Protocol) : History :=
  [⟨.now, (0 : Nat)⟩, ⟨.isCancelled, false⟩, ⟨.socketNew .ipv4 .raw (some p), .ok fd⟩,
    ⟨.bindDevice fd "ens5", .ok ()⟩, ⟨.setHeaderIncludedV4 fd true, .ok ()⟩, ⟨.setRecvBufferSize fd 0, .ok ()⟩]

/-- What a read of the first header gives before the connection breaks. -/
def headerPart : {bs : Bytes // bs.length ≤ 20} := ⟨[0x45, 0, 0, 20, 0], by decide⟩

/-- The stream of connection `c` ends where the rest of that header is wanted. -/
def ends (c : Fd) : SysEvent := ⟨.read c 15, .ok ⟨[], Nat.zero_le 15⟩⟩

end Glycerine
