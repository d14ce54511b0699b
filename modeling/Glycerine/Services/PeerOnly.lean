import Glycerine.Services.Rejections
/-
# Only the configured peer

The CID of a peer is looked at once, when its connection is accepted. From there the receiver stores the connection,
half-closes it, replaces it when it fails and uses it again and again; the bootstrap service writes to it. `PeerOnly`
says of every read, write and datagram that the peer behind it is the configured one.
-/

namespace Glycerine
open Interact Machine

/-! ## What a history says about peers -/

def peerStep (c : Fd) (peer : Option Nat) : SysEvent → Option Nat
  | ⟨.accept _, .ok (c', .vsock cid _)⟩ => if c' = c then some cid else peer
  | ⟨.accept _, .ok (c', .inet _ _)⟩ => if c' = c then none else peer
  | _ => peer

/-- The CID that connection `c` was accepted from. -/
def peerOf (c : Fd) (h : History) : Option Nat := h.foldl (peerStep c) none

def receivedStep (c : Fd) (bs : Bytes) : SysEvent → Bytes
  | ⟨.accept _, .ok (c', _)⟩ => if c' = c then [] else bs
  | ⟨.read c' _, .ok r⟩ => if c' = c then bs ++ r.1 else bs
  | _ => bs

/-- The bytes that were read from connection `c` since it was accepted. -/
def received (c : Fd) (h : History) : Bytes := h.foldl (receivedStep c) []

/-- Bytes are read from, and written to, connections of `peerCid` only, and a datagram consists of bytes that were
read from one of them. -/
def PeerOnly (peerCid : Nat) (h : History) : SysEvent → Prop
  | ⟨.read c _, _⟩ | ⟨.write c _, _⟩ | ⟨.send c _, _⟩ => peerOf c h = some peerCid
  | ⟨.sendTo _ bs _, _⟩ => ∃ c, peerOf c h = some peerCid ∧ bs <:+: received c h
  | _ => True

/-- `c` is a connection of `cid`, and no connection is waiting to be rejected. -/
structure Peer (cid : Nat) (c : Fd) (h : History) : Prop where
  stranger : stranger cid h = none
  peer : peerOf c h = some cid

section
variable {cid : Nat} {c : Fd} {h : History} {e : SysEvent} {bs : Bytes}

theorem peerOf_snoc : peerOf c (h ++ [e]) = peerStep c (peerOf c h) e := by
  unfold peerOf
  rw [List.foldl_append]
  rfl

theorem received_snoc : received c (h ++ [e]) = receivedStep c (received c h) e := by
  unfold received
  rw [List.foldl_append]
  rfl

/-- The operations that no peer is behind. -/
def aside : SysOp → Bool
  | .accept _ | .read _ _ | .write _ _ | .send _ _ | .sendTo _ _ _ => false
  | _ => true

/-- An event that no peer is behind. -/
structure Aside (cid : Nat) (e : SysEvent) : Prop where
  stranger : strangerIn cid e = none
  peerOf : ∀ c p, peerStep c p e = p
  received : ∀ c bs, receivedStep c bs e = bs
  peerOnly : ∀ h, PeerOnly cid h e

theorem aside_of_op (he : aside e.1 = true) : Aside cid e := by
  obtain ⟨op, r⟩ := e
  cases op with
  | accept | read | write | send | sendTo => cases he
  | _ => exact ⟨rfl, fun _ _ => rfl, fun _ _ => rfl, fun _ => trivial⟩

/-- What is proved of each step that ends in a phase with `J`. -/
def Keeps (cid : Nat) (h : History) (e : SysEvent) (J : History → Prop) : Prop :=
  PeerOnly cid h e ∧ ShutsDown cid h e ∧ J (h ++ [e])

theorem Aside.stranger_none (he : Aside cid e) : Glycerine.stranger cid (h ++ [e]) = none :=
  stranger_snoc.trans he.stranger

/-- Nothing is known of a connection, and nothing needs to be. -/
theorem Aside.keeps_none (he : Aside cid e) (hn : Glycerine.stranger cid h = none) :
    Keeps cid h e fun h => Glycerine.stranger cid h = none :=
  ⟨he.peerOnly h, shutsDown_of_none hn, he.stranger_none⟩

theorem Peer.aside (hp : Peer cid c h) (he : Aside cid e) : Peer cid c (h ++ [e]) :=
  ⟨he.stranger_none, by rw [peerOf_snoc, he.peerOf, hp.peer]⟩

theorem Aside.keeps_peer (he : Aside cid e) (hp : Peer cid c h) : Keeps cid h e (Peer cid c) :=
  ⟨he.peerOnly h, shutsDown_of_none hp.stranger, hp.aside he⟩

/-- The connection is read from or written to. -/
theorem Peer.use (hp : Peer cid c h) (hs : strangerIn cid e = none) (hk : ∀ p, peerStep c p e = p) :
    Peer cid c (h ++ [e]) :=
  ⟨stranger_snoc.trans hs, by rw [peerOf_snoc, hk, hp.peer]⟩

theorem retry_aside {b : ExponentialBackoff} {p p' : RetryPhase} (hs : RetryStep b p e p') : Aside cid e := by
  cases hs <;> exact aside_of_op rfl

theorem listen_aside {b : ExponentialBackoff} {p p' : ListenPhase} (hs : ListenStep b p e p') : Aside cid e := by
  cases hs with
  | retry hr => exact retry_aside hr
  | _ => exact aside_of_op rfl

theorem sink_aside {b : ExponentialBackoff} {p p' : SinkPhase} (hs : SinkStep b p e p') : Aside cid e := by
  cases hs with
  | retry hr => exact retry_aside hr
  | _ => exact aside_of_op rfl

/-! ## Accepting -/

/-- The connection that is returned is one of the peer. -/
def Accepting (cid : Nat) : AcceptPhase → History → Prop
  | .accepted r => Peer cid r.1
  | p => fun h => stranger cid h = p.stranger

theorem Accepting.stranger {p : AcceptPhase} (hp : Accepting cid p h) :
    Glycerine.stranger cid h = p.stranger := by
  cases p with
  | accepted r => exact Peer.stranger hp
  | _ => exact hp

theorem accepting_step {b : ExponentialBackoff} {l : Fd} {p p' : AcceptPhase} (hs : AcceptStep b l cid p e p')
    (hp : Accepting cid p h) : Keeps cid h e (Accepting cid p') := by
  obtain ⟨hd, hn⟩ := hs.shutsDown hp.stranger
  have ho : PeerOnly cid h e := by
    cases hs with
    | retry hr => exact (retry_aside hr).peerOnly h
    | _ => trivial
  refine ⟨ho, hd, ?_⟩
  cases hs with
  | accept => exact ⟨hn, peerOf_snoc.trans (if_pos rfl)⟩
  | _ => exact hn

/-! ## Whole runs -/

theorem peerOnly_of_step {M : Machine sysSig Error Unit} {J : M.Phase → History → Prop} (h₀ : J M.start [])
    (hstep : ∀ {p e p' h}, M.Step p e p' → J p h → Keeps cid h e (J p'))
    (hret : ∀ {r h}, J (M.returned r) h → stranger cid h = none) {o : Status sysSig (Outcome Error Unit)}
    (harr : M.Arrives h o) :
    Throughout (PeerOnly cid) h ∧ Throughout (ShutsDown cid) h ∧ ∀ r, o = .done r → stranger cid h = none := by
  have hinv : ∀ {p : M.Phase}, M.Path h p → (Throughout (PeerOnly cid) h ∧ Throughout (ShutsDown cid) h) ∧
      J p h := by
    intro p hp
    refine hp.inv (E := anyEnv)
      (J := fun p h => (Throughout (PeerOnly cid) h ∧ Throughout (ShutsDown cid) h) ∧ J p h)
      ⟨⟨throughout_nil, throughout_nil⟩, h₀⟩ (fun hs hp _ => ?_) trivial
    obtain ⟨⟨ho, hd⟩, hj⟩ := hp
    obtain ⟨ho', hd', hj'⟩ := hstep hs hj
    exact ⟨⟨throughout_snoc.2 ⟨ho, ho'⟩, throughout_snoc.2 ⟨hd, hd'⟩⟩, hj'⟩
  obtain ⟨p, hp⟩ := harr.path
  refine ⟨(hinv hp).1.1, (hinv hp).1.2, ?_⟩
  rintro r rfl
  exact hret (hinv harr).2

end

namespace VsockToIpv4

section
variable {self : VsockToIpv4} {cid : Nat} {h : History} {e : SysEvent}

/-- The connection of the phase is one of the peer, and the bytes of the packet came from it. -/
def PeerInv (cid : Nat) : Phase → History → Prop
  | .accepting _ _ p => Accepting cid p
  | .prepare _ _ c | .halfClose _ _ c => Peer cid c
  | .sink _ src _ _ => Peer cid src
  | .idle _ s | .ready _ s | .rawFailed _ s _ => Peer cid s.src
  | .packet _ s got => fun h => Peer cid s.src h ∧ got <:+ received s.src h
  | .sending _ s _ p _ => fun h => Peer cid s.src h ∧ p <:+ received s.src h
  | .listen _ | .vsockFailed _ _ | .returned _ => fun h => stranger cid h = none

theorem peerInv_inListen {p : ListenPhase} (hn : stranger cid h = none) : PeerInv cid (.inListen p) h := by
  rcases p.ended_cases with ⟨_, rfl⟩ | ⟨_, rfl⟩ | he
  · exact hn
  · exact hn
  · rw [inListen_of_not_ended he]
    exact hn

theorem peerInv_inAccept {l : Fd} {raw : Option (Fd × Fd)} {p : AcceptPhase} (hp : Accepting cid p h) :
    PeerInv cid (.inAccept l raw p) h := by
  rcases p.ended_cases with ⟨_, rfl⟩ | ⟨_, rfl⟩ | rfl | he
  · exact hp
  · exact hp
  · exact hp
  · rw [inAccept_of_not_ended he]
    exact hp

theorem peerInv_inSink {l src : Fd} {o : Opening} {p : SinkPhase} (hp : Peer cid src h) :
    PeerInv cid (.inSink l src o p) h := by
  rcases p.ended_cases with ⟨_, rfl⟩ | ⟨_, rfl⟩ | he
  · exact hp.stranger
  · cases o <;> exact hp
  · rw [inSink_of_not_ended he]
    exact hp

theorem peerInv_onBytes {l : Fd} {s : Sockets} {got : Bytes} (hp : Peer cid s.src h)
    (hg : got <:+ received s.src h) : PeerInv cid (.onBytes l s got) h := by
  unfold Phase.onBytes
  split
  · exact ⟨hp, hg⟩
  · split
    · exact hp.stranger
    · split
      · exact ⟨hp, hg⟩
      · unfold Phase.dispatch
        split
        · exact ⟨hp, hg⟩
        · exact hp

theorem peerInv_step {p p' : Phase} (hs : Step self p e p') (hp : PeerInv self.cfg.peerCid p h) :
    Keeps self.cfg.peerCid h e (PeerInv self.cfg.peerCid p') := by
  cases hs with
  | listen hl =>
    obtain ⟨ho, hd, hn⟩ := (listen_aside hl).keeps_none hp
    exact ⟨ho, hd, peerInv_inListen hn⟩
  | accepting ha =>
    obtain ⟨ho, hd, hp'⟩ := accepting_step ha hp
    exact ⟨ho, hd, peerInv_inAccept hp'⟩
  | sink hk =>
    obtain ⟨ho, hd, hp'⟩ := (sink_aside hk).keeps_peer hp
    exact ⟨ho, hd, peerInv_inSink hp'⟩
  | prepare | idle | dropTcp | dropUdp => exact Aside.keeps_peer (aside_of_op rfl) hp
  | @halfClose l raw c =>
    obtain ⟨ho, hd, hp'⟩ : Keeps _ h ⟨.shutdown c .write, .ok ()⟩ (Peer self.cfg.peerCid c) :=
      Aside.keeps_peer (aside_of_op rfl) hp
    refine ⟨ho, hd, ?_⟩
    cases raw <;> exact hp'
  | prepareFails | halfCloseFails | idleCancelled | readyCancelled =>
    exact Aside.keeps_none (aside_of_op rfl) (Peer.stranger hp)
  | ready =>
    have ha : Aside self.cfg.peerCid ⟨.isCancelled, false⟩ := aside_of_op rfl
    exact ⟨ha.peerOnly h, shutsDown_of_none hp.stranger, hp.aside ha, List.nil_suffix⟩
  | @read l s got bs hne =>
    refine ⟨hp.1.peer, shutsDown_of_none hp.1.stranger, peerInv_onBytes (hp.1.use rfl fun _ => rfl) ?_⟩
    have hrec : received s.src (h ++ [⟨.read s.src (wanted got), .ok bs⟩]) = received s.src h ++ bs.1 :=
      received_snoc.trans (if_pos rfl)
    obtain ⟨front, hfront⟩ := hp.2
    rw [hrec, ← hfront, List.append_assoc]
    exact List.suffix_append _ _
  | readEof | readFails =>
    exact ⟨hp.1.peer, shutsDown_of_none hp.1.stranger, stranger_snoc⟩
  | readInterrupted =>
    refine ⟨hp.1.peer, shutsDown_of_none hp.1.stranger, hp.1.use rfl fun _ => rfl, ?_⟩
    rw [received_snoc]
    exact hp.2
  | dropSource => exact Aside.keeps_none (aside_of_op rfl) hp
  | @send l s pr p sent a n hlt hpos =>
    obtain ⟨hpeer, hsuf⟩ := hp
    refine ⟨⟨s.src, hpeer.peer, ((List.drop_suffix sent p).trans hsuf).isInfix⟩,
      shutsDown_of_none hpeer.stranger, ?_⟩
    have hpeer' := hpeer.use (e := ⟨.sendTo (rawSocket s pr) (p.drop sent) a, .ok n⟩) rfl fun _ => rfl
    split
    · exact ⟨hpeer', by rw [received_snoc]; exact hsuf⟩
    · exact hpeer'
  | @sendZero l s pr p sent | @sendFails l s pr p sent =>
    obtain ⟨hpeer, hsuf⟩ := hp
    exact ⟨⟨s.src, hpeer.peer, ((List.drop_suffix sent p).trans hsuf).isInfix⟩, shutsDown_of_none hpeer.stranger,
      hpeer.use rfl fun _ => rfl⟩

end

end VsockToIpv4

namespace Bootstrap

section
variable {self : Bootstrap} {cid : Nat} {h : History} {e : SysEvent}

def PeerInv (cid : Nat) : Phase → History → Prop
  | .accepting _ p => Accepting cid p
  | .prepare _ c | .halfClose _ c | .writeTimeout _ c | .serving _ c _ | .writing _ c _ | .served _ c =>
    Peer cid c
  | .listen _ | .idle _ | .returned _ => fun h => stranger cid h = none

theorem peerInv_inListen {p : ListenPhase} (hn : stranger cid h = none) : PeerInv cid (.inListen p) h := by
  rcases p.ended_cases with ⟨_, rfl⟩ | ⟨_, rfl⟩ | he
  · exact hn
  · exact hn
  · rw [inListen_of_not_ended he]
    exact hn

theorem peerInv_inAccept {l : Fd} {p : AcceptPhase} (hp : Accepting cid p h) : PeerInv cid (.inAccept l p) h := by
  rcases p.ended_cases with ⟨_, rfl⟩ | ⟨_, rfl⟩ | rfl | he
  · exact hp
  · exact hp
  · exact hp
  · rw [inAccept_of_not_ended he]
    exact hp

theorem peerInv_onWritten {l c : Fd} {pos : Nat} (hp : Peer cid c h) :
    PeerInv cid (.onWritten self l c pos) h := by
  unfold Phase.onWritten
  split <;> exact hp

theorem peerInv_step {p p' : Phase} (hs : Step self p e p') (hp : PeerInv self.peerCid p h) :
    Keeps self.peerCid h e (PeerInv self.peerCid p') := by
  cases hs with
  | listen hl =>
    obtain ⟨ho, hd, hn⟩ := (listen_aside hl).keeps_none hp
    exact ⟨ho, hd, peerInv_inListen hn⟩
  | accepting ha =>
    obtain ⟨ho, hd, hp'⟩ := accepting_step ha hp
    exact ⟨ho, hd, peerInv_inAccept hp'⟩
  | idle | idleCancelled => exact Aside.keeps_none (aside_of_op rfl) hp
  | prepare | halfClose | serving | servingCancelled => exact Aside.keeps_peer (aside_of_op rfl) hp
  | prepareFails | halfCloseFails | writeTimeoutFails | drop =>
    exact Aside.keeps_none (aside_of_op rfl) (Peer.stranger hp)
  | @writeTimeout l c ms =>
    have ha : Aside self.peerCid ⟨.setWriteTimeout c ms, .ok ()⟩ := aside_of_op rfl
    exact ⟨ha.peerOnly h, shutsDown_of_none hp.stranger, peerInv_onWritten (hp.aside ha)⟩
  | write =>
    exact ⟨Peer.peer hp, shutsDown_of_none (Peer.stranger hp), peerInv_onWritten (Peer.use hp rfl fun _ => rfl)⟩
  | writeZero | writeFails =>
    exact ⟨Peer.peer hp, shutsDown_of_none (Peer.stranger hp), Peer.use hp rfl fun _ => rfl⟩

end

end Bootstrap

/-- **Only the configured peer is served and listened to.** In every run of the receiver and of the bootstrap service
each read and each write is on a connection that was accepted from `peer_cid`, each datagram consists of bytes that were
read from one, and a connection from another CID is shut down before anything else happens. -/
theorem only_peer_served :
    (∀ {self : VsockToIpv4} {h : History} {o : Status sysSig (Outcome Error Unit)}, Exec self.run h o →
      Throughout (PeerOnly self.cfg.peerCid) h ∧ Throughout (ShutsDown self.cfg.peerCid) h ∧
        ∀ r, o = .done r → stranger self.cfg.peerCid h = none) ∧
    (∀ {self : Bootstrap} {h : History} {o : Status sysSig (Outcome Error Unit)}, Exec self.run h o →
      Throughout (PeerOnly self.peerCid) h ∧ Throughout (ShutsDown self.peerCid) h ∧
        ∀ r, o = .done r → stranger self.peerCid h = none) :=
  ⟨fun {self} _ _ hx => peerOnly_of_step (M := self.machine) (J := VsockToIpv4.PeerInv self.cfg.peerCid) rfl
      VsockToIpv4.peerInv_step id (VsockToIpv4.run_path hx),
    fun {self} _ _ hx => peerOnly_of_step (M := self.machine) (J := Bootstrap.PeerInv self.peerCid) rfl
      Bootstrap.peerInv_step id (Bootstrap.run_path hx)⟩

/-- A connection from CID 99 is rejected before the peer's is accepted, and a packet from the peer is cut off; its next
connection brings a whole one. -/
def guardedRun : History :=
  listens 1 ++ strangerAfter 5 (some 100) ++ [⟨.sleep 100, ()⟩] ++
    (accepts 1 6).tail ++ opensRaw 3 .TCP ++ opensRaw 4 .UDP ++
    [⟨.isCancelled, false⟩, ⟨.isCancelled, false⟩, ⟨.read 6 20, .ok headerPart⟩,
      ends 6, ⟨.dropSocket 6, ()⟩] ++ accepts 1 7 ++
    [⟨.isCancelled, false⟩, ⟨.isCancelled, false⟩,
      ⟨.read 7 20, .ok ⟨[0x45, 0, 0, 20, 0, 0, 0, 0, 64, 6, 0, 0, 10, 0, 0, 1, 10, 0, 0, 2], by decide⟩⟩,
      ⟨.sendTo 3 [0x45, 0, 0, 20, 0, 0, 0, 0, 64, 6, 0, 0, 10, 0, 0, 1, 10, 0, 0, 2] (.inet [10, 0, 0, 2] 0),
        .ok 20⟩]

/-- The same stranger at the bootstrap service, which then serves the peer. -/
def guardedServer : History :=
  listens 1 ++ ⟨.isCancelled, false⟩ :: strangerAfter 5 (some 100) ++ [⟨.sleep 100, ()⟩] ++
    (accepts 1 6).tail.dropLast ++ [⟨.shutdown 6 .read, .ok ()⟩, ⟨.setWriteTimeout 6 1000, .ok ()⟩,
      ⟨.isCancelled, false⟩, ⟨.write 6 [0x7b, 0x7d], .ok 2⟩, ⟨.dropSocket 6, ()⟩, ⟨.isCancelled, true⟩]

theorem only_peer_served_guarded :
    (Throughout (PeerOnly 16) guardedRun ∧ Throughout (ShutsDown 16) guardedRun ∧
      ∀ r, (.asks .isCancelled : Status sysSig (Outcome Error Unit)) = .done r → stranger 16 guardedRun = none) ∧
    (Throughout (PeerOnly 16) guardedServer ∧ Throughout (ShutsDown 16) guardedServer ∧
      ∀ r, (.done (.ok ()) : Status sysSig (Outcome Error Unit)) = .done r → stranger 16 guardedServer = none) :=
  have hr : Exec receiver.run guardedRun (.asks .isCancelled) := exec_of_script 300 (by decide +kernel)
  have hs : Exec server.run guardedServer (.done (.ok ())) := exec_of_script 300 (by decide +kernel)
  ⟨only_peer_served.1 hr, only_peer_served.2 hs⟩

end Glycerine
