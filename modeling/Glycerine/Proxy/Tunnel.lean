import Glycerine.Proxy.Reconnect
import Glycerine.Services.Reactive
/-
# What the tunnel loses

The receiver loses nothing that it has read: at every moment the raw sockets were offered exactly the packets that were
read completely, connection by connection, except for one that is about to be offered (`VsockToIpv4.run_parses`).
With the sender's streams: over each connection its first packets arrive, all of those whose bytes have come through,
and what is lost are ends of connections (`tunnel_loses_only_ends`).
-/

namespace Glycerine
open Interact Framing

/-- The packets at the front of what was read from each connection. -/
def packetsRead (peerCid : Nat) (h : History) : List Bytes :=
  (accepted peerCid h).flatMap fun c => (ipv4Codec.parse (readOn c h)).1

/-- What a task that waits is about to offer. -/
def offering : SysOp → List Bytes
  | .sendTo _ p _ => [p]
  | _ => []

def unoffered : Status sysSig (Outcome Error Unit) → List Bytes
  | .asks op => offering op
  | .done _ => []

namespace VsockToIpv4

/-- The packet that was read and is not yet offered. -/
def Phase.pending : Phase → List Bytes
  | .sending _ _ _ p _ => [p]
  | _ => []

/-- What was offered and what is pending are the packets that were read. -/
def Exact (cid : Nat) (p : Phase) (h : History) : Prop :=
  offered h ++ p.pending = (packetsRead cid h).filter Forwarded

/-! ## What was read -/

section
variable {cid : Nat} {h : History} {e : SysEvent} {c : Fd} {got : Bytes}

theorem packetsRead_snoc (ha : accepted cid [e] = []) (hr : ∀ c, readOn c [e] = []) :
    packetsRead cid (h ++ [e]) = packetsRead cid h := by
  unfold packetsRead
  simp [ha, hr]

theorem packetsRead_accept {l : Fd} {port : Nat} (hb : Parsed cid h)
    (hn : (accepted cid (h ++ [⟨.accept l, .ok (c, .vsock cid port)⟩])).Nodup) :
    packetsRead cid (h ++ [⟨.accept l, .ok (c, .vsock cid port)⟩]) = packetsRead cid h := by
  have haccepted : accepted cid (h ++ [⟨.accept l, .ok (c, .vsock cid port)⟩]) = accepted cid h ++ [c] := by
    rw [accepted_append]
    simp [accepted]
  have hread : ∀ x, readOn x (h ++ [⟨.accept l, .ok (c, .vsock cid port)⟩]) = readOn x h := by
    intro x
    rw [readOn_append]
    exact List.append_nil _
  obtain ⟨blk, hb⟩ := hb
  have hnot : c ∉ accepted cid h := not_mem_of_nodup (haccepted ▸ hn)
  unfold packetsRead
  simp only [haccepted, hread, List.flatMap_append]
  have hnone : (ipv4Codec.parse []).1 = [] := by
    rw [parse_short (by decide)]
  simp [hb.unread c hnot, hnone]

/-- The beginning of a packet is parsed into nothing. -/
theorem parse_partial (hp : Partial got) : (ipv4Codec.parse got).1 = [] := by
  by_cases hlen : got.length < 20
  · rw [parse_short (c := ipv4Codec) hlen]
  · obtain ⟨n, rest, hcut⟩ | ⟨e, hcut⟩ : (∃ p rest, ipv4Codec.cut got = .frame p rest) ∨
        ∃ e, ipv4Codec.cut got = .stop e := by
      cases ipv4Codec.cut got with
      | frame p rest => exact .inl ⟨p, rest, rfl⟩
      | stop e => exact .inr ⟨e, rfl⟩
    · obtain ⟨rfl, hf⟩ := cut_eq_frame hcut
      have hwf := frame_iff.1 hf
      have hge := hwf.length_ge
      have hlt := hp n.length (protocolOf n) (by simp; omega)
        (by rw [List.take_append_of_le_length hge]; exact hwf.ipv4TotalLen)
      rw [List.length_append] at hlt
      omega
    · rw [parse_stop hcut]

theorem parse_packet {p : Bytes} (hp : WellFormed p) : (ipv4Codec.parse p).1 = [p] := by
  have h : ipv4Codec.parse [p].flatten = ([p], .short) := parse_flatten (by simpa using frame_iff.2 hp)
  rw [List.flatten_singleton] at h
  rw [h]

/-- A read adds what it completes. -/
theorem packetsRead_read {n : Nat} {bs : {bs : Bytes // bs.length ≤ n}} (hn : (accepted cid h).Nodup)
    (hp : Partial got) (hb : Reading cid c got h) :
    packetsRead cid (h ++ [⟨.read c n, .ok bs⟩]) = packetsRead cid h ++ (ipv4Codec.parse (got ++ bs.1)).1 := by
  obtain ⟨blk, cs, hb, hc, hr⟩ := hb
  have haccepted : accepted cid (h ++ [⟨.read c n, .ok bs⟩]) = cs ++ [c] := by
    rw [accepted_append, hc]
    exact List.append_nil _
  have hframes : ∀ p ∈ blk c, ipv4Codec.Frame p := fun p hmem => frame_iff.2 (hb.wellFormed c p hmem)
  have hread : readOn c [⟨.read c n, .ok bs⟩] = bs.1 := by
    simp [readOn]
  have hother : ∀ x ∈ cs, (ipv4Codec.parse (readOn x (h ++ [⟨.read c n, .ok bs⟩]))).1
      = (ipv4Codec.parse (readOn x h)).1 := by
    intro x hx
    have hne : c ≠ x := by
      rintro rfl
      exact not_mem_of_nodup (hc ▸ hn) hx
    rw [readOn_append]
    simp [readOn, hne]
  unfold packetsRead
  rw [haccepted, hc, List.flatMap_append, List.flatMap_append, List.flatMap_def, List.map_congr_left hother,
    ← List.flatMap_def]
  simp [hread, hr, parse_append hframes, parse_partial hp]

/-! ## Phases without a pending packet -/

variable {l src : Fd}

@[simp] theorem pending_inListen (p : ListenPhase) : (Phase.inListen p).pending = [] := by
  unfold Phase.inListen ListenPhase.whole
  split <;> rfl

@[simp] theorem pending_inAccept (raw : Option (Fd × Fd)) (p : AcceptPhase) :
    (Phase.inAccept l raw p).pending = [] := by
  unfold Phase.inAccept AcceptPhase.whole
  split <;> rfl

@[simp] theorem pending_inSink (o : Opening) (p : SinkPhase) : (Phase.inSink l src o p).pending = [] := by
  unfold Phase.inSink
  split
  · rfl
  · cases o <;> rfl
  · rfl

@[simp] theorem pending_afterHalfClose (raw : Option (Fd × Fd)) : (Phase.afterHalfClose l c raw).pending = [] := by
  cases raw <;> rfl

/-- What the bytes of a packet lead to is what they are parsed into. -/
theorem pending_onBytes {s : Sockets} (hfit : Fits got) :
    (Phase.onBytes l s got).pending = (ipv4Codec.parse got).1.filter Forwarded := by
  by_cases hlen : got.length < 20
  · rw [(packet_of_header hlen).1, parse_short (c := ipv4Codec) hlen]
    rfl
  have hge : 20 ≤ got.length := Nat.le_of_not_lt hlen
  rcases ipv4TotalLen_cases (got.take 20) with ⟨n, pr, hok⟩ | herr
  · rw [(onBytes_of_ok hge hok).1]
    by_cases hlt : got.length < n
    · have hpart : Partial got := by
        intro m pr' _ hok'
        rw [hok] at hok'
        cases hok'
        exact hlt
      rw [if_pos hlt, parse_partial hpart]
      rfl
    · have hwhole : got.length = n := Nat.le_antisymm (hfit n pr hge hok) (Nat.le_of_not_lt hlt)
      subst hwhole
      have hwf : WellFormed got := frame_iff.1 (announced_eq_some.2 ⟨pr, hok⟩)
      have hpr : pr = protocolOf got := by
        rw [hwf.ipv4TotalLen] at hok
        cases hok
        rfl
      subst hpr
      rw [if_neg hlt, parse_packet hwf]
      unfold Phase.dispatch
      by_cases hf : Forwarded got
      · rw [if_pos (by exact hf), List.filter_cons_of_pos (by simpa using hf)]
        rfl
      · rw [if_neg (by exact hf), List.filter_cons_of_neg (by simpa using hf)]
        rfl
  · have hpart : Partial got := by
      intro n pr _ hok
      rw [herr] at hok
      cases hok
    rw [onBytes_of_error hge herr, parse_partial hpart]
    rfl

/-! ## Steps -/

theorem Exact.silent {p p' : Phase} (hx : Exact cid p h) (he : Silent cid e) (hp : p'.pending = p.pending) :
    Exact cid p' (h ++ [e]) := by
  unfold Exact at hx ⊢
  rw [packetsRead_snoc he.1 he.2.1, ← hx, hp, offered_append, he.2.2, List.append_nil]

theorem Exact.offer {p p' : Phase} {s : Fd} {bs : Bytes} {a : SockAddr} {r : Except IoError (Fin (bs.length + 1))}
    (hx : Exact cid p h) (hp : p.pending = [bs]) (hp' : p'.pending = []) :
    Exact cid p' (h ++ [⟨.sendTo s bs a, r⟩]) := by
  unfold Exact at hx ⊢
  rw [packetsRead_snoc rfl fun _ => rfl, ← hx, hp, hp', offered_append]
  simp [offered]

theorem exact_step {self : VsockToIpv4} {p p' : Phase} (hs : Step self p e p') (hp : ReadInv self.cfg.peerCid p h)
    (hx : Exact self.cfg.peerCid p h) (hE : (wholeDatagrams self.cfg.peerCid).ok (h ++ [e])) :
    Exact self.cfg.peerCid p' (h ++ [e]) := by
  have hn₀ : (accepted self.cfg.peerCid h).Nodup :=
    ((wholeDatagrams self.cfg.peerCid).ok_of_append hE).1
  cases hs with
  | listen hl => exact hx.silent (silent_of_listenStep hl) (pending_inListen _)
  | accepting ha =>
    cases ha with
    | retry hr => exact hx.silent (silent_of_retryStep hr) (pending_inAccept _ _)
    | accept =>
      unfold Exact at hx ⊢
      rw [packetsRead_accept hp.2 hE.1, ← hx, pending_inAccept, offered_append]
      simp [offered, Phase.pending]
    | unexpected hcid => exact hx.silent ⟨by simp [accepted, hcid], fun _ => rfl, rfl⟩ (pending_inAccept _ _)
    | _ => exact hx.silent ⟨rfl, fun _ => rfl, rfl⟩ (pending_inAccept _ _)
  | sink hk => exact hx.silent (silent_of_sinkStep hk) (pending_inSink _ _)
  | halfClose => exact hx.silent ⟨rfl, fun _ => rfl, rfl⟩ (pending_afterHalfClose _)
  | @read l s got bs hne =>
    unfold Exact at hx ⊢
    rw [packetsRead_read hn₀ hp.1 hp.2, pending_onBytes (hp.1.append bs.2), List.filter_append, ← hx, offered_append]
    simp [offered, Phase.pending]
  | readEof hnil => exact hx.silent ⟨rfl, fun _ => by simp [readOn, hnil], rfl⟩ rfl
  | @send l s pr p sent a n hlt hpos =>
    obtain ⟨rfl, hwf, hf, hb⟩ := hp
    have hall : n.val = p.length :=
      (hE.2 _ (List.mem_append_right _ (List.mem_singleton.2 rfl))).resolve_left (by omega)
    rw [if_neg (by omega)]
    exact hx.offer rfl rfl
  | sendZero =>
    obtain ⟨rfl, -⟩ := hp
    exact hx.offer rfl rfl
  | sendFails =>
    obtain ⟨rfl, -⟩ := hp
    exact hx.offer rfl rfl
  | _ => exact hx.silent ⟨rfl, fun _ => rfl, rfl⟩ rfl

/-- What is pending is what the next operation offers. -/
theorem pending_of_step {self : VsockToIpv4} {p p' : Phase} {op : SysOp} {r : op.Res} (hs : Step self p ⟨op, r⟩ p')
    (hp : ReadInv cid p h) : p.pending = offering op := by
  generalize he : (⟨op, r⟩ : SysEvent) = e at hs
  have hop : op = e.1 := congrArg Sigma.fst he
  subst hop
  cases hs with
  | listen hl =>
    cases hl with
    | retry hr => cases hr <;> rfl
    | _ => rfl
  | accepting ha =>
    cases ha with
    | retry hr => cases hr <;> rfl
    | _ => rfl
  | sink hk =>
    cases hk with
    | retry hr => cases hr <;> rfl
    | _ => rfl
  | send | sendZero | sendFails =>
    obtain ⟨rfl, -⟩ := hp
    rfl
  | _ => rfl

/-- **The receiver loses nothing that it has read**, at every moment of every run. -/
theorem run_parses {self : VsockToIpv4} {o : Status sysSig (Outcome Error Unit)} (hx : Exec self.run h o)
    (hE : (wholeDatagrams self.cfg.peerCid).ok h) :
    offered h ++ unoffered o = (packetsRead self.cfg.peerCid h).filter Forwarded := by
  have h₀ : ReadInv self.cfg.peerCid self.machine.start [] ∧ Exact self.cfg.peerCid self.machine.start [] :=
    ⟨⟨trivial, fun _ => [], by simp, by simp [accepted], fun _ _ => rfl, rfl⟩, rfl⟩
  have hinv : ∀ {p : Phase}, At self p h → ReadInv self.cfg.peerCid p h ∧ Exact self.cfg.peerCid p h := by
    intro p hp
    refine hp.inv (E := wholeDatagrams self.cfg.peerCid)
      (J := fun p h => ReadInv self.cfg.peerCid p h ∧ Exact self.cfg.peerCid p h) h₀ ?_ hE
    intro p e p' t hs hj hE
    exact ⟨readInv_step hs hj.1 hE, exact_step hs hj.1 hj.2 hE⟩
  cases o with
  | asks op =>
    obtain ⟨r⟩ := op.answers
    obtain ⟨p, p', hp, hs⟩ := run_reactive.step run_path hx r
    obtain ⟨hread, hexact⟩ := hinv hp
    unfold Exact at hexact
    rw [pending_of_step hs hread] at hexact
    exact hexact
  | done r => exact (hinv (run_path hx)).2

end
end VsockToIpv4

/-! ## Both workers -/

/-- How the datagrams come from the payloads: of the payloads `blk (peer c)` that were sent to its connection `c`, the
receiver has read `n c` completely. -/
structure Arrived (peerCid : Nat) (peer : Fd → Fd) (snd rcv : History) (o : Status sysSig (Outcome Error Unit))
    (blk : Fd → List Bytes) (n : Fd → Nat) : Prop where
  payloads : recvd snd = (opened snd).flatMap blk
  /-- what went out on each connection is a beginning of its payloads -/
  sent : ∀ c ∈ opened snd, sentOn c snd <+: (blk c).flatten
  order : ((accepted peerCid rcv).map peer).Sublist (opened snd)
  datagrams : offered rcv ++ unoffered o
    = ((accepted peerCid rcv).flatMap fun c => (blk (peer c)).take (n c)).filter Forwarded
  complete : ∀ c ∈ accepted peerCid rcv, ((blk (peer c)).take (n c)).flatten <+: readOn c rcv
  /-- of the first that is missing not all bytes were read -/
  first : ∀ c ∈ accepted peerCid rcv, n c < (blk (peer c)).length →
    (readOn c rcv).length < ((blk (peer c)).take (n c + 1)).flatten.length

section
variable {snd : NfqToVsock} {rcv : VsockToIpv4} {peer : Fd → Fd} {g : List JointEvent}
  {o₁ o₂ : Status sysSig (Outcome Error Unit)}

theorem JointRun.arrived (hg : JointRun snd rcv peer g o₁ o₂) (hwf : ∀ p ∈ recvd (senderPart g), WellFormed p) :
    ∃ blk n, Arrived rcv.cfg.peerCid peer (senderPart g) (receiverPart g) o₂ blk n := by
  obtain ⟨hn, horder, hread⟩ := Network.run_spec hg.transport
  obtain ⟨blk, hS⟩ := NfqToVsock.run_aligned hg.sender hn
  have hnR : (accepted rcv.cfg.peerCid (receiverPart g)).Nodup := (hn.sublist horder).of_map
  have hall := VsockToIpv4.run_parses hg.receiver ⟨hnR, hg.datagrams⟩
  have hbeginning : ∀ c ∈ accepted rcv.cfg.peerCid (receiverPart g), ∃ n,
      (ipv4Codec.parse (readOn c (receiverPart g))).1 = (blk (peer c)).take n ∧
        ((blk (peer c)).take n).flatten <+: readOn c (receiverPart g) ∧ (n < (blk (peer c)).length →
          (readOn c (receiverPart g)).length < ((blk (peer c)).take (n + 1)).flatten.length) := by
    intro c hc
    have hopen : peer c ∈ opened (senderPart g) := horder.subset (List.mem_map_of_mem hc)
    refine parse_beginning (c := ipv4Codec) (fun p hp => frame_iff.2 (hwf p ?_))
      ((hread c).trans (hS.sent _ hopen))
    rw [hS.recvd]
    exact List.mem_flatMap.2 ⟨_, hopen, hp⟩
  choose! n hparse hcomplete hfirst using hbeginning
  refine ⟨blk, n, hS.recvd, hS.sent, horder, ?_, hcomplete, hfirst⟩
  rw [hall, packetsRead, List.flatMap_def, List.flatMap_def, List.map_congr_left hparse]

/-- Every packet that arrives is one that was sent, and they arrive in order. -/
theorem Arrived.sublist {cid : Nat} {h h' : History} {blk : Fd → List Bytes} {n : Fd → Nat}
    (ha : Arrived cid peer h h' o₂ blk n) : (offered h').Sublist (recvd h) := by
  rw [ha.payloads]
  calc (offered h').Sublist (offered h' ++ unoffered o₂) := List.sublist_append_left _ _
    List.Sublist _ (((accepted cid h').flatMap fun c => (blk (peer c)).take (n c)).filter Forwarded) := by
      rw [ha.datagrams]
    List.Sublist _ ((accepted cid h').flatMap fun c => (blk (peer c)).take (n c)) := List.filter_sublist
    List.Sublist _ ((accepted cid h').flatMap fun c => blk (peer c)) :=
      List.Sublist.flatMap_right _ fun c _ => List.take_sublist _ _
    List.Sublist _ (((accepted cid h').map peer).flatMap blk) := by
      rw [List.flatMap_map]
    List.Sublist _ ((opened h).flatMap blk) := ha.order.flatMap _

end

/-- **The tunnel loses only ends of connections.** At every moment of every joint run, if the payloads are well-formed
packets, then over each connection the first of its packets have arrived, all of those that were read completely. -/
theorem tunnel_loses_only_ends {snd : NfqToVsock} {rcv : VsockToIpv4} {peer : Fd → Fd} {g : List JointEvent}
    {o₁ o₂ : Status sysSig (Outcome Error Unit)} (hg : JointRun snd rcv peer g o₁ o₂)
    (hwf : ∀ p ∈ recvd (senderPart g), WellFormed p) :
    ∃ blk n, Arrived rcv.cfg.peerCid peer (senderPart g) (receiverPart g) o₂ blk n := hg.arrived hwf

/-- The connection that breaks inside a packet. -/
theorem brokenRun_arrived : ∃ blk n, Arrived receiver.cfg.peerCid brokenPeer (senderPart brokenRun)
    (receiverPart brokenRun) (.asks .isCancelled) blk n := tunnel_loses_only_ends brokenRun_joint (by decide)

end Glycerine
