import Mathlib.Data.List.Flatten
import Mathlib.Data.List.Nodup
import Glycerine.Proxy.Forwarding
import Glycerine.Proxy.Ipv4Trace
import Glycerine.Proxy.NfqTrace
import Glycerine.System.Transport
/-
# Both workers over many connections

The sender's streams are cut from its payloads (`NfqTrace`), the receiver cuts what it reads into packets
(`Ipv4Trace`), and the transport gives the receiver the beginnings of the sender's streams, connection by
connection (`Transport`). Packets are prefix-free (`Framing`), so the receiver's cuts are the sender's:
`reconnects_keep_packets`.
-/

namespace Glycerine
open Interact Framing

/-- A joint run of the two workers up to some moment; `o₁` and `o₂` say what they do next. -/
structure JointRun (snd : NfqToVsock) (rcv : VsockToIpv4) (peer : Fd → Fd) (g : List JointEvent)
    (o₁ o₂ : Status sysSig (Outcome Error Unit)) : Prop where
  sender : Exec snd.run (senderPart g) o₁
  receiver : Exec rcv.run (receiverPart g) o₂
  transport : (Network.empty.run rcv.cfg.peerCid peer g).isSome
  datagrams : ∀ e ∈ receiverPart g, WholeDatagram e

/-- What was cut off a beginning of a stream of packets are the first of these packets. -/
theorem first_blocks {ps qs : List Bytes} {r s : Bytes} (hp : ∀ p ∈ ps, WellFormed p)
    (hq : ∀ q ∈ qs, WellFormed q) (hr : ps.flatten <+: r) (hrs : r <+: s) (hs : s <+: qs.flatten) :
    ps <+: qs := by
  have hall : ps.flatten ++ [] <+: qs.flatten := by
    rw [List.append_nil]
    exact (hr.trans hrs).trans hs
  obtain ⟨qs', rfl, -⟩ := boundary_unique (fun p h => frame_iff.2 (hp p h)) (fun q h => frame_iff.2 (hq q h)) hall
  exact List.prefix_append _ _

/-- A complete header behind the first packets of a stream is not refused. -/
theorem header_accepted {ps qs : List Bytes} {rest : Bytes} (hp : ∀ p ∈ ps, WellFormed p)
    (hq : ∀ q ∈ qs, WellFormed q) (h : ps.flatten ++ rest <+: qs.flatten) (hlen : 20 ≤ rest.length) :
    announced (rest.take 20) ≠ none := by
  obtain ⟨qs', rfl, hrest⟩ := boundary_unique (fun p h => frame_iff.2 (hp p h))
    (fun q h => frame_iff.2 (hq q h)) h
  obtain ⟨q, -, -, hsize⟩ := header_of_prefix (c := ipv4Codec)
    (fun q h => frame_iff.2 (hq q (List.mem_append_right _ h))) hrest hlen
  intro hnone
  rw [show ipv4Codec.size (rest.take ipv4Codec.headerLen) = none from hnone] at hsize
  cases hsize

/-- **Reconnects never corrupt, reorder or duplicate packets.** At every moment of every joint run, if all payloads
so far are well-formed packets, the datagrams offered to the raw sockets are a sublist of the payloads, the stream
of every connection starts where a packet starts, and the receiver has not met a bad header. -/
theorem reconnects_keep_packets {snd : NfqToVsock} {rcv : VsockToIpv4} {peer : Fd → Fd} {g : List JointEvent}
    {o₁ o₂ : Status sysSig (Outcome Error Unit)} (hg : JointRun snd rcv peer g o₁ o₂)
    (hwf : ∀ p ∈ recvd (senderPart g), WellFormed p) :
    (offered (receiverPart g)).Sublist (recvd (senderPart g)) ∧
    (∃ blk, recvd (senderPart g) = (opened (senderPart g)).flatMap blk ∧
      ∀ c ∈ opened (senderPart g), sentOn c (senderPart g) <+: (blk c).flatten) ∧
    o₂ ≠ .done (.err (.glycerineRuntime "invalid ipv4 packet")) := by
  obtain ⟨hn, horder, hread⟩ := Network.run_spec hg.transport
  obtain ⟨blkS, hS⟩ := NfqToVsock.run_aligned hg.sender hn
  have hnR : (accepted rcv.cfg.peerCid (receiverPart g)).Nodup := (hn.sublist horder).of_map
  obtain ⟨⟨blk, hR⟩, hbad⟩ := VsockToIpv4.run_parsed hg.receiver ⟨hnR, hg.datagrams⟩
  have hwfS : ∀ d ∈ opened (senderPart g), ∀ p ∈ blkS d, WellFormed p := fun d hd p hp =>
    hwf p (by rw [hS.recvd]; exact List.mem_flatMap.2 ⟨d, hd, hp⟩)
  have hpeer : ∀ {c}, c ∈ accepted rcv.cfg.peerCid (receiverPart g) → peer c ∈ opened (senderPart g) :=
    fun hc => horder.subset (List.mem_map_of_mem hc)
  refine ⟨?_, ⟨blkS, hS.recvd, hS.sent⟩, fun ho => ?_⟩
  · have hblk : ∀ c ∈ accepted rcv.cfg.peerCid (receiverPart g), (blk c).Sublist (blkS (peer c)) := fun c hc =>
      (first_blocks (hR.wellFormed c) (hwfS _ (hpeer hc)) (hR.read c hc) (hread c) (hS.sent _ (hpeer hc))).sublist
    rw [hR.offered, hS.recvd]
    calc ((accepted rcv.cfg.peerCid (receiverPart g)).flatMap blk).filter Forwarded
        |>.Sublist ((accepted rcv.cfg.peerCid (receiverPart g)).flatMap blk) := List.filter_sublist
      List.Sublist _ ((accepted rcv.cfg.peerCid (receiverPart g)).flatMap fun c => blkS (peer c)) :=
        List.Sublist.flatMap_right _ hblk
      List.Sublist _ (((accepted rcv.cfg.peerCid (receiverPart g)).map peer).flatMap blkS) := by
        rw [List.flatMap_map]
      List.Sublist _ ((opened (senderPart g)).flatMap blkS) := horder.flatMap _
  · obtain ⟨blk', c, rest, hR', hc, hr, hlen, hnone⟩ := hbad ho
    refine header_accepted (hR'.wellFormed c) (hwfS _ (hpeer hc)) ?_ hlen hnone
    rw [← hr]
    exact (hread c).trans (hS.sent _ (hpeer hc))

/-! A joint run with a connection that breaks inside a packet -/

/-- The connection breaks after seven bytes of a TCP packet; a UDP packet goes over the next one. -/
def brokenRun : List JointEvent :=
  (opensQueue 1).map .inl ++ (listens 1).map .inr ++ (connects 2).map .inl ++
  (accepts 1 2 ++ opensRaw 3 .TCP ++ opensRaw 4 .UDP).map .inr ++
  ([⟨.isCancelled, false⟩, ⟨.isCancelled, false⟩, ⟨.recv 1, .ok ⟨0, tcpPacket, .accept⟩⟩,
    ⟨.send 2 tcpPacket, .ok 7⟩, ⟨.send 2 (tcpPacket.drop 7), .error (.os 104)⟩] : History).map .inl ++
  ([⟨.isCancelled, false⟩, ⟨.isCancelled, false⟩, ⟨.read 2 20, .ok ⟨tcpPacket.take 5, by decide⟩⟩] :
    History).map .inr ++
  (connects 3 ++ [⟨.dropSocket 2, ()⟩] : History).map .inl ++
  ([ends 2, ⟨.dropSocket 2, ()⟩] ++ accepts 1 5 : History).map .inr ++
  ([⟨.isCancelled, false⟩, ⟨.isCancelled, false⟩, ⟨.recv 1, .ok ⟨1, udpPacket, .accept⟩⟩,
    ⟨.send 3 udpPacket, .ok 22⟩, ⟨.verdict 1 ⟨1, udpPacket, .drop⟩, .ok ()⟩] : History).map .inl ++
  ([⟨.isCancelled, false⟩, ⟨.isCancelled, false⟩, ⟨.read 5 20, .ok ⟨udpPacket.take 20, by decide⟩⟩,
    ⟨.read 5 2, .ok ⟨udpPacket.drop 20, by decide⟩⟩, ⟨.sendTo 4 udpPacket (.inet [10, 0, 0, 2] 0), .ok 22⟩] :
      History).map .inr

def brokenPeer (c : Fd) : Fd := if c = 2 then 2 else 3

theorem brokenRun_joint :
    JointRun sender receiver brokenPeer brokenRun (.asks .isCancelled) (.asks .isCancelled) where
  sender := exec_of_script 200 (by decide +kernel)
  receiver := exec_of_script 200 (by decide +kernel)
  transport := by decide
  datagrams := by decide

theorem reconnects_keep_packets_broken :
    (offered (receiverPart brokenRun)).Sublist (recvd (senderPart brokenRun)) ∧
    (∃ blk, recvd (senderPart brokenRun) = (opened (senderPart brokenRun)).flatMap blk ∧
      ∀ c ∈ opened (senderPart brokenRun), sentOn c (senderPart brokenRun) <+: (blk c).flatten) ∧
    (Status.asks SysOp.isCancelled : Status sysSig (Outcome Error Unit)) ≠ .done
    (.err (.glycerineRuntime "invalid ipv4 packet")) :=
  reconnects_keep_packets brokenRun_joint (by decide)

end Glycerine
