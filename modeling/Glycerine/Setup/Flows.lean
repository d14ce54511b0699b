import Glycerine.Setup.Rulesets
/-
# The flows that both ends capture

The ports of a configuration reach the enclave in a record. `BothSetUp` is what has happened when the host and the
enclave are both set up: then the host queues a packet to a port exactly if the enclave queues one from it
(`ends_capture_same_flows`). Only the enclave's own address keeps a packet of the host from being queued again
once the enclave has sent it on (`queued_again_iff`).
-/

namespace Glycerine
open Interact Nftables Machine

/-- `Record::new` and what becomes of it in the enclave. -/
theorem srcPorts_of_new {kernel : Interfaces} {cfg : CliHost} {r : Record} (h : Record.new kernel cfg = .ok r) :
    r.ports.srcPorts = cfg.dstPorts.map PortRange.pair := by
  obtain ⟨-, -, hports⟩ := Record.new_eq_ok h
  rw [hports]
  simp [RecordPorts.srcPorts, CliHost.dstPorts, RecordPortRange.ofPortRange, RecordPortRange.pair, PortRange.pair]

/-- The ports of the enclave. -/
def CliHost.Proxied (cfg : CliHost) (port : UInt16) : Prop :=
  port ∈ cfg.enclaveEphemeralPorts ∨ ∃ r ∈ cfg.enclavePorts, port ∈ r

theorem inRanges_dstPorts {cfg : CliHost} {port : UInt16} :
    InRanges (cfg.dstPorts.map PortRange.pair) port.toNat ↔ cfg.Proxied port := by
  simp only [InRanges, CliHost.Proxied, CliHost.dstPorts, List.mem_map, List.mem_append, List.mem_singleton,
    PortRange.mem_iff, PortRange.pair]
  constructor
  · rintro ⟨-, ⟨r, hr | rfl, rfl⟩, hport⟩
    · exact .inr ⟨r, hr, hport⟩
    · exact .inl hport
  · rintro (hport | ⟨r, hr, hport⟩)
    · exact ⟨_, ⟨_, .inr rfl, rfl⟩, hport⟩
    · exact ⟨_, ⟨r, .inl hr, rfl⟩, hport⟩

/-! ## Both ends -/

/-- The host is set up, and the enclave with the record that was served to it; `a` is the address of the host's
interface. `fromSlice` and `parseNetwork` have to undo what the host did. -/
structure BothSetUp (parseNetwork : String → Option Ipv4Network) (fromSlice : Bytes → Option Record)
    (kernel : Interfaces)
    (cfg : CliHost) (ecfg : CliEnclave) (a : Ipv4Network) (host enclave : SetupHistory) : Prop where
  json : ∀ r, Record.new kernel cfg = .ok r → fromSlice r.encode = some r
  address : ∃ s, kernel.getInterfaceAddress cfg.interface = .ok s ∧ parseNetwork s = some a
  host : Exec cfg.setup host (.done (.ok ()))
  enclave : ∃ backoff srv r, Bootstrap.new kernel cfg backoff = .ok srv ∧ fromSlice srv.info = some r ∧
    Exec (ecfg.setup parseNetwork r) enclave (.done (.ok ()))

section
variable {parseNetwork : String → Option Ipv4Network} {fromSlice : Bytes → Option Record} {kernel : Interfaces}
  {cfg : CliHost} {ecfg : CliEnclave} {a : Ipv4Network} {host enclave : SetupHistory} {α : Type}

theorem BothSetUp.hostQueues (h : BothSetUp parseNetwork fromSlice kernel cfg ecfg a host enclave)
    (rs : Ruleset α) :
    SinksDecide (ruleset rs host) cfg.ingressNetfilterQueueNum .preRouting
      (IngressPacket cfg.interface.toUTF8.toList (cfg.dstPorts.map PortRange.pair)) :=
  (CliHost.setup_queues rs h.host).toSinksDecide

/-- The enclave has the ports and the address of the host. -/
theorem BothSetUp.enclaveQueues (h : BothSetUp parseNetwork fromSlice kernel cfg ecfg a host enclave)
    (rs : Ruleset α) :
    SinksDecide (ruleset rs enclave) ecfg.egressNetfilterQueueNum .out
      (EgressPacket a.ip (cfg.dstPorts.map PortRange.pair)) := by
  obtain ⟨backoff, srv, r, hsrv, hr, hx⟩ := h.enclave
  obtain ⟨r', hnew, hinfo⟩ := Bootstrap.info_of_new hsrv
  obtain rfl : r' = r := by
    rw [hinfo, h.json r' hnew] at hr
    exact Option.some.inj hr
  obtain ⟨b, hb, hq⟩ := CliEnclave.setup_queues rs hx
  obtain ⟨s, hs, ha⟩ := h.address
  obtain rfl : b = a := by
    rw [(Record.new_eq_ok hnew).1] at hs
    cases hs
    rw [ha] at hb
    exact (Option.some.inj hb).symm
  rw [← srcPorts_of_new hnew]
  exact hq.toSinksDecide

end

/-- A packet from outside to a port. -/
structure Arrives (interface : Bytes) (protocol : Protocol) (port : UInt16) (p : Packet) : Prop where
  iifname : p.iifname = interface
  l4proto : p.l4proto = UInt8.ofNat protocol.num
  dport : Glycerine.dport p = some port.toNat

/-- A packet of the machine from a port. -/
structure Departs (address : Ipv4Addr) (protocol : Protocol) (port : UInt16) (p : Packet) : Prop where
  l4proto : p.l4proto = UInt8.ofNat protocol.num
  saddr : Glycerine.saddr p = some address.octets
  sport : Glycerine.sport p = some port.toNat

section
variable {parseNetwork : String → Option Ipv4Network} {fromSlice : Bytes → Option Record} {kernel : Interfaces}
  {cfg : CliHost} {ecfg : CliEnclave} {a : Ipv4Network} {host enclave : SetupHistory} {α β : Type}

theorem arrives_iff {interface : Bytes} {protocol : Protocol} (hp : protocol = .TCP ∨ protocol = .UDP)
    {port : UInt16}
    {p : Packet} (h : Arrives interface protocol port p) {ranges : List (UInt16 × UInt16)} :
    IngressPacket interface ranges p ↔ InRanges ranges port.toNat := by
  constructor
  · rintro ⟨-, -, d, hd, hr⟩
    rw [h.dport] at hd
    cases hd
    exact hr
  · intro hr
    refine ⟨?_, h.iifname, _, h.dport, hr⟩
    rcases hp with rfl | rfl
    · exact .inl h.l4proto
    · exact .inr h.l4proto

theorem departs_iff {address : Ipv4Addr} {protocol : Protocol} (hp : protocol = .TCP ∨ protocol = .UDP)
    {port : UInt16}
    {p : Packet} (h : Departs address protocol port p) {ranges : List (UInt16 × UInt16)} :
    EgressPacket address ranges p ↔ InRanges ranges port.toNat := by
  constructor
  · rintro ⟨-, -, d, hd, hr⟩
    rw [h.sport] at hd
    cases hd
    exact hr
  · intro hr
    refine ⟨?_, h.saddr, _, h.sport, hr⟩
    rcases hp with rfl | rfl
    · exact .inl h.l4proto
    · exact .inr h.l4proto

/-- **Both ends capture the same flows**, those of the enclave's ports. -/
theorem ends_capture_same_flows (h : BothSetUp parseNetwork fromSlice kernel cfg ecfg a host enclave)
    (hrs : Ruleset α)
    (ers : Ruleset β) {protocol : Protocol} (hp : protocol = .TCP ∨ protocol = .UDP) (port : UInt16)
    {inbound outbound : Packet}
    (hin : Arrives cfg.interface.toUTF8.toList protocol port inbound)
    (hout : Departs a.ip protocol port outbound) :
    (.queue cfg.ingressNetfilterQueueNum.toNat ∈
        sinkVerdicts (ruleset hrs host) cfg.ingressNetfilterQueueNum .preRouting inbound ↔
      .queue ecfg.egressNetfilterQueueNum.toNat ∈
        sinkVerdicts (ruleset ers enclave) ecfg.egressNetfilterQueueNum .out outbound) ∧
    (.queue cfg.ingressNetfilterQueueNum.toNat ∈
        sinkVerdicts (ruleset hrs host) cfg.ingressNetfilterQueueNum .preRouting inbound ↔ cfg.Proxied port) := by
  rw [(h.hostQueues hrs).queued, (h.enclaveQueues ers).queued, arrives_iff hp hin, departs_iff hp hout]
  exact ⟨.rfl, inRanges_dstPorts⟩

end

/-! ## Packets that the enclave sends on -/

/-- The length of the header of an IPv4 packet. -/
def headerBytes (bs : Bytes) : Nat := (bs.headD 0 &&& 0x0F).toNat * 4

structure IsIpv4 (bs : Bytes) : Prop where
  header : 20 ≤ headerBytes bs
  whole : headerBytes bs ≤ bs.length

/-- What the rules see of an IPv4 packet. -/
def ipv4Packet (iifname bs : Bytes) : Packet := ⟨iifname, bs.getD 9 0, bs, bs.drop (headerBytes bs)⟩

def source (bs : Bytes) : Bytes := (bs.drop 12).take 4

/-- What the kernel makes of a packet that a raw socket is given with its header: it fills in the length, the
identification and the checksum, and the source address if it was left open. -/
structure Reinjected (bs bs' : Bytes) : Prop where
  length : bs'.length = bs.length
  others : ∀ i, i ∉ [2, 3, 4, 5, 10, 11, 12, 13, 14, 15] → bs'[i]? = bs[i]?
  source : Glycerine.source bs ≠ [0, 0, 0, 0] → Glycerine.source bs' = Glycerine.source bs

section
variable {bs bs' : Bytes}

theorem Reinjected.headerBytes (h : Reinjected bs bs') : headerBytes bs' = headerBytes bs := by
  have h0 := h.others 0 (by decide)
  rw [Glycerine.headerBytes, Glycerine.headerBytes, List.headD_eq_head?_getD, List.headD_eq_head?_getD,
    List.head?_eq_getElem?, List.head?_eq_getElem?, h0]

/-- The transport header is untouched. -/
theorem Reinjected.transport (h : Reinjected bs bs') (hip : IsIpv4 bs) :
    bs'.drop (Glycerine.headerBytes bs') = bs.drop (Glycerine.headerBytes bs) := by
  rw [h.headerBytes]
  refine List.ext_getElem? fun i => ?_
  rw [List.getElem?_drop, List.getElem?_drop]
  refine h.others _ ?_
  have hlen := hip.header
  simp only [List.mem_cons, List.not_mem_nil, or_false]
  omega

theorem saddr_ipv4Packet {iifname : Bytes} (hip : IsIpv4 bs) :
    saddr (ipv4Packet iifname bs) = some (source bs) := by
  have hle : 12 + 4 ≤ bs.length := by
    have h₁ := hip.header
    have h₂ := hip.whole
    omega
  show field bs 12 4 = some (source bs)
  unfold field
  rw [if_pos hle]
  rfl

theorem Reinjected.isIpv4 (h : Reinjected bs bs') (hip : IsIpv4 bs) : IsIpv4 bs' :=
  ⟨by rw [h.headerBytes]; exact hip.header, by rw [h.headerBytes, h.length]; exact hip.whole⟩

/-- A packet of the host that the enclave has sent on, seen by the rules of the enclave. -/
theorem egressPacket_reinjected (h : Reinjected bs bs') (hip : IsIpv4 bs) {iifname : Bytes} {interface : Bytes}
    {address : Ipv4Addr} {ranges : List (UInt16 × UInt16)}
    (hin : IngressPacket interface ranges (ipv4Packet iifname bs)) :
    EgressPacket address ranges (ipv4Packet [] bs') ↔ source bs' = address.octets ∧
      ∃ d, sport (ipv4Packet iifname bs) = some d ∧ InRanges ranges d := by
  have hproto : (ipv4Packet [] bs').l4proto = (ipv4Packet iifname bs).l4proto := by
    show bs'.getD 9 0 = bs.getD 9 0
    rw [List.getD_eq_getElem?_getD, List.getD_eq_getElem?_getD, h.others 9 (by decide)]
  have hsport : sport (ipv4Packet [] bs') = sport (ipv4Packet iifname bs) := by
    unfold sport portAt Packet.load ipv4Packet
    rw [h.transport hip]
  constructor
  · rintro ⟨-, hs, hd⟩
    rw [saddr_ipv4Packet (h.isIpv4 hip), Option.some.injEq] at hs
    rw [hsport] at hd
    exact ⟨hs, hd⟩
  · rintro ⟨hs, hd⟩
    rw [← hsport] at hd
    refine ⟨hproto ▸ hin.protocol, ?_, hd⟩
    rw [saddr_ipv4Packet (h.isIpv4 hip), hs]

end

section
variable {parseNetwork : String → Option Ipv4Network} {fromSlice : Bytes → Option Record} {kernel : Interfaces}
  {cfg : CliHost} {ecfg : CliEnclave} {a : Ipv4Network} {host enclave : SetupHistory} {α β : Type}

theorem exists_proxied_iff {x : Option Nat} :
    (∃ d, x = some d ∧ InRanges (cfg.dstPorts.map PortRange.pair) d) ↔
      ∃ port : UInt16, x = some port.toNat ∧ cfg.Proxied port := by
  constructor
  · rintro ⟨d, hd, hr⟩
    have hlt : d < 2 ^ 16 := by
      obtain ⟨r, -, hmem⟩ := hr
      exact Nat.lt_of_le_of_lt hmem.2 r.2.toNat_lt
    have hport : (UInt16.ofNat d).toNat = d := UInt16.toNat_ofNat_of_lt' hlt
    exact ⟨UInt16.ofNat d, by rw [hport, hd], inRanges_dstPorts.1 (by rwa [hport])⟩
  · rintro ⟨port, hd, hp⟩
    exact ⟨_, hd, inRanges_dstPorts.2 hp⟩

/-- **What the host queues and the enclave sends on is queued again exactly if it carries the enclave's own address**
and a port of the enclave as its source. -/
theorem queued_again_iff (h : BothSetUp parseNetwork fromSlice kernel cfg ecfg a host enclave) (hrs : Ruleset α)
    (ers : Ruleset β) {iifname bs bs' : Bytes} (hip : IsIpv4 bs)
    (hqueued : .queue cfg.ingressNetfilterQueueNum.toNat ∈
      sinkVerdicts (ruleset hrs host) cfg.ingressNetfilterQueueNum .preRouting (ipv4Packet iifname bs))
    (hsent : Reinjected bs bs') :
    (.queue ecfg.egressNetfilterQueueNum.toNat ∈
        sinkVerdicts (ruleset ers enclave) ecfg.egressNetfilterQueueNum .out (ipv4Packet [] bs') ↔
      source bs' = a.ip.octets ∧ ∃ port : UInt16, sport (ipv4Packet iifname bs) = some port.toNat ∧
        cfg.Proxied port) ∧
    (source bs ≠ a.ip.octets → source bs ≠ [0, 0, 0, 0] → .queue ecfg.egressNetfilterQueueNum.toNat ∉
        sinkVerdicts (ruleset ers enclave) ecfg.egressNetfilterQueueNum .out (ipv4Packet [] bs')) := by
  have hin := ((h.hostQueues hrs).queued _).1 hqueued
  rw [(h.enclaveQueues ers).queued, egressPacket_reinjected hsent hip hin, exists_proxied_iff]
  refine ⟨.rfl, fun hother hopen hagain => hother ?_⟩
  rw [← hsent.source hopen]
  exact hagain.1

end

/-! A host and its enclave that serve port 443 -/

namespace Demo

def kernel : Interfaces := ⟨fun _ => .ok "10.0.0.2/24", fun _ => .ok 1500⟩

def record : Record := ⟨⟨"10.0.0.2/24", 1500⟩, ⟨50000, 50000⟩, [⟨443, 443⟩]⟩

/-- `from_slice` as far as this record goes. -/
def fromSlice (bs : Bytes) : Option Record := if bs = record.encode then some record else none

def address : Ipv4Network := ⟨⟨10, 0, 0, 2⟩, 24⟩

/-- `str::parse` as far as this address goes. -/
def parseNetwork (s : String) : Option Ipv4Network := if s = "10.0.0.2/24" then some address else none

def enclave : CliEnclave := ⟨"ens5", 2⟩

def enclaveSetup : SetupHistory :=
  [⟨.socket, .ok ()⟩, ⟨.getFlags [101, 110, 115, 53], .ok 1⟩, ⟨.newConnection, .ok ()⟩,
    ⟨.linkByName "ens5", .ok (some 2)⟩,
    ⟨.addressAdd 2 address, .ok ()⟩, ⟨.newConnection, .ok ()⟩, ⟨.linkByName "ens5", .ok (some 2)⟩, ⟨.routeGet 2, ()⟩,
    ⟨.routeNext, .ok none⟩, ⟨.routeAdd (defaultRoute 2 address), .ok ()⟩, ⟨.socket, .ok ()⟩,
    ⟨.getMtu [101, 110, 115, 53], .ok 1500⟩, ⟨.readLocalPortRange, .ok "50000\t50000\n"⟩,
    ⟨.sendBatch (egressBatch 2 (tcpTable 2) .TCP address.ip [(443, 443), (50000, 50000)]), .ok ()⟩,
    ⟨.sendBatch (egressBatch 2 (udpTable 2) .UDP address.ip [(443, 443), (50000, 50000)]), .ok ()⟩]

theorem bothSetUp :
    BothSetUp parseNetwork fromSlice kernel (servingHost 443 0) enclave address (servingSetup 443 0)
    enclaveSetup := by
  have hnew : Record.new kernel (servingHost 443 0) = .ok record := rfl
  refine ⟨fun r hr => ?_, ⟨_, rfl, if_pos rfl⟩, exec_of_script 100 (by decide +kernel), ?_⟩
  · rw [hnew] at hr
    cases hr
    exact if_pos rfl
  · refine ⟨⟨none⟩, _, record, rfl, if_pos rfl, exec_of_script 100 (by decide +kernel)⟩

/-- A request to port 443, and the answer. -/
theorem same_flow : (.queue 0 ∈ sinkVerdicts (ruleset noTables (servingSetup 443 0)) 0 .preRouting stalePacket ↔
      .queue 2 ∈ sinkVerdicts (ruleset noTables enclaveSetup) 2 .out
        ⟨[], 6, List.replicate 12 0 ++ [10, 0, 0, 2], [1, 187, 156, 64]⟩) ∧
    (.queue 0 ∈ sinkVerdicts (ruleset noTables (servingSetup 443 0)) 0 .preRouting stalePacket ↔
      (servingHost 443 0).Proxied 443) :=
  ends_capture_same_flows bothSetUp noTables noTables (.inl rfl) 443 ⟨by decide +kernel, rfl, by decide⟩
    ⟨rfl, by decide, by decide⟩

/-- A TCP segment between the ports 443, to the enclave's address. -/
def segment (source : Bytes) : Bytes :=
  [0x45, 0, 0, 40, 0, 1, 0, 0, 64, 6, 0, 0] ++ source ++ [10, 0, 0, 2] ++ [1, 187, 1, 187] ++ List.replicate 16 0

theorem segment_queued {source : Bytes} (hs : source = [192, 0, 2, 7] ∨ source = [10, 0, 0, 2]) : .queue 0 ∈
    sinkVerdicts (ruleset noTables (servingSetup 443 0)) 0 .preRouting
      (ipv4Packet [101, 110, 115, 53] (segment source)) := by
  refine ((bothSetUp.hostQueues noTables).queued _).2 ?_
  rcases hs with rfl | rfl <;>
    exact ⟨.inl rfl, by decide +kernel, 443, by decide, (443, 443), by decide, by simp⟩

theorem segment_isIpv4 {source : Bytes} (hs : source = [192, 0, 2, 7] ∨ source = [10, 0, 0, 2]) :
    IsIpv4 (segment source) := by
  rcases hs with rfl | rfl <;> exact ⟨by decide, by decide⟩

theorem reinjected_self (bs : Bytes) : Reinjected bs bs := ⟨rfl, fun _ _ => rfl, fun _ => rfl⟩

/-- From another address it is not queued again. -/
theorem segment_passes :
    (.queue 2 ∈ sinkVerdicts (ruleset noTables enclaveSetup) 2 .out (ipv4Packet [] (segment [192, 0, 2, 7])) ↔
      source (segment [192, 0, 2, 7]) = address.ip.octets ∧ ∃ port : UInt16,
        sport (ipv4Packet [101, 110, 115, 53] (segment [192, 0, 2, 7])) = some port.toNat ∧
          (servingHost 443 0).Proxied port) ∧
    (source (segment [192, 0, 2, 7]) ≠ address.ip.octets → source (segment [192, 0, 2, 7]) ≠ [0, 0, 0, 0] →
      .queue 2 ∉ sinkVerdicts (ruleset noTables enclaveSetup) 2 .out (ipv4Packet [] (segment [192, 0, 2, 7]))) :=
  queued_again_iff bothSetUp noTables noTables (segment_isIpv4 (.inl rfl)) (segment_queued (.inl rfl))
    (reinjected_self _)

/-- With the enclave's own address for its source it is queued again. -/
theorem spoofed_segment_loops : ¬ ∀ bs bs' : Bytes, IsIpv4 bs →
    .queue 0 ∈ sinkVerdicts (ruleset noTables (servingSetup 443 0)) 0 .preRouting
      (ipv4Packet [101, 110, 115, 53] bs) →
    Reinjected bs bs' → .queue 2 ∉ sinkVerdicts (ruleset noTables enclaveSetup) 2 .out (ipv4Packet [] bs') := by
  intro hall
  refine hall (segment [10, 0, 0, 2]) _ (segment_isIpv4 (.inr rfl)) (segment_queued (.inr rfl))
    (reinjected_self _) ?_
  exact ((bothSetUp.enclaveQueues noTables).queued _).2
    ⟨.inl rfl, by decide, 443, by decide, (443, 443), by decide, by simp⟩

end Demo
end Glycerine
