import Glycerine.Setup.Kernel
/-
# Queues for the packets of the proxy

| here | there |
| --- | --- |
| `addIngressNetfilterPacketsSink`     | `add_ingress_netfilter_packets_sink` (`netfilter.rs:34`) |
| `addEgressNetfilterPacketsSink`      | `add_egress_netfilter_packets_sink` (`netfilter.rs:134`) |
-/

namespace Glycerine
open Interact Nftables

/-- `CString::new`, without the byte that ends the string. -/
def cString (s : String) : Except Error Bytes :=
  let bytes := s.toUTF8.toList
  if 0 ∈ bytes then .error .cStringNulError else .ok bytes

/-- `u16::to_be_bytes`. -/
def toBeBytes (n : UInt16) : Bytes := [(n >>> 8).toUInt8, n.toUInt8]

def tableName (queueNum : UInt16) (protocol : Protocol) : Except Error String :=
  if protocol = .TCP then .ok ("glycerine-tcp-" ++ toString queueNum.toNat)
  else if protocol = .UDP then .ok ("glycerine-udp-" ++ toString queueNum.toNat)
  else .error (.unsupportedProtocol protocol)

/-! ## `add_ingress_netfilter_packets_sink` -/

def NF_IP_PRI_MANGLE : Int := -150

/-- The expressions of the rule for one range (netfilter.rs:76-119). Both protocols have the ports at the same
place. -/
def ingressRule (queueNum : UInt16) (interface : Bytes) (protocol : Protocol) (range : UInt16 × UInt16) : Rule :=
  [.load .iifname, .cmp .eq interface, .load .l4proto, .cmp .eq [UInt8.ofNat protocol.num],
    .load (.transport 2 2), .cmp .gte (toBeBytes range.1),
    .load (.transport 2 2), .cmp .lte (toBeBytes range.2), .queue queueNum.toNat]

/-- The batch first removes whatever has the name of the table (netfilter.rs:61-122). -/
def ingressBatch (queueNum : UInt16) (table : String) (interface : Bytes) (protocol : Protocol)
    (dstPortRanges : List (UInt16 × UInt16)) : Batch :=
  [.addTable table, .delTable table, .addTable table, .addChain table "PREROUTING" .preRouting NF_IP_PRI_MANGLE] ++
    dstPortRanges.map fun range => .addRule table "PREROUTING" (ingressRule queueNum interface protocol range)

/-- `add_ingress_netfilter_packets_sink` (netfilter.rs:34). -/
def addIngressNetfilterPacketsSink (queueNum : UInt16) (interface : String) (protocol : Protocol)
    (dstPortRanges : List (UInt16 × UInt16)) : Setup Error Bool := do
  let table ← Task.ofExcept (tableName queueNum protocol)
  let _ ← Task.ofExcept (cString table)
  let interfaceCstr ← Task.ofExcept (cString interface)
  (sendAndProcess (ingressBatch queueNum table interfaceCstr protocol dstPortRanges)).mapErr .ioNftnl
  pure true

/-! ## `add_egress_netfilter_packets_sink` -/

def NF_IP_PRI_FILTER : Int := 0

/-- The expressions of the rule for one range (netfilter.rs:175-211). -/
def egressRule (queueNum : UInt16) (protocol : Protocol) (srcAddress : Ipv4Addr) (range : UInt16 × UInt16) :
    Rule :=
  [.load .l4proto, .cmp .eq [UInt8.ofNat protocol.num], .load (.network 12 4), .cmp .eq srcAddress.octets,
    .load (.transport 0 2), .cmp .gte (toBeBytes range.1),
    .load (.transport 0 2), .cmp .lte (toBeBytes range.2), .queue queueNum.toNat]

/-- netfilter.rs:154-218. -/
def egressBatch (queueNum : UInt16) (table : String) (protocol : Protocol) (srcAddress : Ipv4Addr)
    (srcPortRanges : List (UInt16 × UInt16)) : Batch :=
  [.addTable table, .delTable table, .addTable table, .addChain table "OUTPUT" .out NF_IP_PRI_FILTER] ++
    srcPortRanges.map fun range => .addRule table "OUTPUT" (egressRule queueNum protocol srcAddress range)

/-- `add_egress_netfilter_packets_sink` (netfilter.rs:134). -/
def addEgressNetfilterPacketsSink (queueNum : UInt16) (protocol : Protocol) (srcAddress : Ipv4Addr)
    (srcPortRanges : List (UInt16 × UInt16)) : Setup Error Bool := do
  let table ← Task.ofExcept (tableName queueNum protocol)
  let _ ← Task.ofExcept (cString table)
  (sendAndProcess (egressBatch queueNum table protocol srcAddress srcPortRanges)).mapErr .ioNftnl
  pure true

/-! ## What they are about -/

theorem concerns_addEgress (queueNum : UInt16) (protocol : Protocol) (srcAddress : Ipv4Addr)
    (ranges : List (UInt16 × UInt16)) :
    Concerns .ruleset (addEgressNetfilterPacketsSink queueNum protocol srcAddress ranges) := by
  unfold addEgressNetfilterPacketsSink
  refine concerns_ofExcept.bind fun _ => concerns_ofExcept.bind fun _ => ?_
  exact (concerns_call (.inr rfl)).bind fun _ => concerns_ret

end Glycerine
