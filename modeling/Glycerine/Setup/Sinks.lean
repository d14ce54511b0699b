import Mathlib.Order.Interval.Set.Basic
import Glycerine.Interact.Machine
import Glycerine.Setup.Netfilter
import Glycerine.Setup.Ruleset
/-
# Which packets the sinks queue

The rules of a sink compare bytes. Ports are in network order both in the packet and in the rule, so the comparisons
of a rule are about numbers, and a chain with one rule for each range queues exactly the packets with a port in one
of the ranges (`verdict_ingressChain`, `verdict_egressChain`). A successful call leaves its table with just that
chain, whatever was there before (`triple_ruleset_addIngress`, `triple_ruleset_addEgress`).
-/

namespace Glycerine
open Interact Nftables Machine

/-! ## Rules -/

/-- The number of two bytes at an offset in the transport header. -/
def portAt (offset : Nat) (p : Packet) : Option Nat :=
  match p.load (.transport offset 2) with
  | some [hi, lo] => some (pairNat hi lo)
  | _ => none

/-- The source port of a TCP or UDP packet. -/
def sport (p : Packet) : Option Nat := portAt 0 p

/-- The destination port of a TCP or UDP packet. -/
def dport (p : Packet) : Option Nat := portAt 2 p

/-- The source address of an IPv4 packet. -/
def saddr (p : Packet) : Option Bytes := p.load (.network 12 4)

/-- The port is in one of the ranges, both ends included. -/
def InRanges (ranges : List (UInt16 × UInt16)) (d : Nat) : Prop := ∃ r ∈ ranges, d ∈ Set.Icc r.1.toNat r.2.toNat

theorem pairNat_toBeBytes (n : UInt16) : pairNat (n >>> 8).toUInt8 n.toUInt8 = n.toNat := by
  have hn := n.toNat_lt
  simp only [pairNat, UInt16.toNat_toUInt8, UInt16.toNat_shiftRight]
  simp [Nat.shiftRight_eq_div_pow]
  omega

/-- Both port comparisons together. -/
theorem port_between {offset : Nat} {r : UInt16 × UInt16} {p : Packet} {P : Prop} :
    (∃ v, p.load (.transport offset 2) = some v ∧ bytesLe (toBeBytes r.1) v = true ∧
        ∃ w, p.load (.transport offset 2) = some w ∧ bytesLe w (toBeBytes r.2) = true ∧ P) ↔
      (∃ d, portAt offset p = some d ∧ d ∈ Set.Icc r.1.toNat r.2.toNat) ∧ P := by
  constructor
  · rintro ⟨v, hv, hle, w, hw, hge, hP⟩
    obtain rfl : v = w := Option.some.inj (hv.symm.trans hw)
    obtain ⟨hi, lo, rfl⟩ := field_pair hv
    rw [toBeBytes, bytesLe_pair, pairNat_toBeBytes] at hle hge
    refine ⟨⟨pairNat hi lo, ?_, hle, hge⟩, hP⟩
    unfold portAt
    rw [hv]
  · rintro ⟨⟨d, hd, hle, hge⟩, hP⟩
    unfold portAt at hd
    split at hd
    · rename_i hi lo hv
      cases hd
      refine ⟨_, hv, ?_, _, hv, ?_, hP⟩
      · rw [toBeBytes, bytesLe_pair, pairNat_toBeBytes]
        exact hle
      · rw [toBeBytes, bytesLe_pair, pairNat_toBeBytes]
        exact hge
    · cases hd

section
variable {queueNum : UInt16} {interface : Bytes} {protocol : Protocol} {srcAddress : Ipv4Addr}
    {r : UInt16 × UInt16}
  {ranges : List (UInt16 × UInt16)} {p : Packet} {q : Nat}

/-- What the ingress rule for one range matches. -/
theorem queueOf_ingressRule :
    (ingressRule queueNum interface protocol r).queueOf p = some q ↔
      p.iifname = interface ∧ p.l4proto = UInt8.ofNat protocol.num ∧
        (∃ d, dport p = some d ∧ d ∈ Set.Icc r.1.toNat r.2.toNat) ∧ queueNum.toNat = q := by
  unfold ingressRule Rule.queueOf
  simp only [eval_load, eval_cmp, eval_queue, CmpOp.holds, port_between]
  simp [Packet.load, dport]

/-- What the egress rule for one range matches. -/
theorem queueOf_egressRule :
    (egressRule queueNum protocol srcAddress r).queueOf p = some q ↔
      p.l4proto = UInt8.ofNat protocol.num ∧ saddr p = some srcAddress.octets ∧
        (∃ d, sport p = some d ∧ d ∈ Set.Icc r.1.toNat r.2.toNat) ∧ queueNum.toNat = q := by
  unfold egressRule Rule.queueOf
  simp only [eval_load, eval_cmp, eval_queue, CmpOp.holds, port_between]
  simp [Packet.load, sport, saddr]

/-! ## Chains -/

/-- The packets of an ingress sink. -/
structure IngressMatch (interface : Bytes) (protocol : Protocol) (ranges : List (UInt16 × UInt16)) (p : Packet) :
    Prop where
  iifname : p.iifname = interface
  l4proto : p.l4proto = UInt8.ofNat protocol.num
  port : ∃ d, dport p = some d ∧ InRanges ranges d

/-- The packets of an egress sink. -/
structure EgressMatch (protocol : Protocol) (srcAddress : Ipv4Addr) (ranges : List (UInt16 × UInt16))
    (p : Packet) :
    Prop where
  l4proto : p.l4proto = UInt8.ofNat protocol.num
  saddr : Glycerine.saddr p = some srcAddress.octets
  port : ∃ d, sport p = some d ∧ InRanges ranges d

def ingressChain (queueNum : UInt16) (interface : Bytes) (protocol : Protocol) (ranges : List (UInt16 × UInt16)) :
    Chain :=
  ⟨"PREROUTING", .preRouting, NF_IP_PRI_MANGLE, ranges.map (ingressRule queueNum interface protocol)⟩

def egressChain (queueNum : UInt16) (protocol : Protocol) (srcAddress : Ipv4Addr)
    (ranges : List (UInt16 × UInt16)) :
    Chain :=
  ⟨"OUTPUT", .out, NF_IP_PRI_FILTER, ranges.map (egressRule queueNum protocol srcAddress)⟩

/-- A chain whose rules match `M r` for the ranges `r`, and send to one queue. -/
theorem verdict_of_rules {c : Chain} {f : UInt16 × UInt16 → Rule} {num : Nat} {M : UInt16 × UInt16 → Prop}
    (hc : c.rules = ranges.map f) (hf : ∀ r q, (f r).queueOf p = some q ↔ M r ∧ num = q) :
    (c.verdict p = .queue num ↔ ∃ r ∈ ranges, M r) ∧ (c.verdict p = .accept ↔ ¬ ∃ r ∈ ranges, M r) := by
  constructor
  · rw [verdict_eq_queue_iff, hc]
    · simp [hf]
    · rw [hc, List.forall_mem_map]
      exact fun r _ q hq => ((hf r q).1 hq).2.symm
  · rw [verdict_eq_accept_iff, hc, List.forall_mem_map]
    simp [Option.eq_none_iff_forall_ne_some, hf]

theorem verdict_ingressChain :
    ((ingressChain queueNum interface protocol ranges).verdict p = .queue queueNum.toNat ↔
        IngressMatch interface protocol ranges p) ∧
      ((ingressChain queueNum interface protocol ranges).verdict p = .accept ↔
        ¬ IngressMatch interface protocol ranges p) := by
  have hM : IngressMatch interface protocol ranges p ↔ ∃ r ∈ ranges, p.iifname = interface ∧
      p.l4proto = UInt8.ofNat protocol.num ∧ ∃ d, dport p = some d ∧ d ∈ Set.Icc r.1.toNat r.2.toNat := by
    constructor
    · rintro ⟨hi, hl, d, hd, r, hr, hmem⟩
      exact ⟨r, hr, hi, hl, d, hd, hmem⟩
    · rintro ⟨r, hr, hi, hl, d, hd, hmem⟩
      exact ⟨hi, hl, d, hd, r, hr, hmem⟩
  rw [hM]
  exact verdict_of_rules rfl fun r q => by rw [queueOf_ingressRule]; simp only [and_assoc]

theorem verdict_egressChain :
    ((egressChain queueNum protocol srcAddress ranges).verdict p = .queue queueNum.toNat ↔
        EgressMatch protocol srcAddress ranges p) ∧
      ((egressChain queueNum protocol srcAddress ranges).verdict p = .accept ↔
        ¬ EgressMatch protocol srcAddress ranges p) := by
  have hM : EgressMatch protocol srcAddress ranges p ↔ ∃ r ∈ ranges, p.l4proto = UInt8.ofNat protocol.num ∧
      saddr p = some srcAddress.octets ∧ ∃ d, sport p = some d ∧ d ∈ Set.Icc r.1.toNat r.2.toNat := by
    constructor
    · rintro ⟨hl, hs, d, hd, r, hr, hmem⟩
      exact ⟨r, hr, hl, hs, d, hd, hmem⟩
    · rintro ⟨r, hr, hl, hs, d, hd, hmem⟩
      exact ⟨hl, hs, d, hd, r, hr, hmem⟩
  rw [hM]
  exact verdict_of_rules rfl fun r q => by rw [queueOf_egressRule]; simp only [and_assoc]

end

/-! ## Calls of the sinks -/

section
variable {E : Env kernelSig} {I P Q : SetupHistory → Prop} {queueNum : UInt16} {protocol : Protocol}
  {ranges : List (UInt16 × UInt16)}

theorem triple_sendAndProcess {batch : Batch} (hI : ∀ h, P h → I h)
    (hfail : ∀ e h, P h → E.ok (h ++ [⟨.sendBatch batch, .error e⟩]) → I (h ++ [⟨.sendBatch batch, .error e⟩]))
    (hok : ∀ h, P h → E.ok (h ++ [⟨.sendBatch batch, .ok ()⟩]) → Q (h ++ [⟨.sendBatch batch, .ok ()⟩])) :
    Triple E I P ((sendAndProcess batch).mapErr .ioNftnl) (Leaves I fun _ => Q) := by
  refine Task.triple_mapErr (Task.triple_call (fun h hP _ => hI h hP) fun h r hP hE => ?_)
  cases r with
  | ok _ => exact hok h hP hE
  | error e => exact hfail e h hP hE

theorem triple_addIngress {interface : String} (hI : ∀ h, P h → I h)
    (hfail : ∀ batch e h, P h → E.ok (h ++ [⟨.sendBatch batch, .error e⟩]) →
      I (h ++ [⟨.sendBatch batch, .error e⟩]))
    (hok : ∀ i table h, cString interface = .ok i → tableName queueNum protocol = .ok table → P h →
      E.ok (h ++ [⟨.sendBatch (ingressBatch queueNum table i protocol ranges), .ok ()⟩]) →
      Q (h ++ [⟨.sendBatch (ingressBatch queueNum table i protocol ranges), .ok ()⟩])) :
    Triple E I P (addIngressNetfilterPacketsSink queueNum interface protocol ranges) (Leaves I fun _ => Q) := by
  refine Task.triple_seq _ (triple_check hI) fun table => triple_of_fact fun htable => ?_
  refine Task.triple_seq _ (triple_check hI) fun _ => triple_of_fact fun _ => ?_
  refine Task.triple_seq _ (triple_check hI) fun i => triple_of_fact fun hi => ?_
  exact Task.triple_seq (fun _ => Q) (triple_sendAndProcess hI (hfail _) fun h => hok i table h hi htable)
    fun _ =>
    Task.triple_ret fun h hQ _ => hQ

theorem triple_addEgress {srcAddress : Ipv4Addr} (hI : ∀ h, P h → I h)
    (hfail : ∀ batch e h, P h → E.ok (h ++ [⟨.sendBatch batch, .error e⟩]) →
      I (h ++ [⟨.sendBatch batch, .error e⟩]))
    (hok : ∀ table h, tableName queueNum protocol = .ok table → P h →
      E.ok (h ++ [⟨.sendBatch (egressBatch queueNum table protocol srcAddress ranges), .ok ()⟩]) →
      Q (h ++ [⟨.sendBatch (egressBatch queueNum table protocol srcAddress ranges), .ok ()⟩])) :
    Triple E I P (addEgressNetfilterPacketsSink queueNum protocol srcAddress ranges) (Leaves I fun _ => Q) := by
  refine Task.triple_seq _ (triple_check hI) fun table => triple_of_fact fun htable => ?_
  refine Task.triple_seq _ (triple_check hI) fun _ => triple_of_fact fun _ => ?_
  exact Task.triple_seq (fun _ => Q) (triple_sendAndProcess hI (hfail _) fun h => hok table h htable) fun _ =>
    Task.triple_ret fun h hQ _ => hQ

end

/-! ## The ruleset -/

section
variable {α : Type}

/-- A batch that was acknowledged has taken effect, and nothing else changes the ruleset. -/
def rulesetStep (rs : Ruleset α) : Event kernelSig → Ruleset α
  | ⟨.sendBatch batch, .ok ()⟩ => (batch.apply rs).getD rs
  | _ => rs

/-- The ruleset after a history that began with `rs`. -/
def ruleset (rs : Ruleset α) (h : SetupHistory) : Ruleset α := h.foldl rulesetStep rs

theorem ruleset_append (rs : Ruleset α) (h t : SetupHistory) : ruleset rs (h ++ t) = ruleset (ruleset rs h) t :=
  List.foldl_append

theorem ruleset_snoc (rs : Ruleset α) (h : SetupHistory) (e : Event kernelSig) :
    ruleset rs (h ++ [e]) = rulesetStep (ruleset rs h) e := ruleset_append rs h [e]

/-- The table of a sink, which has nothing but the chain. -/
def sinkTable (chain : Chain) : Table α := ⟨[chain], []⟩

variable {queueNum : UInt16} {interface table : String} {i : Bytes} {protocol : Protocol} {srcAddress : Ipv4Addr}
  {ranges : List (UInt16 × UInt16)} {h : SetupHistory} {b : Bool}

theorem apply_ingressBatch (rs : Ruleset α) :
    (ingressBatch queueNum table i protocol ranges).apply rs =
      some (Function.update rs table (some (sinkTable (ingressChain queueNum i protocol ranges)))) := by
  have hb : ingressBatch queueNum table i protocol ranges =
    freshTable table "PREROUTING" .preRouting NF_IP_PRI_MANGLE
      (ranges.map (ingressRule queueNum i protocol)) := by
    unfold ingressBatch freshTable
    rw [List.map_map]
    rfl
  rw [hb, apply_freshTable]
  rfl

theorem rulesetStep_ingress (rs : Ruleset α) :
    rulesetStep rs ⟨.sendBatch (ingressBatch queueNum table i protocol ranges), .ok ()⟩ =
      Function.update rs table (some (sinkTable (ingressChain queueNum i protocol ranges))) := by
  rw [rulesetStep, apply_ingressBatch, Option.getD_some]

theorem apply_egressBatch (rs : Ruleset α) :
    (egressBatch queueNum table protocol srcAddress ranges).apply rs =
      some (Function.update rs table (some (sinkTable (egressChain queueNum protocol srcAddress ranges)))) := by
  have hb : egressBatch queueNum table protocol srcAddress ranges =
    freshTable table "OUTPUT" .out NF_IP_PRI_FILTER
      (ranges.map (egressRule queueNum protocol srcAddress)) := by
    unfold egressBatch freshTable
    rw [List.map_map]
    rfl
  rw [hb, apply_freshTable]
  rfl

theorem rulesetStep_egress (rs : Ruleset α) :
    rulesetStep rs ⟨.sendBatch (egressBatch queueNum table protocol srcAddress ranges), .ok ()⟩ =
      Function.update rs table (some (sinkTable (egressChain queueNum protocol srcAddress ranges))) := by
  rw [rulesetStep, apply_egressBatch, Option.getD_some]

theorem cString_eq_ok {s : String} {bytes : Bytes} (h : cString s = .ok bytes) : bytes = s.toUTF8.toList := by
  simp only [cString] at h
  split at h
  · cases h
  · cases h
    rfl

/-- A successful call leaves its table with its chain, whatever was there; a call that fails changes nothing. -/
theorem triple_ruleset_addIngress {E : Env kernelSig} {I : SetupHistory → Prop} (rs r : Ruleset α)
    (hI : ∀ h, ruleset rs h = r → I h) : Triple E I (fun h => ruleset rs h = r)
    (addIngressNetfilterPacketsSink queueNum interface protocol ranges)
    (Leaves I fun _ h => ∃ table, tableName queueNum protocol = .ok table ∧ ruleset rs h =
      Function.update r table
        (some (sinkTable (ingressChain queueNum interface.toUTF8.toList protocol ranges)))) := by
  refine triple_addIngress hI (fun batch e h hr _ => hI _ ?_) fun i table h hi ht hr _ => ⟨table, ht, ?_⟩
  · rw [ruleset_snoc, hr]
    rfl
  · rw [ruleset_snoc, hr, rulesetStep_ingress, cString_eq_ok hi]

theorem triple_ruleset_addEgress {E : Env kernelSig} {I : SetupHistory → Prop} (rs r : Ruleset α)
    (hI : ∀ h, ruleset rs h = r → I h) : Triple E I (fun h => ruleset rs h = r)
    (addEgressNetfilterPacketsSink queueNum protocol srcAddress ranges)
    (Leaves I fun _ h => ∃ table, tableName queueNum protocol = .ok table ∧
      ruleset rs h = Function.update r table
        (some (sinkTable (egressChain queueNum protocol srcAddress ranges)))) := by
  refine triple_addEgress hI (fun batch e h hr _ => hI _ ?_) fun table h ht hr _ => ⟨table, ht, ?_⟩
  · rw [ruleset_snoc, hr]
    rfl
  · rw [ruleset_snoc, hr, rulesetStep_egress]

end

/-! ## Both protocols -/

section
variable {α : Type} {queueNum : UInt16} {chain : Protocol → Chain} {hook : Hook}

/-- The table of the TCP sink. -/
def tcpTable (queueNum : UInt16) : String := "glycerine-tcp-" ++ toString queueNum.toNat

/-- The table of the UDP sink. -/
def udpTable (queueNum : UInt16) : String := "glycerine-udp-" ++ toString queueNum.toNat

theorem tcpTable_ne_udpTable (n m : UInt16) : tcpTable n ≠ udpTable m := by
  intro h
  have hlist := congrArg String.toList h
  simp [tcpTable, udpTable] at hlist

theorem toDigits_toNat_inj {n m : UInt16} : Nat.toDigits 10 n.toNat = Nat.toDigits 10 m.toNat ↔ n = m := by
  constructor
  · intro h
    have hnum := congrArg (Nat.ofDigitChars 10 · 0) h
    simpa [Nat.ofDigitChars_ten_toDigits, UInt16.toNat_inj] using hnum
  · rintro rfl
    rfl

theorem tcpTable_inj {n m : UInt16} : tcpTable n = tcpTable m ↔ n = m := by
  simp [tcpTable, toString, ← String.toList_inj, toDigits_toNat_inj]

theorem udpTable_inj {n m : UInt16} : udpTable n = udpTable m ↔ n = m := by
  simp [udpTable, toString, ← String.toList_inj, toDigits_toNat_inj]

/-- The ruleset with the sinks of a queue in it, one chain for each protocol. -/
def withSinks (rs : Ruleset α) (queueNum : UInt16) (chain : Protocol → Chain) : Ruleset α :=
  Function.update (Function.update rs (tcpTable queueNum) (some (sinkTable (chain .TCP)))) (udpTable queueNum)
    (some (sinkTable (chain .UDP)))

/-- What the sinks of a queue decide about a packet. -/
def sinkVerdicts (rs : Ruleset α) (queueNum : UInt16) (hook : Hook) (p : Packet) : List Nftables.Verdict :=
  rs.verdicts (tcpTable queueNum) hook p ++ rs.verdicts (udpTable queueNum) hook p

theorem withSinks_tcp {rs : Ruleset α} :
    withSinks rs queueNum chain (tcpTable queueNum) = some (sinkTable (chain .TCP)) := by
  simp [withSinks, tcpTable_ne_udpTable]

theorem withSinks_udp {rs : Ruleset α} :
    withSinks rs queueNum chain (udpTable queueNum) = some (sinkTable (chain .UDP)) := by
  simp [withSinks]

theorem withSinks_other {rs : Ruleset α} {name : String} (ht : name ≠ tcpTable queueNum)
    (hu : name ≠ udpTable queueNum) :
    withSinks rs queueNum chain name = rs name := by
  simp [withSinks, ht, hu]

/-- The order of the protocols does not matter. -/
theorem withSinks_comm {rs : Ruleset α} :
    Function.update (Function.update rs (udpTable queueNum) (some (sinkTable (chain .UDP)))) (tcpTable queueNum)
      (some (sinkTable (chain .TCP))) = withSinks rs queueNum chain :=
  Function.update_comm (tcpTable_ne_udpTable _ _).symm _ _ _

theorem verdicts_sinkTable {rs : Ruleset α} {table : String} {c : Chain} (h : rs table = some (sinkTable c))
    {p : Packet} :
    rs.verdicts table hook p = if c.hook = hook then [c.verdict p] else [] := by
  by_cases hc : c.hook = hook <;> simp [Ruleset.verdicts, Table.verdicts, h, sinkTable, hc]

theorem sinkVerdicts_withSinks {rs : Ruleset α} (hhook : ∀ protocol, (chain protocol).hook = hook)
    {hook' : Hook} {p : Packet} :
    sinkVerdicts (withSinks rs queueNum chain) queueNum hook' p =
      if hook = hook' then [(chain .TCP).verdict p, (chain .UDP).verdict p] else [] := by
  rw [sinkVerdicts, verdicts_sinkTable withSinks_tcp, verdicts_sinkTable withSinks_udp, hhook, hhook]
  split <;> rfl

/-- The sinks of a queue send the packets of `M` to it, at one hook, and accept every other. -/
structure SinksDecide (rs : Ruleset α) (queueNum : UInt16) (hook : Hook) (M : Packet → Prop) : Prop where
  queued : ∀ p, .queue queueNum.toNat ∈ sinkVerdicts rs queueNum hook p ↔ M p
  accepted : ∀ p, ¬ M p → sinkVerdicts rs queueNum hook p = [.accept, .accept]
  hooks : ∀ hook', hook' ≠ hook → ∀ p, sinkVerdicts rs queueNum hook' p = []

theorem SinksDecide.congr {rs rs' : Ruleset α} {M : Packet → Prop} (h : SinksDecide rs queueNum hook M)
    (ht : rs' (tcpTable queueNum) = rs (tcpTable queueNum))
    (hu : rs' (udpTable queueNum) = rs (udpTable queueNum)) :
    SinksDecide rs' queueNum hook M := by
  have hsame : ∀ hook' p, sinkVerdicts rs' queueNum hook' p = sinkVerdicts rs queueNum hook' p := by
    intro hook' p
    simp only [sinkVerdicts, Ruleset.verdicts, ht, hu]
  exact ⟨fun p => by rw [hsame, h.queued], fun p hp => by rw [hsame, h.accepted p hp],
    fun hook' hne p => by rw [hsame, h.hooks hook' hne]⟩

/-- And tables of other names are as they were. -/
structure SinksQueue (before after : Ruleset α) (queueNum : UInt16) (hook : Hook)
    (M : Packet → Prop) : Prop extends
    SinksDecide after queueNum hook M where
  others : ∀ name, name ≠ tcpTable queueNum → name ≠ udpTable queueNum → after name = before name

theorem sinksQueue_withSinks {rs : Ruleset α} {P : Packet → Prop} {M : Protocol → Packet → Prop}
    (hhook : ∀ protocol, (chain protocol).hook = hook)
    (hM : ∀ protocol p, ((chain protocol).verdict p = .queue queueNum.toNat ↔ M protocol p) ∧
      ((chain protocol).verdict p = .accept ↔ ¬ M protocol p))
    (hP : ∀ p, P p ↔ M .TCP p ∨ M .UDP p) : SinksQueue rs (withSinks rs queueNum chain) queueNum hook P where
  queued p := by
    rw [sinkVerdicts_withSinks hhook, if_pos rfl, hP]
    simp only [List.mem_cons, List.not_mem_nil, or_false, @eq_comm _ (Nftables.Verdict.queue _), (hM _ p).1]
  accepted p hp := by
    rw [hP, not_or] at hp
    rw [sinkVerdicts_withSinks hhook, if_pos rfl, (hM .TCP p).2.2 hp.1, (hM .UDP p).2.2 hp.2]
  hooks hook' hne p := by rw [sinkVerdicts_withSinks hhook, if_neg hne.symm]
  others name ht hu := withSinks_other ht hu

end

/-- A TCP or UDP packet that came in on the interface, for a port in one of the ranges. -/
structure IngressPacket (interface : Bytes) (ranges : List (UInt16 × UInt16)) (p : Packet) : Prop where
  protocol : p.l4proto = 6 ∨ p.l4proto = 17
  iifname : p.iifname = interface
  port : ∃ d, dport p = some d ∧ InRanges ranges d

/-- A TCP or UDP packet with the source address, from a port in one of the ranges. -/
structure EgressPacket (srcAddress : Ipv4Addr) (ranges : List (UInt16 × UInt16)) (p : Packet) : Prop where
  protocol : p.l4proto = 6 ∨ p.l4proto = 17
  saddr : Glycerine.saddr p = some srcAddress.octets
  port : ∃ d, sport p = some d ∧ InRanges ranges d

section
variable {α : Type} {queueNum : UInt16} {interface : Bytes} {srcAddress : Ipv4Addr}
    {ranges : List (UInt16 × UInt16)}

theorem ingressPacket_iff {p : Packet} : IngressPacket interface ranges p ↔
    IngressMatch interface .TCP ranges p ∨ IngressMatch interface .UDP ranges p := by
  constructor
  · rintro ⟨hl | hl, hi, hd⟩
    · exact .inl ⟨hi, hl, hd⟩
    · exact .inr ⟨hi, hl, hd⟩
  · rintro (⟨hi, hl, hd⟩ | ⟨hi, hl, hd⟩)
    · exact ⟨.inl hl, hi, hd⟩
    · exact ⟨.inr hl, hi, hd⟩

theorem egressPacket_iff {p : Packet} : EgressPacket srcAddress ranges p ↔
    EgressMatch .TCP srcAddress ranges p ∨ EgressMatch .UDP srcAddress ranges p := by
  constructor
  · rintro ⟨hl | hl, hs, hd⟩
    · exact .inl ⟨hl, hs, hd⟩
    · exact .inr ⟨hl, hs, hd⟩
  · rintro (⟨hl, hs, hd⟩ | ⟨hl, hs, hd⟩)
    · exact ⟨.inl hl, hs, hd⟩
    · exact ⟨.inr hl, hs, hd⟩

def withIngress (rs : Ruleset α) (queueNum : UInt16) (interface : Bytes) (ranges : List (UInt16 × UInt16)) :
    Ruleset α :=
  withSinks rs queueNum fun protocol => ingressChain queueNum interface protocol ranges

def withEgress (rs : Ruleset α) (queueNum : UInt16) (srcAddress : Ipv4Addr) (ranges : List (UInt16 × UInt16)) :
    Ruleset α :=
  withSinks rs queueNum fun protocol => egressChain queueNum protocol srcAddress ranges

theorem sinksQueue_withIngress {rs : Ruleset α} :
    SinksQueue rs (withIngress rs queueNum interface ranges) queueNum .preRouting
      (IngressPacket interface ranges) :=
  sinksQueue_withSinks (fun _ => rfl) (fun _ _ => verdict_ingressChain) fun _ => ingressPacket_iff

theorem sinksQueue_withEgress {rs : Ruleset α} :
    SinksQueue rs (withEgress rs queueNum srcAddress ranges) queueNum .out (EgressPacket srcAddress ranges) :=
  sinksQueue_withSinks (fun _ => rfl) (fun _ _ => verdict_egressChain) fun _ => egressPacket_iff

/-- One call for each protocol, whichever comes first. -/
theorem withSinks_of_calls {rs rs₁ rs₂ : Ruleset α} (chain : Protocol → Chain) {first second : Protocol}
    (hboth : first = .TCP ∧ second = .UDP ∨ first = .UDP ∧ second = .TCP)
    (h₁ : ∃ table, tableName queueNum first = .ok table ∧
      rs₁ = Function.update rs table (some (sinkTable (chain first))))
    (h₂ : ∃ table, tableName queueNum second = .ok table ∧
      rs₂ = Function.update rs₁ table (some (sinkTable (chain second)))) : rs₂ = withSinks rs queueNum chain := by
  obtain ⟨t₁, ht₁, rfl⟩ := h₁
  obtain ⟨t₂, ht₂, rfl⟩ := h₂
  rcases hboth with ⟨rfl, rfl⟩ | ⟨rfl, rfl⟩
  · cases ht₁
    cases ht₂
    rfl
  · cases ht₁
    cases ht₂
    exact withSinks_comm

/-- **The sinks queue exactly the packets that they are for.** -/
theorem sinks_queue_exactly (rs : Ruleset α) (b₁ b₂ : Bool) {first second : Protocol}
    (hboth : first = .TCP ∧ second = .UDP ∨ first = .UDP ∧ second = .TCP) {h₁ h₂ : SetupHistory} :
    (∀ interface : String,
      Exec (addIngressNetfilterPacketsSink queueNum interface first ranges) h₁ (.done (.ok b₁)) →
      Exec (addIngressNetfilterPacketsSink queueNum interface second ranges) h₂ (.done (.ok b₂)) →
      SinksQueue rs (ruleset rs (h₁ ++ h₂)) queueNum .preRouting (IngressPacket interface.toUTF8.toList ranges)) ∧
    (∀ srcAddress : Ipv4Addr,
      Exec (addEgressNetfilterPacketsSink queueNum first srcAddress ranges) h₁ (.done (.ok b₁)) →
      Exec (addEgressNetfilterPacketsSink queueNum second srcAddress ranges) h₂ (.done (.ok b₂)) →
      SinksQueue rs (ruleset rs (h₁ ++ h₂)) queueNum .out (EgressPacket srcAddress ranges)) := by
  constructor
  · intro interface hx₁ hx₂
    have hr₁ := (triple_ruleset_addIngress (E := anyEnv) (I := fun _ => True) rs rs
      fun _ _ => trivial).returned rfl hx₁ trivial
    have hr₂ := (triple_ruleset_addIngress (E := anyEnv) (I := fun _ => True) (ruleset rs h₁) _
      fun _ _ => trivial).returned
      rfl hx₂ trivial
    have hboth' :=
      withSinks_of_calls (fun protocol => ingressChain queueNum interface.toUTF8.toList protocol ranges)
      hboth hr₁ hr₂
    rw [ruleset_append, hboth']
    exact sinksQueue_withIngress
  · intro srcAddress hx₁ hx₂
    have hr₁ := (triple_ruleset_addEgress (E := anyEnv) (I := fun _ => True) rs rs
      fun _ _ => trivial).returned rfl hx₁ trivial
    have hr₂ := (triple_ruleset_addEgress (E := anyEnv) (I := fun _ => True) (ruleset rs h₁) _
      fun _ _ => trivial).returned
      rfl hx₂ trivial
    have hboth' :=
      withSinks_of_calls (fun protocol => egressChain queueNum protocol srcAddress ranges) hboth hr₁ hr₂
    rw [ruleset_append, hboth']
    exact sinksQueue_withEgress

/-- A table of the same name and one of another are there before. -/
def staleRuleset : Ruleset Unit := fun name =>
  if name = "glycerine-tcp-7" ∨ name = "filter" then some ⟨[], [()]⟩ else none

/-- A range inside another, the calls in either order. -/
theorem nested_ranges_queue :
    SinksQueue staleRuleset (ruleset staleRuleset
      ([⟨.sendBatch (ingressBatch 7 "glycerine-tcp-7" [101, 116, 104, 48] .TCP [(443, 443), (400, 500)]), .ok ()⟩] ++
        [⟨.sendBatch (ingressBatch 7 "glycerine-udp-7" [101, 116, 104, 48] .UDP [(443, 443), (400, 500)]),
          .ok ()⟩]))
      7 .preRouting (IngressPacket "eth0".toUTF8.toList [(443, 443), (400, 500)]) ∧
    SinksQueue staleRuleset (ruleset staleRuleset
      ([⟨.sendBatch (egressBatch 7 "glycerine-udp-7" .UDP ⟨10, 0, 0, 2⟩ [(443, 443), (400, 500)]), .ok ()⟩] ++
        [⟨.sendBatch (egressBatch 7 "glycerine-tcp-7" .TCP ⟨10, 0, 0, 2⟩ [(443, 443), (400, 500)]), .ok ()⟩]))
      7 .out (EgressPacket ⟨10, 0, 0, 2⟩ [(443, 443), (400, 500)]) :=
  ⟨(sinks_queue_exactly staleRuleset true true (.inl ⟨rfl, rfl⟩)).1 "eth0" (exec_of_script 10 (by decide +kernel))
    (exec_of_script 10 (by decide +kernel)),
   (sinks_queue_exactly staleRuleset true true (.inr ⟨rfl, rfl⟩)).2 ⟨10, 0, 0, 2⟩
     (exec_of_script 10 (by decide +kernel))
    (exec_of_script 10 (by decide +kernel))⟩

end

end Glycerine
