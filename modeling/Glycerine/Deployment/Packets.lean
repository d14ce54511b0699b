import Glycerine.Deployment.Agreement
import Glycerine.Proxy.Tunnel
/-
# Which packets cross

If nothing but the sinks of the two setups fills the queues, then what the raw sockets of the enclave are offered came
in on the host's interface, for a port of the enclave, and what those of the host are offered has the address of that
interface and a port of the enclave for its source; each was queued at the other end, in the same order
(`only_captured_packets_cross`).
-/

namespace Glycerine
open Interact Nftables

/-- What a service has done on the system boundary of its side. -/
abbrev servedOn (x : Side) (s : Service) (d : DeployTrace) : History := sysPart (part (x, .service s) d)

/-- Only the sinks of the setup fill the queue `num` that the service reads; `seen u bs` is the packet that the rules
see of the payload `bs` that is received after `u`. -/
def FedBySinks (x : Side) (s : Service) (num : UInt16) (hook : Hook) (seen : DeployTrace → Bytes → Packet)
    (d : DeployTrace) : Prop :=
  ∃ (α : Type) (rs : Ruleset α), Always (fun u y => ∀ q m, y = ((x, .service s), ⟨.sys (.recv q), .ok m⟩) →
    .queue num.toNat ∈ sinkVerdicts (ruleset rs (kernelPart (part (x, .main) u))) num hook (seen u m.payload)) d

/-- `p` is what the rules have seen of a payload that the service has received. -/
def Captured (x : Side) (s : Service) (seen : DeployTrace → Bytes → Packet) (d : DeployTrace) (p : Packet) : Prop :=
  ∃ u v q m, d = u ++ ((x, .service s), ⟨.sys (.recv q), .ok m⟩) :: v ∧ p = seen u m.payload

namespace Deployment

/-- Both queues are fed by the sinks: the packet of the host that is received after `u` has come in on the interface
`iif u`, those of the enclave are its own. -/
structure Fed (D : Deployment) (iif : DeployTrace → Bytes) (d : DeployTrace) : Prop where
  host : FedBySinks .host .ingress D.host.ingressNetfilterQueueNum .preRouting (fun u => ipv4Packet (iif u)) d
  enclave : FedBySinks .enclave .egress D.enclave.egressNetfilterQueueNum .out (fun _ => ipv4Packet []) d

/-- The address of the host's interface. -/
def Address (D : Deployment) (a : Ipv4Network) : Prop :=
  ∃ s, D.kernel.getInterfaceAddress D.host.interface = .ok s ∧ D.parseNetwork s = some a

/-- A packet that came in on the host's interface, for a port of the enclave. -/
structure Inbound (D : Deployment) (p : Packet) : Prop where
  iifname : p.iifname = D.host.interface.toUTF8.toList
  protocol : protocolOf p.network = .TCP ∨ protocolOf p.network = .UDP
  port : ∃ port : UInt16, dport p = some port.toNat ∧ D.host.Proxied port

/-- A packet from the address of the host's interface, and from a port of the enclave. -/
structure Outbound (D : Deployment) (p : Packet) : Prop where
  protocol : protocolOf p.network = .TCP ∨ protocolOf p.network = .UDP
  source : ∃ a, D.Address a ∧ Glycerine.source p.network = a.ip.octets
  port : ∃ port : UInt16, sport p = some port.toNat ∧ D.host.Proxied port

end Deployment

/-! ## What the queues are fed with -/

theorem WellFormed.isIpv4 {bs : Bytes} (h : WellFormed bs) : IsIpv4 bs := by
  have hhead : bs.headD 0 = bs.getD 0 0 := by
    cases bs <;> rfl
  have hlen := h.headerLen
  have hihl := h.ihl
  constructor
  · unfold headerBytes
    rw [hhead]
    omega
  · unfold headerBytes
    rw [hhead]
    omega

theorem protocolOf_of_l4proto {bs : Bytes} (h : bs.getD 9 0 = 6 ∨ bs.getD 9 0 = 17) :
    protocolOf bs = .TCP ∨ protocolOf bs = .UDP := by
  unfold protocolOf
  rcases h with h | h
  · rw [h]
    exact .inl rfl
  · rw [h]
    exact .inr rfl

namespace Deployment
variable {D : Deployment} {d u : DeployTrace}

theorem inbound_of_queued {iifname bs : Bytes}
    (h : IngressPacket D.host.interface.toUTF8.toList (D.host.dstPorts.map PortRange.pair) (ipv4Packet iifname bs)) :
    D.Inbound (ipv4Packet iifname bs) :=
  ⟨h.iifname, protocolOf_of_l4proto h.protocol, exists_proxied_iff.1 h.port⟩

theorem outbound_of_queued {a : Ipv4Network} {bs : Bytes} (ha : D.Address a) (hwf : WellFormed bs)
    (h : EgressPacket a.ip (D.host.dstPorts.map PortRange.pair) (ipv4Packet [] bs)) :
    D.Outbound (ipv4Packet [] bs) := by
  have hs := h.saddr
  rw [saddr_ipv4Packet hwf.isIpv4, Option.some.injEq] at hs
  exact ⟨protocolOf_of_l4proto h.protocol, ⟨a, ha, hs⟩, exists_proxied_iff.1 h.port⟩

/-- A payload was received at some moment. -/
theorem exists_of_recvd {x : Side} {s : Service} {p : Bytes} (hp : p ∈ recvd (servedOn x s d)) :
    ∃ u v q m, d = u ++ ((x, .service s), ⟨.sys (.recv q), .ok m⟩) :: v ∧ m.payload = p := by
  obtain ⟨e, he, hmem⟩ := List.mem_flatMap.1 hp
  split at hmem
  · rename_i q m
    obtain rfl := List.mem_singleton.1 hmem
    obtain ⟨u, v, rfl⟩ := List.append_of_mem (mem_part.1 (mem_of_mem_sysPart he))
    exact ⟨u, v, q, m, rfl, rfl⟩
  · cases hmem

theorem Run.recvd_host {iif : DeployTrace → Bytes} (hrun : D.Run d) (hfed : D.Fed iif d) {bs : Bytes}
    (hbs : bs ∈ recvd (servedOn .host .ingress d)) :
    ∃ p, Captured .host .ingress (fun u => ipv4Packet (iif u)) d p ∧ p.network = bs ∧ D.Inbound p := by
  obtain ⟨u, v, q, m, rfl, rfl⟩ := exists_of_recvd hbs
  obtain ⟨α, rs, hall⟩ := hfed.host
  have hq := hall u _ v rfl q m rfl
  refine ⟨_, ⟨u, v, q, m, rfl, rfl⟩, rfl, ?_⟩
  rw [List.append_cons] at hrun
  have hupto := hrun.left.host
  rw [within_append, within_cons_self] at hupto
  have hqueued := ((host_inPlace hupto).queued rs).queued (ipv4Packet (iif u) m.payload)
  rw [part_within] at hqueued
  exact inbound_of_queued (hqueued.1 hq)

theorem Run.recvd_enclave {iif : DeployTrace → Bytes} (hD : D.Decodes) (hrun : D.Run d) (hfed : D.Fed iif d)
    {bs : Bytes} (hbs : bs ∈ recvd (servedOn .enclave .egress d)) (hwf : WellFormed bs) :
    ∃ p, Captured .enclave .egress (fun _ => ipv4Packet []) d p ∧ p.network = bs ∧ D.Outbound p := by
  obtain ⟨u, v, q, m, rfl, rfl⟩ := exists_of_recvd hbs
  obtain ⟨α, rs, hall⟩ := hfed.enclave
  have hq := hall u _ v rfl q m rfl
  refine ⟨_, ⟨u, v, q, m, rfl, rfl⟩, rfl, ?_⟩
  rw [List.append_cons] at hrun
  have hupto := hrun.left.enclave
  rw [within_append, within_cons_self] at hupto
  obtain ⟨w, hsp⟩ := (always_snoc.1 hupto.shared).2.1
  obtain ⟨r, a, hagrees, -⟩ := hrun.left.left.agrees hD hsp
  have hqueued := (hagrees.both.enclaveQueues rs).queued (ipv4Packet [] m.payload)
  exact outbound_of_queued hagrees.both.address hwf (hqueued.1 hq)

/-! ## The two tunnels -/

/-- The senders, whether or not they have been spawned. -/
theorem Run.host_sender (hrun : D.Run d) :
    ∃ o, Exec (D.host.ingress D.backoff).run (servedOn .host .ingress d) o := by
  obtain hnil | ⟨w, o, hsp, ho⟩ := served_cases hrun.host .ingress
  · rw [served, part_within] at hnil
    rw [servedOn, hnil]
    exact NfqToVsock.run_reactive.start
  obtain ⟨t₁, ws, hready, hin, -⟩ := ready_of_spawned HostArgs.command hrun.host hsp
  obtain ⟨server, -, rfl⟩ := hready.roster
  obtain rfl : w = .nfqToVsock (D.host.ingress D.backoff) := by
    simpa [HostArgs.roster] using hin
  rw [served, part_within] at ho
  exact ⟨o, ho⟩

theorem Run.enclave_sender (hD : D.Decodes) (hrun : D.Run d) :
    ∃ o, Exec (D.enclave.egress D.backoff).run (servedOn .enclave .egress d) o := by
  obtain hnil | ⟨w, o, hsp, ho⟩ := served_cases hrun.enclave .egress
  · rw [served, part_within] at hnil
    rw [servedOn, hnil]
    exact NfqToVsock.run_reactive.start
  obtain ⟨r, a, -, hin⟩ := hrun.agrees hD hsp
  obtain rfl : w = .nfqToVsock (D.enclave.egress D.backoff) := by
    simpa [EnclaveArgs.roster] using hin
  rw [served, part_within] at ho
  exact ⟨o, ho⟩

/-- The receivers. -/
theorem Run.host_receiver (hrun : D.Run d) : servedOn .host .egress d = [] ∨
    ∃ o, Exec (D.host.egress D.backoff D.host.ingressVsockAddress.cid).run (servedOn .host .egress d) o := by
  obtain hnil | ⟨w, o, hsp, ho⟩ := served_cases hrun.host .egress
  · rw [served, part_within] at hnil
    exact .inl hnil
  obtain ⟨t₁, ws, hready, hin, -⟩ := ready_of_spawned HostArgs.command hrun.host hsp
  obtain ⟨server, hnew, rfl⟩ := hready.roster
  obtain rfl : w = .vsockToIpv4 (D.host.egress D.backoff server.peerCid) := by
    simpa [HostArgs.roster] using hin
  rw [served, part_within] at ho
  rw [cid_of_expectCid (HostArgs.expectCid_of_new hnew)]
  exact .inr ⟨o, ho⟩

theorem Run.enclave_receiver (hD : D.Decodes) (hrun : D.Run d) : servedOn .enclave .ingress d = [] ∨
    ∃ a o, D.Address a ∧
      Exec (D.enclave.ingress D.backoff a D.enclave.egressVsockAddress.cid).run (servedOn .enclave .ingress d) o := by
  obtain hnil | ⟨w, o, hsp, ho⟩ := served_cases hrun.enclave .ingress
  · rw [served, part_within] at hnil
    exact .inl hnil
  obtain ⟨r, a, hagrees, hin⟩ := hrun.agrees hD hsp
  obtain rfl : w = .vsockToIpv4 (D.enclave.ingress D.backoff a D.enclave.egressVsockAddress.cid) := by
    simpa [EnclaveArgs.roster] using hin
  rw [served, part_within] at ho
  exact .inr ⟨a, o, hagrees.both.address, ho⟩

theorem Run.whole {x : Side} {s : Service} (hrun : D.Run d) : ∀ e ∈ servedOn x s d, WholeDatagram e := by
  intro e he
  refine hrun.datagrams _ (mem_part.1 (mem_of_mem_sysPart he)) e ?_
  obtain ⟨op, r⟩ := e
  exact List.mem_singleton.2 rfl

theorem Run.inbound_sublist (hD : D.Decodes) (hrun : D.Run d)
    (hwf : ∀ p ∈ recvd (servedOn .host .ingress d), WellFormed p) :
    (offered (servedOn .enclave .ingress d)).Sublist (recvd (servedOn .host .ingress d)) := by
  obtain hnil | ⟨a, o₂, -, hrcv⟩ := hrun.enclave_receiver hD
  · rw [hnil]
    exact List.nil_sublist _
  obtain ⟨o₁, hsnd⟩ := hrun.host_sender
  obtain ⟨peer, hnet⟩ := hrun.ingress
  have hl := senderPart_between (i := (Side.host, Thread.service .ingress)) (j := (.enclave, .service .ingress))
    (d := d)
  have hr := receiverPart_between (i := (Side.host, Thread.service .ingress)) (j := (.enclave, .service .ingress))
    (d := d) (by decide)
  have hjoint : JointRun (D.host.ingress D.backoff)
      (D.enclave.ingress D.backoff a D.enclave.egressVsockAddress.cid) peer
      (between (.host, .service .ingress) (.enclave, .service .ingress) d) o₁ o₂ :=
    ⟨hl ▸ hsnd, hr ▸ hrcv, hnet, hr ▸ hrun.whole⟩
  obtain ⟨blk, n, ha⟩ := hjoint.arrived (hl ▸ hwf)
  have hsub := ha.sublist
  rwa [hl, hr] at hsub

theorem Run.outbound_sublist (hD : D.Decodes) (hrun : D.Run d)
    (hwf : ∀ p ∈ recvd (servedOn .enclave .egress d), WellFormed p) :
    (offered (servedOn .host .egress d)).Sublist (recvd (servedOn .enclave .egress d)) := by
  obtain hnil | ⟨o₂, hrcv⟩ := hrun.host_receiver
  · rw [hnil]
    exact List.nil_sublist _
  obtain ⟨o₁, hsnd⟩ := hrun.enclave_sender hD
  obtain ⟨peer, hnet⟩ := hrun.egress
  have hl := senderPart_between (i := (Side.enclave, Thread.service .egress)) (j := (.host, .service .egress)) (d := d)
  have hr := receiverPart_between (i := (Side.enclave, Thread.service .egress)) (j := (.host, .service .egress))
    (d := d) (by decide)
  have hjoint : JointRun (D.enclave.egress D.backoff) (D.host.egress D.backoff D.host.ingressVsockAddress.cid) peer
      (between (.enclave, .service .egress) (.host, .service .egress) d) o₁ o₂ :=
    ⟨hl ▸ hsnd, hr ▸ hrcv, hnet, hr ▸ hrun.whole⟩
  obtain ⟨blk, n, ha⟩ := hjoint.arrived (hl ▸ hwf)
  have hsub := ha.sublist
  rwa [hl, hr] at hsub

end Deployment

/-- **Only captured packets cross**, in both directions, and in the order in which they were queued. -/
theorem only_captured_packets_cross {D : Deployment} (hD : D.Decodes) {iif : DeployTrace → Bytes} {d : DeployTrace}
    (hrun : D.Run d) (hfed : D.Fed iif d) (hin : ∀ p ∈ recvd (servedOn .host .ingress d), WellFormed p)
    (hout : ∀ p ∈ recvd (servedOn .enclave .egress d), WellFormed p) :
    ((offered (servedOn .enclave .ingress d)).Sublist (recvd (servedOn .host .ingress d)) ∧
      ∀ bs ∈ offered (servedOn .enclave .ingress d),
        ∃ p, Captured .host .ingress (fun u => ipv4Packet (iif u)) d p ∧ p.network = bs ∧ D.Inbound p) ∧
    (offered (servedOn .host .egress d)).Sublist (recvd (servedOn .enclave .egress d)) ∧
      ∀ bs ∈ offered (servedOn .host .egress d),
        ∃ p, Captured .enclave .egress (fun _ => ipv4Packet []) d p ∧ p.network = bs ∧ D.Outbound p := by
  have hi := hrun.inbound_sublist hD hin
  have ho := hrun.outbound_sublist hD hout
  refine ⟨⟨hi, ?_⟩, ho, ?_⟩
  · intro bs hbs
    exact hrun.recvd_host hfed (hi.subset hbs)
  · intro bs hbs
    exact hrun.recvd_enclave hD hfed (ho.subset hbs) (hout bs (ho.subset hbs))

/-! The request and the answer of `deployedRun` -/

namespace Demo

/-- The service `s` receives something. -/
def isRecv (x : Side) (s : Service) : (Side × Thread) × ProcEvent → Bool
  | (i, ⟨.sys (.recv _), .ok _⟩) => i = (x, .service s)
  | _ => false

/-- It is enough to look at the one moment at which the service receives something. -/
theorem fedBySinks_of_single {x : Side} {s : Service} {num : UInt16} {hook : Hook}
    {seen : DeployTrace → Bytes → Packet} {d : DeployTrace} {k : Nat}
    (hk : ∀ i (hi : i < d.length), isRecv x s d[i] = true → i = k) {q : Fd} {m : Message}
    (hm : d[k]? = some ((x, .service s), ⟨.sys (.recv q), .ok m⟩))
    (hq : .queue num.toNat ∈ sinkVerdicts (ruleset noTables (kernelPart (part (x, .main) (d.take k)))) num hook
      (seen (d.take k) m.payload)) :
    FedBySinks x s num hook seen d := by
  refine ⟨Unit, noTables, always_iff_take.2 ?_⟩
  intro i hi q' m' hy
  have hi' : i = k := by
    refine hk i hi ?_
    rw [hy]
    exact decide_eq_true rfl
  subst hi'
  rw [List.getElem?_eq_getElem hi, hy] at hm
  cases hm
  exact hq

theorem answer_queued : .queue 2 ∈ sinkVerdicts (ruleset noTables enclaveSetup) 2 .out (ipv4Packet [] answer) :=
  ((bothSetUp.enclaveQueues noTables).queued _).2
    ⟨.inl rfl, by decide, 443, by decide, (443, 443), by decide, by simp⟩

/-- The interface of the host. -/
def iifname : Bytes := [101, 110, 115, 53]

theorem deployedRun_fed : deployment.Fed (fun _ => iifname) deployedRun where
  host := fedBySinks_of_single (k := 67) (by decide +kernel) rfl (segment_queued (.inl rfl))
  enclave := fedBySinks_of_single (k := 113) (by decide +kernel) rfl answer_queued

theorem deployedRun_crosses :
    ((offered (servedOn .enclave .ingress deployedRun)).Sublist (recvd (servedOn .host .ingress deployedRun)) ∧
      ∀ bs ∈ offered (servedOn .enclave .ingress deployedRun), ∃ p,
        Captured .host .ingress (fun _ => ipv4Packet iifname) deployedRun p ∧ p.network = bs ∧ deployment.Inbound p) ∧
    (offered (servedOn .host .egress deployedRun)).Sublist (recvd (servedOn .enclave .egress deployedRun)) ∧
      ∀ bs ∈ offered (servedOn .host .egress deployedRun), ∃ p,
        Captured .enclave .egress (fun _ => ipv4Packet []) deployedRun p ∧ p.network = bs ∧ deployment.Outbound p :=
  only_captured_packets_cross decodes deployedRun_run deployedRun_fed (by decide +kernel) (by decide +kernel)

/-- Both have arrived. -/
example : offered (servedOn .enclave .ingress deployedRun) = [segment [192, 0, 2, 7]] ∧
    offered (servedOn .host .egress deployedRun) = [answer] := by decide +kernel

end Demo
end Glycerine
