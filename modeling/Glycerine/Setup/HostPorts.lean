import Glycerine.Setup.Host
import Glycerine.Setup.Sinks
/-
# Which packets the host diverts

`ensure_no_port_overlaps` looks whether an end of an enclave range lies in the ephemeral range of the host. Two
ranges can also meet because the enclave's encloses the host's, and then the check passes and `setup` diverts the
host's own connections: `setup_spares_host_iff`.
-/

namespace Glycerine
open Interact Nftables Machine

/-! ## What `setup` installs -/

/-- The rules of the batches that were accepted. -/
def installed : SetupHistory → List Rule :=
  List.flatMap fun
    | ⟨.sendBatch batch, .ok ()⟩ => batch.rules
    | _ => []

theorem installed_append (h t : SetupHistory) : installed (h ++ t) = installed h ++ installed t :=
  List.flatMap_append

/-- Only batches install rules. -/
theorem installed_other {e : Event kernelSig} (he : e.1.component ≠ some .ruleset) : installed [e] = [] := by
  obtain ⟨op, r⟩ := e
  cases op with
  | sendBatch b => exact absurd rfl he
  | _ => rfl

theorem rules_ingressBatch (queueNum : UInt16) (table : String) (interface : Bytes) (protocol : Protocol)
    (ranges : List (UInt16 × UInt16)) :
    (ingressBatch queueNum table interface protocol ranges).rules = ranges.map
    (ingressRule queueNum interface protocol) := by
  unfold ingressBatch Batch.rules
  rw [List.flatMap_append, List.flatMap_map, List.map_eq_flatMap]
  rfl

theorem triple_installs (queueNum : UInt16) (interface : String) (protocol : Protocol)
    (ranges : List (UInt16 × UInt16)) (rs : List Rule) :
    Triple anyEnv (fun _ => True) (fun h => installed h = rs)
      (addIngressNetfilterPacketsSink queueNum interface protocol ranges)
      (Leaves (fun _ => True) fun _ h => ∃ i, cString interface = .ok i ∧
        installed h = rs ++ ranges.map (ingressRule queueNum i protocol)) := by
  refine triple_addIngress (fun _ _ => trivial) (fun _ _ _ _ _ => trivial) fun i table h hi _ hr _ => ⟨i, hi, ?_⟩
  rw [installed_append, hr, ← rules_ingressBatch]
  exact congrArg _ (List.append_nil _)

namespace CliHost

/-- The rules of the ingress tables. -/
def ingressRules (cfg : CliHost) (interface : Bytes) : List Rule :=
  (cfg.dstPorts.map PortRange.pair).map (ingressRule cfg.ingressNetfilterQueueNum interface .TCP) ++
    (cfg.dstPorts.map PortRange.pair).map (ingressRule cfg.ingressNetfilterQueueNum interface .UDP)

theorem triple_setup_installs (cfg : CliHost) :
    Triple anyEnv (fun _ => True) (fun h => installed h = []) cfg.setup
      (Leaves (fun _ => True) fun _ h => cfg.ensureNoPortOverlaps = .ok () ∧
        ∃ i, cString cfg.interface = .ok i ∧ installed h = cfg.ingressRules i) := by
  refine cfg.triple_setup (P := fun k h => match k with
    | 0 | 1 => installed h = []
    | 2 => ∃ i, cString cfg.interface = .ok i ∧
      installed h = (cfg.dstPorts.map PortRange.pair).map (ingressRule cfg.ingressNetfilterQueueNum i .TCP)
    | _ => ∃ i, cString cfg.interface = .ok i ∧ installed h = cfg.ingressRules i) (fun _ _ => trivial)
        (fun _ => ?_) ?_ ?_
  · refine (concerns_setEphemeralPorts _ _).triple (fun h e he hr => ?_) fun _ _ => trivial
    show installed (h ++ [e]) = []
    rw [installed_append, hr, installed_other (by rcases he with he | he <;> simp [he])]
    rfl
  · exact triple_installs _ _ .TCP (cfg.dstPorts.map PortRange.pair) []
  · refine triple_exists fun i => triple_of_fact fun hi => ?_
    refine leaves_mono (triple_installs _ _ .UDP (cfg.dstPorts.map PortRange.pair) _) fun _ h _ ⟨j, hj, hr⟩ => ?_
    rw [hi] at hj
    cases hj
    exact ⟨i, hi, hr⟩

/-- A successful setup has passed the check and installed one rule for each protocol and range. -/
theorem setup_installs {cfg : CliHost} {h : SetupHistory} (hx : Exec cfg.setup h (.done (.ok ()))) :
    cfg.ensureNoPortOverlaps = .ok () ∧ ∃ i, cString cfg.interface = .ok i ∧ installed h = cfg.ingressRules i :=
  cfg.triple_setup_installs.returned rfl hx trivial

/-! ## The check and the rules -/

/-- The check is exact, and no rule of an accepted configuration matches a packet to an ephemeral port of the
host. -/
structure SparesHost (cfg : CliHost) : Prop where
  check : cfg.ensureNoPortOverlaps = .ok () ↔ ∀ p ∈ cfg.hostEphemeralPorts, ∀ r ∈ cfg.dstPorts, p ∉ r
  rules : ∀ h, Exec cfg.setup h (.done (.ok ())) → ∀ rule ∈ installed h, ∀ p d, dport p = some d →
    d ∈ Set.Icc cfg.hostEphemeralPorts.first.toNat cfg.hostEphemeralPorts.last.toNat → rule.queueOf p = none

theorem mem_ingressRules {cfg : CliHost} {interface : Bytes} {rule : Rule}
    (h : rule ∈ cfg.ingressRules interface) :
    ∃ r ∈ cfg.dstPorts, ∃ protocol, rule =
      ingressRule cfg.ingressNetfilterQueueNum interface protocol r.pair := by
  unfold ingressRules at h
  rw [List.map_map, List.map_map] at h
  rcases List.mem_append.1 h with h | h
  · obtain ⟨r, hr, rfl⟩ := List.mem_map.1 h
    exact ⟨r, hr, .TCP, rfl⟩
  · obtain ⟨r, hr, rfl⟩ := List.mem_map.1 h
    exact ⟨r, hr, .UDP, rfl⟩

/-- Ranges without a common port have rules without a common packet. -/
theorem queueOf_eq_none {r s : PortRange} (hdisj : ∀ p ∈ s, p ∉ r) {queueNum : UInt16} {interface : Bytes}
    {protocol : Protocol} {p : Packet} {d : Nat} (hd : dport p = some d)
    (hmem : d ∈ Set.Icc s.first.toNat s.last.toNat) :
    (ingressRule queueNum interface protocol r.pair).queueOf p = none := by
  refine Option.eq_none_iff_forall_ne_some.2 fun q hq => ?_
  obtain ⟨-, -, ⟨d', hd', hr⟩, -⟩ := queueOf_ingressRule.1 hq
  rw [hd] at hd'
  cases hd'
  have hport : (UInt16.ofNat d).toNat = d :=
    UInt16.toNat_ofNat_of_lt' (Nat.lt_of_le_of_lt hmem.2 s.last.toNat_lt)
  exact hdisj (UInt16.ofNat d) (PortRange.mem_iff.2 (hport.symm ▸ hmem)) (PortRange.mem_iff.2 (hport.symm ▸ hr))

/-- **The host's own traffic is spared exactly when no range of the enclave encloses the host's**, or the
configuration is rejected because of another range. -/
theorem setup_spares_host_iff (cfg : CliHost) :
    cfg.SparesHost ↔ (∀ r ∈ cfg.dstPorts, ¬ r.Encloses cfg.hostEphemeralPorts) ∨
      ∃ r ∈ cfg.dstPorts, r.EndIn cfg.hostEphemeralPorts := by
  have hcommon : ∀ r ∈ cfg.dstPorts, r.EndIn cfg.hostEphemeralPorts ∨ r.Encloses cfg.hostEphemeralPorts →
      ¬ ∀ p ∈ cfg.hostEphemeralPorts, ∀ r ∈ cfg.dstPorts, p ∉ r := by
    intro r hr hmeet hall
    obtain ⟨p, hp, hpr⟩ := PortRange.common_iff.2 hmeet
    exact hall p hp r hr hpr
  constructor
  · intro h
    by_cases hend : ∃ r ∈ cfg.dstPorts, r.EndIn cfg.hostEphemeralPorts
    · exact .inr hend
    · refine .inl fun r hr henc => hcommon r hr (.inr henc)
        (h.check.1 (ensureNoPortOverlaps_eq_ok.2 fun r hr hin => ?_))
      exact hend ⟨r, hr, hin⟩
  · intro h
    have hcheck : cfg.ensureNoPortOverlaps = .ok () ↔
        ∀ p ∈ cfg.hostEphemeralPorts, ∀ r ∈ cfg.dstPorts, p ∉ r := by
      rw [ensureNoPortOverlaps_eq_ok]
      constructor
      · intro hends p hp r hr hpr
        rcases h with henc | ⟨r', hr', hin⟩
        · rcases PortRange.common_iff.1 ⟨p, hp, hpr⟩ with hin | hmeet
          · exact hends r hr hin
          · exact henc r hr hmeet
        · exact hends r' hr' hin
      · intro hall r hr hin
        exact hcommon r hr (.inl hin) hall
    refine ⟨hcheck, fun t hx rule hrule p d hd hmem => ?_⟩
    obtain ⟨hok, i, -, hrules⟩ := setup_installs hx
    rw [hrules] at hrule
    obtain ⟨r, hr, protocol, rfl⟩ := mem_ingressRules hrule
    exact queueOf_eq_none (fun p hp => hcheck.1 hok p hp r hr) hd hmem

/-- The enclave is given the ephemeral ports that Linux uses by default, the host a part of them. -/
def enclosing : CliHost where
  interface := "ens5"
  enclavePorts := []
  enclaveEphemeralPorts := ⟨30000, 60999, by decide⟩
  hostEphemeralPorts := ⟨32768, 39999, by decide⟩
  bootstrapVsockAddress := .vsock 3 4000
  ingressNetfilterQueueNum := 0
  ingressVsockAddress := .vsock 4 8000

/-- A run of its setup. -/
def enclosingSetup : SetupHistory :=
  [⟨.readLocalPortRange, .ok "32768\t60999\n"⟩, ⟨.writeLocalPortRange "32768 39999\n", .ok ()⟩,
    ⟨.sendBatch (ingressBatch 0 "glycerine-tcp-0" [101, 110, 115, 53] .TCP [(30000, 60999)]), .ok ()⟩,
    ⟨.sendBatch (ingressBatch 0 "glycerine-udp-0" [101, 110, 115, 53] .UDP [(30000, 60999)]), .ok ()⟩]

/-- An answer to a connection that the host has opened from port 35000. -/
def answerPacket : Packet := ⟨[101, 110, 115, 53], 6, [], [1, 187, 136, 184]⟩

/-- The check accepts a range that encloses the host's, and the answer is diverted. -/
theorem enclosing_range_diverts :
    enclosing.ensureNoPortOverlaps = .ok () ∧ Exec enclosing.setup enclosingSetup (.done (.ok ())) ∧
      dport answerPacket = some 35000 ∧ (∃ rule ∈ installed enclosingSetup, rule.queueOf answerPacket = some 0) ∧
      ¬ ∀ cfg : CliHost, cfg.SparesHost := by
  have hok : enclosing.ensureNoPortOverlaps = .ok () := by decide
  refine ⟨hok, exec_of_script 100 (by decide +kernel), by decide, by decide, fun hall => ?_⟩
  have hdisj := (hall enclosing).check.1 hok 35000 (by decide) enclosing.enclaveEphemeralPorts (by decide)
  exact hdisj (by decide)

end CliHost
end Glycerine
