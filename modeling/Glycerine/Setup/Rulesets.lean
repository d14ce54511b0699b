import Glycerine.Setup.Enclave
import Glycerine.Setup.Host
import Glycerine.Setup.Sinks
/-
# What setups leave in the ruleset

A setup leaves the two tables of its queue number as it wants them, whatever was there, and touches no other
(`ruleset_of_setup`). After several setups on one machine each queue number therefore has the sinks of the last
configuration with that number: `setups_last_of_queue`.
-/

namespace Glycerine
open Interact Nftables Machine

/-! ## One setup -/

section
variable {α : Type}

theorem rulesetStep_other (rs : Ruleset α) {e : Event kernelSig} (he : e.1.component ≠ some .ruleset) :
    rulesetStep rs e = rs := by
  obtain ⟨op, r⟩ := e
  cases op with
  | sendBatch b => exact absurd rfl he
  | _ => rfl

theorem ignores_ruleset {c : Component} (hc : c ≠ .ruleset) (rs r : Ruleset α) :
    Ignores c fun h => ruleset rs h = r := by
  intro h e he hr
  rw [ruleset_snoc, hr]
  refine rulesetStep_other r ?_
  rcases he with he | he <;> simp [he, hc]

theorem CliHost.triple_setup_ruleset (cfg : CliHost) (rs : Ruleset α) :
    Triple anyEnv (fun _ => True) (fun h => ruleset rs h = rs) cfg.setup
      (Leaves (fun _ => True) fun _ h => cfg.ensureNoPortOverlaps = .ok () ∧ ruleset rs h =
        withIngress rs cfg.ingressNetfilterQueueNum cfg.interface.toUTF8.toList
          (cfg.dstPorts.map PortRange.pair)) := by
  let chain (protocol : Protocol) : Chain :=
    ingressChain cfg.ingressNetfilterQueueNum cfg.interface.toUTF8.toList protocol
      (cfg.dstPorts.map PortRange.pair)
  refine cfg.triple_setup (P := fun k h => match k with
    | 0 | 1 => ruleset rs h = rs
    | 2 => ruleset rs h =
        Function.update rs (tcpTable cfg.ingressNetfilterQueueNum) (some (sinkTable (chain .TCP)))
    | _ => ruleset rs h = withSinks rs cfg.ingressNetfilterQueueNum chain) (fun _ _ => trivial)
        (fun _ => ?_) ?_ ?_
  · exact (concerns_setEphemeralPorts _ _).triple (ignores_ruleset (by decide) rs rs) fun _ _ => trivial
  · refine leaves_mono (triple_ruleset_addIngress rs rs fun _ _ => trivial) fun _ h _ ⟨table, ht, hr⟩ => ?_
    cases ht
    exact hr
  · refine leaves_mono (triple_ruleset_addIngress rs _ fun _ _ => trivial) fun _ h _ ⟨table, ht, hr⟩ => ?_
    cases ht
    exact hr

/-- **What a successful setup of the host leaves in the ruleset.** -/
theorem CliHost.ruleset_of_setup {cfg : CliHost} {h : SetupHistory} (rs : Ruleset α)
    (hx : Exec cfg.setup h (.done (.ok ()))) : ruleset rs h =
      withIngress rs cfg.ingressNetfilterQueueNum cfg.interface.toUTF8.toList (cfg.dstPorts.map PortRange.pair) :=
  ((cfg.triple_setup_ruleset rs).returned rfl hx trivial).2

variable {parseNetwork : String → Option Ipv4Network} {bootstrap : Record}

/-- The chain of one of the enclave's sinks. -/
def CliEnclave.chain (cfg : CliEnclave) (bootstrap : Record) (a : Ipv4Network) (protocol : Protocol) : Chain :=
  egressChain cfg.egressNetfilterQueueNum protocol a.ip bootstrap.ports.srcPorts

theorem CliEnclave.triple_setup_ruleset (cfg : CliEnclave) {E : Env kernelSig} {I : SetupHistory → Prop}
    (rs : Ruleset α)
    {a : Ipv4Network} (ha : parseNetwork bootstrap.interface.ipv4NetworkAddress = some a)
    (hI : ∀ h, ruleset rs h = rs → I h)
    (hI' : ∀ h, ruleset rs h = Function.update rs (tcpTable cfg.egressNetfilterQueueNum)
      (some (sinkTable (cfg.chain bootstrap a .TCP))) → I h) :
    Triple E I (fun h => ruleset rs h = rs) (cfg.setup parseNetwork bootstrap)
      (Leaves I fun _ h => ruleset rs h = withSinks rs cfg.egressNetfilterQueueNum (cfg.chain bootstrap a)) := by
  have hsame {β : Type} {c : Component} {p : Setup Error β} (hp : Concerns c p) (hc : c ≠ .ruleset) :
      Triple E I (fun h => ruleset rs h = rs) p (Leaves I fun _ h => ruleset rs h = rs) :=
    hp.triple (ignores_ruleset hc rs rs) hI
  refine CliEnclave.triple_setup (P := fun k h => match k with
    | 0 | 1 | 2 | 3 | 4 | 5 => ruleset rs h = rs
    | 6 => ruleset rs h = Function.update rs (tcpTable cfg.egressNetfilterQueueNum)
      (some (sinkTable (cfg.chain bootstrap a .TCP)))
    | _ => ruleset rs h = withSinks rs cfg.egressNetfilterQueueNum (cfg.chain bootstrap a)) ha hI ?_ ?_ ?_ ?_
        ?_ ?_ ?_
  · exact hsame (concerns_bringInterfaceUp _) (by decide)
  · exact hsame (concerns_addIpv4InterfaceAddress _ _) (by decide)
  · exact hsame (concerns_ensureDefaultIpv4Route _ _) (by decide)
  · exact hsame (concerns_setMtu _ _) (by decide)
  · exact hsame (concerns_setEphemeralPorts _ _) (by decide)
  · refine leaves_mono (triple_ruleset_addEgress rs rs hI) fun _ h _ ⟨table, ht, hr⟩ => ?_
    cases ht
    exact hr
  · refine leaves_mono (triple_ruleset_addEgress rs _ hI') fun _ h _ ⟨table, ht, hr⟩ => ?_
    cases ht
    exact hr

/-- **What a successful setup of the enclave leaves in the ruleset.** -/
theorem CliEnclave.ruleset_of_setup {cfg : CliEnclave} {h : SetupHistory} (rs : Ruleset α)
    (hx : Exec (cfg.setup parseNetwork bootstrap) h (.done (.ok ()))) :
    ∃ a, parseNetwork bootstrap.interface.ipv4NetworkAddress = some a ∧
      ruleset rs h = withEgress rs cfg.egressNetfilterQueueNum a.ip bootstrap.ports.srcPorts := by
  obtain ⟨a, ha⟩ := CliEnclave.parsed_of_setup hx
  have ht := cfg.triple_setup_ruleset (E := anyEnv) (I := fun _ => True) rs ha (fun _ _ => trivial)
    fun _ _ => trivial
  exact ⟨a, ha, ht.returned rfl hx trivial⟩

theorem CliHost.setup_queues {cfg : CliHost} {h : SetupHistory} (rs : Ruleset α)
    (hx : Exec cfg.setup h (.done (.ok ()))) :
    SinksQueue rs (ruleset rs h) cfg.ingressNetfilterQueueNum .preRouting
      (IngressPacket cfg.interface.toUTF8.toList (cfg.dstPorts.map PortRange.pair)) := by
  rw [CliHost.ruleset_of_setup rs hx]
  exact sinksQueue_withIngress

theorem CliEnclave.setup_queues {cfg : CliEnclave} {h : SetupHistory} (rs : Ruleset α)
    (hx : Exec (cfg.setup parseNetwork bootstrap) h (.done (.ok ()))) :
    ∃ a, parseNetwork bootstrap.interface.ipv4NetworkAddress = some a ∧ SinksQueue rs (ruleset rs h)
      cfg.egressNetfilterQueueNum .out (EgressPacket a.ip bootstrap.ports.srcPorts) := by
  obtain ⟨a, ha, hr⟩ := CliEnclave.ruleset_of_setup rs hx
  refine ⟨a, ha, ?_⟩
  rw [hr]
  exact sinksQueue_withEgress

end

/-! ## Several setups -/

section
variable {α κ : Type} {queueNum : κ → UInt16} {hook : Hook} {M : κ → Packet → Prop}

/-- The sinks of each queue number are those of the last configuration with that number, and tables that are named
after none of the numbers are as they were. -/
structure LastOfQueue (queueNum : κ → UInt16) (hook : Hook) (M : κ → Packet → Prop) (before after : Ruleset α)
    (cfgs : List κ) : Prop where
  last : ∀ earlier cfg later, cfgs = earlier ++ cfg :: later → (∀ c ∈ later, queueNum c ≠ queueNum cfg) →
    SinksDecide after (queueNum cfg) hook (M cfg)
  others : ∀ name, (∀ c ∈ cfgs, name ≠ tcpTable (queueNum c) ∧ name ≠ udpTable (queueNum c)) →
    after name = before name

/-- A setup for each configuration, one after the other. -/
def Queues (α : Type) (queueNum : κ → UInt16) (hook : Hook) (M : κ → Packet → Prop)
    (runs : List (κ × SetupHistory)) : Prop :=
  ∀ r ∈ runs, ∀ rs : Ruleset α, SinksQueue rs (ruleset rs r.2) (queueNum r.1) hook (M r.1)

theorem Queues.others {runs : List (κ × SetupHistory)} (hruns : Queues α queueNum hook M runs)
    (rs : Ruleset α) {name : String}
    (hname : ∀ r ∈ runs, name ≠ tcpTable (queueNum r.1) ∧ name ≠ udpTable (queueNum r.1)) :
    ruleset rs (runs.flatMap Prod.snd) name = rs name := by
  induction runs generalizing rs with
  | nil => rfl
  | cons r runs ih =>
    obtain ⟨ht, hu⟩ := hname r (by simp)
    rw [List.flatMap_cons, ruleset_append, ih (fun r' hr' => hruns r' (by simp [hr'])) _
      fun r' hr' => hname r' (by simp [hr']),
      (hruns r (by simp) rs).others name ht hu]

/-- The setups after the last one with a queue number leave its tables alone. -/
theorem Queues.lastOfQueue {runs : List (κ × SetupHistory)} (hruns : Queues α queueNum hook M runs)
    (rs : Ruleset α) :
    LastOfQueue queueNum hook M rs (ruleset rs (runs.flatMap Prod.snd)) (runs.map Prod.fst) where
  last earlier cfg later heq hlater := by
    obtain ⟨runs₁, runs₂, rfl, -, h₂⟩ := List.map_eq_append_iff.1 heq
    obtain ⟨r, runs₃, rfl, rfl, rfl⟩ := List.map_eq_cons_iff.1 h₂
    have hne : ∀ r' ∈ runs₃, queueNum r.1 ≠ queueNum r'.1 := fun r' hr' h =>
      hlater r'.1 (List.mem_map_of_mem hr') h.symm
    have hdecide := hruns r (by simp) (ruleset rs (runs₁.flatMap Prod.snd))
    have hruns₃ : Queues α queueNum hook M runs₃ := fun r' hr' => hruns r' (by simp [hr'])
    rw [List.flatMap_append, List.flatMap_cons, ruleset_append, ruleset_append]
    refine hdecide.toSinksDecide.congr ?_ ?_
    · exact hruns₃.others _ fun r' hr' => ⟨fun h => hne r' hr' (tcpTable_inj.1 h), tcpTable_ne_udpTable _ _⟩
    · exact hruns₃.others _
        fun r' hr' => ⟨(tcpTable_ne_udpTable _ _).symm, fun h => hne r' hr' (udpTable_inj.1 h)⟩
  others name hname := hruns.others rs fun r hr => hname r.1 (List.mem_map_of_mem hr)

end

theorem lastOfQueue_hosts {α : Type} {runs : List (CliHost × SetupHistory)}
    (hruns : ∀ r ∈ runs, Exec r.1.setup r.2 (.done (.ok ()))) (rs : Ruleset α) :
    LastOfQueue CliHost.ingressNetfilterQueueNum .preRouting
      (fun cfg => IngressPacket cfg.interface.toUTF8.toList (cfg.dstPorts.map PortRange.pair))
      rs (ruleset rs (runs.flatMap Prod.snd)) (runs.map Prod.fst) :=
  Queues.lastOfQueue (fun r hr rs => CliHost.setup_queues rs (hruns r hr)) rs

/-- **Each queue number has the sinks of the last setup with that number**, on the host and in the enclave. -/
theorem setups_last_of_queue {α : Type} (rs : Ruleset α) :
    (∀ runs : List (CliHost × SetupHistory), (∀ r ∈ runs, Exec r.1.setup r.2 (.done (.ok ()))) →
      LastOfQueue CliHost.ingressNetfilterQueueNum .preRouting
        (fun cfg => IngressPacket cfg.interface.toUTF8.toList (cfg.dstPorts.map PortRange.pair))
        rs (ruleset rs (runs.flatMap Prod.snd)) (runs.map Prod.fst)) ∧
    (∀ (parseNetwork : String → Option Ipv4Network) (runs : List ((CliEnclave × Record) × SetupHistory)),
      (∀ r ∈ runs, Exec (r.1.1.setup parseNetwork r.1.2) r.2 (.done (.ok ()))) →
      LastOfQueue (fun c => c.1.egressNetfilterQueueNum) .out
        (fun c p => ∃ a, parseNetwork c.2.interface.ipv4NetworkAddress = some a ∧
          EgressPacket a.ip c.2.ports.srcPorts p)
        rs (ruleset rs (runs.flatMap Prod.snd)) (runs.map Prod.fst)) := by
  constructor
  · exact fun runs hruns => lastOfQueue_hosts hruns rs
  · intro parseNetwork runs hruns
    refine Queues.lastOfQueue (fun r hr rs => ?_) rs
    obtain ⟨a, ha, hq⟩ := CliEnclave.setup_queues rs (hruns r hr)
    have hM : (fun p => ∃ b, parseNetwork r.1.2.interface.ipv4NetworkAddress = some b ∧
      EgressPacket b.ip r.1.2.ports.srcPorts p) =
        EgressPacket a.ip r.1.2.ports.srcPorts := by
      funext p
      simp [ha]
    rw [hM]
    exact hq

/-! Two setups of a host with different queue numbers -/

/-- A host that serves one port of its enclave. -/
def servingHost (port queueNum : UInt16) : CliHost where
  interface := "ens5"
  enclavePorts := [.single port]
  enclaveEphemeralPorts := .single 50000
  hostEphemeralPorts := .single 40000
  bootstrapVsockAddress := .vsock 3 4000
  ingressNetfilterQueueNum := queueNum
  ingressVsockAddress := .vsock 4 8000

/-- Its setup, where the ephemeral ports are as they should be. -/
def servingSetup (port queueNum : UInt16) : SetupHistory :=
  [⟨.readLocalPortRange, .ok "40000\t40000\n"⟩,
    ⟨.sendBatch (ingressBatch queueNum (tcpTable queueNum) [101, 110, 115, 53] .TCP
      [(port, port), (50000, 50000)]), .ok ()⟩,
    ⟨.sendBatch (ingressBatch queueNum (udpTable queueNum) [101, 110, 115, 53] .UDP
      [(port, port), (50000, 50000)]), .ok ()⟩]

/-- A machine without tables. -/
def noTables : Ruleset Unit := fun _ => none

def renumbered : List (CliHost × SetupHistory) :=
  [(servingHost 443 0, servingSetup 443 0), (servingHost 8443 1, servingSetup 8443 1)]

theorem renumbered_exec : ∀ r ∈ renumbered, Exec r.1.setup r.2 (.done (.ok ())) := by
  intro r hr
  rcases List.mem_cons.1 hr with rfl | hr
  · exact exec_of_script 100 (by decide +kernel)
  · obtain rfl := List.mem_singleton.1 hr
    exact exec_of_script 100 (by decide +kernel)

theorem renumbered_last : LastOfQueue CliHost.ingressNetfilterQueueNum .preRouting
    (fun cfg => IngressPacket cfg.interface.toUTF8.toList (cfg.dstPorts.map PortRange.pair))
    noTables (ruleset noTables (renumbered.flatMap Prod.snd)) (renumbered.map Prod.fst) :=
  (setups_last_of_queue noTables).1 renumbered renumbered_exec

/-- Only the last configuration has rules. -/
def OnlyLast {α : Type} (rs : Ruleset α) (cfg : CliHost) : Prop :=
  ∀ (num : UInt16) p, .queue num.toNat ∈ sinkVerdicts rs num .preRouting p ↔
    num = cfg.ingressNetfilterQueueNum ∧
      IngressPacket cfg.interface.toUTF8.toList (cfg.dstPorts.map PortRange.pair) p

/-- A packet to port 443. -/
def stalePacket : Packet := ⟨[101, 110, 115, 53], 6, [], [156, 64, 1, 187]⟩

/-- The rules of the first configuration are still there. -/
theorem stale_rules_remain :
    ¬ ∀ runs : List (CliHost × SetupHistory), (∀ r ∈ runs, Exec r.1.setup r.2 (.done (.ok ()))) →
    ∀ earlier cfg h, runs = earlier ++ [(cfg, h)] →
      OnlyLast (ruleset noTables (runs.flatMap Prod.snd)) cfg := by
  intro hall
  have honly :=
    hall renumbered renumbered_exec [(servingHost 443 0, servingSetup 443 0)] (servingHost 8443 1) _ rfl
  have hstale := (lastOfQueue_hosts renumbered_exec noTables).last [] (servingHost 443 0) [servingHost 8443 1] rfl
    (by decide)
  have hmatch :
    IngressPacket (servingHost 443 0).interface.toUTF8.toList ((servingHost 443 0).dstPorts.map PortRange.pair)
      stalePacket := by
    refine ⟨.inl rfl, by decide +kernel, 443, by decide, (443, 443), by decide, ?_⟩
    simp
  have hnum := ((honly 0 stalePacket).1 ((hstale.queued stalePacket).2 hmatch)).1
  exact absurd hnum (by decide)

end Glycerine
