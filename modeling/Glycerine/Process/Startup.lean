import Glycerine.Process.Shutdown
import Glycerine.Setup.Rulesets
/-
# What is in place when a service begins

No service does anything before the setup has succeeded, the enclave's not before the record of the host was there;
and a service uses only the addresses and the queue that it was configured with (`starts_in_place`). So a queue is
only bound where the rules for it are, and the packets for the enclave go to the address that the host has given.
-/

namespace Glycerine
open Interact

/-! ## What a service uses -/

/-- The queue of a service and its maximal length, and the addresses and the interface that it uses. -/
structure Endpoints where
  queue : Option (Nat × Nat) := none
  connectTo : Option SockAddr := none
  listenOn : Option SockAddr := none
  device : Option String := none
  sink : Option SockAddr := none
deriving DecidableEq

def Endpoints.Uses (x : Endpoints) : SysOp → Prop
  | .queueBind _ num => ∃ len, x.queue = some (num, len)
  | .setQueueMaxLen _ num len => x.queue = some (num, len)
  | .connect _ a => x.connectTo = some a
  | .bind _ a => x.listenOn = some a
  | .bindDevice _ i => x.device = some i
  | .sendTo _ _ a => x.sink = some a
  | _ => True

def Worker.endpoints : Worker → Endpoints
  | .bootstrap server => { listenOn := some server.listenAddress }
  | .nfqToVsock proxy =>
    { queue := some (proxy.cfg.netfilterQueueNum, proxy.cfg.netfilterQueueMaxLen)
      connectTo := some proxy.cfg.forwardAddress }
  | .vsockToIpv4 proxy =>
    { listenOn := some proxy.cfg.listenAddress
      device := some proxy.cfg.ipv4Interface
      sink := some proxy.cfg.ipv4SinkAddress }

section
open Task
variable {x : Endpoints} {α : Type}

theorem uses_withBackoff {b : ExponentialBackoff} {op : Sys Error α} (hop : Only x.Uses op) :
    Only x.Uses (withBackoff b op) := by
  refine only_mapErr.2 (only_bind.2 ⟨trivial, fun start => only_loop.2 fun _ => ?_⟩)
  refine only_bind.2 ⟨only_attempt.2 (only_bind.2 ⟨trivial, fun stop => ?_⟩), fun r => ?_⟩
  · split
    · trivial
    · exact only_mapErr.2 hop
  · split
    · trivial
    · trivial
    · refine only_bind.2 ⟨trivial, fun t => only_bind.2 ⟨trivial, fun d => ?_⟩⟩
      split
      · exact only_bind.2 ⟨trivial, fun _ => trivial⟩
      · trivial

theorem uses_nonZero {msg : String} {p : Sys IoError Nat} (hp : Only x.Uses p) : Only x.Uses (nonZero msg p) := by
  refine only_bind.2 ⟨hp, fun n => ?_⟩
  split <;> trivial

theorem uses_shutdown {s : Fd} {how : Shutdown} : Only x.Uses (Vsock.shutdown s how) :=
  only_bind.2 ⟨only_mapErr.2 trivial, fun _ => only_mapErr.2 trivial⟩

theorem uses_acceptConnection {s : Fd} {peerCid : Nat} : Only x.Uses (Vsock.acceptConnection s peerCid) := by
  refine only_bind.2 ⟨only_mapErr.2 trivial, fun _ => only_bind.2 ⟨only_mapErr.2 trivial, fun ⟨_, peer⟩ => ?_⟩⟩
  dsimp only
  cases peer.asVsockAddress with
  | none => trivial
  | some a =>
    dsimp only
    split
    · exact only_bind.2 ⟨only_attempt.2 trivial, fun _ => only_bind.2 ⟨trivial, fun _ => trivial⟩⟩
    · trivial

theorem uses_newListenerSocketWithBackoff {a : SockAddr} {b : ExponentialBackoff} (ha : x.listenOn = some a) :
    Only x.Uses (Vsock.newListenerSocketWithBackoff a b) := by
  refine uses_withBackoff (only_bind.2 ⟨only_mapErr.2 trivial, fun _ => ?_⟩)
  refine only_bind.2 ⟨only_mapErr.2 ha, fun _ => ?_⟩
  exact only_bind.2 ⟨only_mapErr.2 trivial, fun _ => trivial⟩

end

namespace NfqToVsock
open Task
variable {self : NfqToVsock}

theorem run_uses : Only (Worker.nfqToVsock self).endpoints.Uses self.run := by
  have hqueue : Only (Worker.nfqToVsock self).endpoints.Uses self.newSrcNetfilterQueue := by
    refine uses_withBackoff (only_bind.2 ⟨only_mapErr.2 trivial, fun q => ?_⟩)
    refine only_bind.2 ⟨only_mapErr.2 ⟨_, rfl⟩, fun _ => only_bind.2 ⟨only_mapErr.2 trivial, fun _ => ?_⟩⟩
    exact only_bind.2 ⟨only_mapErr.2 rfl, fun _ => trivial⟩
  have hconnect : Only (Worker.nfqToVsock self).endpoints.Uses self.newDstVsockSocket := by
    refine only_bind.2 ⟨uses_withBackoff (only_bind.2 ⟨only_mapErr.2 trivial, fun c => ?_⟩), fun _ => ?_⟩
    · refine only_bind.2 ⟨only_mapErr.2 rfl, fun _ => ?_⟩
      exact only_bind.2 ⟨only_mapErr.2 trivial, fun _ => trivial⟩
    · exact only_bind.2 ⟨uses_shutdown, fun _ => trivial⟩
  have hpump : ∀ q c, Only (Worker.nfqToVsock self).endpoints.Uses (pump q c) := by
    intro q c
    refine only_loop.2 fun _ => only_bind.2 ⟨trivial, fun stop => ?_⟩
    split
    · trivial
    refine only_bind.2 ⟨only_attempt.2 trivial, fun r => ?_⟩
    split
    · split <;> trivial
    · refine only_bind.2 ⟨only_bind.2 ⟨only_loop.2 fun sent => ?_, fun _ => only_mapErr.2 trivial⟩, fun _ => trivial⟩
      unfold sendStep
      split
      · exact only_bind.2 ⟨only_mapErr.2 (uses_nonZero trivial), fun _ => trivial⟩
      · trivial
  refine only_bind.2 ⟨hqueue, fun q => only_bind.2 ⟨hconnect, fun c => only_loop.2 fun s => ?_⟩⟩
  refine only_bind.2 ⟨trivial, fun stop => ?_⟩
  split
  · trivial
  refine only_bind.2 ⟨only_attempt.2 (hpump _ _), fun r => ?_⟩
  split
  · exact only_bind.2 ⟨trivial, fun _ => only_bind.2 ⟨hqueue, fun _ => trivial⟩⟩
  · exact only_bind.2 ⟨hconnect, fun _ => only_bind.2 ⟨trivial, fun _ => trivial⟩⟩
  · trivial
  · trivial

end NfqToVsock

namespace VsockToIpv4
open Task
variable {self : VsockToIpv4}

theorem uses_readExactInto {x : Endpoints} {n : Nat} {s : Fd} {buf : Buf n} {i j : Nat} :
    Only x.Uses (readExactInto s buf i j) := by
  unfold readExactInto
  split
  · refine only_bind.2 ⟨only_loop.2 fun got => ?_, fun _ => trivial⟩
    unfold readStep
    split
    · trivial
    · refine only_bind.2 ⟨only_attempt.2 trivial, fun r => ?_⟩
      split
      · split <;> trivial
      · split <;> trivial
  · trivial

theorem uses_slice {x : Endpoints} {n : Nat} {buf : Buf n} {i j : Nat} :
    Only x.Uses (slice buf i j : Sys Error Bytes) := by
  unfold slice
  split <;> trivial

theorem run_uses : Only (Worker.vsockToIpv4 self).endpoints.Uses self.run := by
  have haccept : ∀ l, Only (Worker.vsockToIpv4 self).endpoints.Uses (self.newSrcVsockSocket l) := fun l =>
    only_bind.2 ⟨uses_withBackoff uses_acceptConnection, fun _ => only_bind.2 ⟨uses_shutdown, fun _ => trivial⟩⟩
  have hsink : ∀ pr, Only (Worker.vsockToIpv4 self).endpoints.Uses (self.newDstIpv4Socket pr) := by
    intro pr
    refine uses_withBackoff (only_bind.2 ⟨only_mapErr.2 trivial, fun _ => ?_⟩)
    refine only_bind.2 ⟨only_mapErr.2 rfl, fun _ => only_bind.2 ⟨only_mapErr.2 trivial, fun _ => ?_⟩⟩
    exact only_bind.2 ⟨only_mapErr.2 trivial, fun _ => trivial⟩
  have hsend : ∀ s wrap (buf : Buf Ipv4.MAX_PACKET_SIZE) n,
      Only (Worker.vsockToIpv4 self).endpoints.Uses (self.sendPayload s wrap buf n) := by
    intro s wrap buf n
    refine only_loop.2 fun sent => ?_
    unfold sendStep
    split
    · refine only_bind.2 ⟨uses_slice, fun _ => ?_⟩
      exact only_bind.2 ⟨only_mapErr.2 (uses_nonZero rfl), fun _ => trivial⟩
    · trivial
  have hdispatch : ∀ tcp udp pr (buf : Buf Ipv4.MAX_PACKET_SIZE) n,
      Only (Worker.vsockToIpv4 self).endpoints.Uses (self.dispatch tcp udp pr buf n) := by
    intro tcp udp pr buf n
    unfold dispatch
    dsimp only
    split
    · trivial
    · split
      · exact hsend _ _ _ _
      · split
        · exact hsend _ _ _ _
        · trivial
  have hpump : ∀ src tcp udp, Only (Worker.vsockToIpv4 self).endpoints.Uses (self.pump src tcp udp) := by
    intro src tcp udp
    refine only_loop.2 fun buf => only_bind.2 ⟨trivial, fun stop => ?_⟩
    split
    · trivial
    refine only_bind.2 ⟨only_mapErr.2 uses_readExactInto, fun _ => only_bind.2 ⟨uses_slice, fun _ => ?_⟩⟩
    refine only_bind.2 ⟨trivial, fun _ => only_bind.2 ⟨only_mapErr.2 uses_readExactInto, fun _ => ?_⟩⟩
    exact only_bind.2 ⟨hdispatch _ _ _ _ _, fun _ => trivial⟩
  refine only_bind.2 ⟨uses_newListenerSocketWithBackoff rfl, fun l => only_bind.2 ⟨haccept l, fun src => ?_⟩⟩
  refine only_bind.2 ⟨hsink _, fun tcp => only_bind.2 ⟨hsink _, fun udp => only_loop.2 fun s => ?_⟩⟩
  refine only_bind.2 ⟨trivial, fun stop => ?_⟩
  split
  · trivial
  refine only_bind.2 ⟨only_attempt.2 (hpump _ _ _), fun r => ?_⟩
  split
  · exact only_bind.2 ⟨trivial, fun _ => only_bind.2 ⟨haccept l, fun _ => trivial⟩⟩
  · exact only_bind.2 ⟨trivial, fun _ => only_bind.2 ⟨hsink _, fun _ => trivial⟩⟩
  · exact only_bind.2 ⟨trivial, fun _ => only_bind.2 ⟨hsink _, fun _ => trivial⟩⟩
  · trivial
  · trivial

end VsockToIpv4

namespace Bootstrap
open Task
variable {self : Bootstrap}

theorem run_uses : Only (Worker.bootstrap self).endpoints.Uses self.run := by
  refine only_bind.2 ⟨uses_newListenerSocketWithBackoff rfl, fun l => only_loop.2 fun _ => ?_⟩
  refine only_bind.2 ⟨trivial, fun stop => ?_⟩
  split
  · trivial
  refine only_bind.2 ⟨only_bind.2 ⟨uses_withBackoff uses_acceptConnection, fun _ => ?_⟩, fun _ => ?_⟩
  · exact only_bind.2 ⟨uses_shutdown, fun _ => only_bind.2 ⟨only_mapErr.2 trivial, fun _ => trivial⟩⟩
  refine only_bind.2 ⟨only_attempt.2 (only_loop.2 fun pos => ?_), fun r => ?_⟩
  · unfold serveStep
    split
    · refine only_bind.2 ⟨trivial, fun stop => ?_⟩
      split
      · trivial
      · exact only_bind.2 ⟨only_mapErr.2 (uses_nonZero trivial), fun _ => trivial⟩
    · trivial
  · split
    · exact only_bind.2 ⟨trivial, fun _ => trivial⟩
    · exact only_bind.2 ⟨trivial, fun _ => trivial⟩
    · trivial

end Bootstrap

theorem Worker.run_uses : ∀ w : Worker, Only w.endpoints.Uses w.run
  | .bootstrap _ => Bootstrap.run_uses
  | .nfqToVsock _ => NfqToVsock.run_uses
  | .vsockToIpv4 _ => VsockToIpv4.run_uses

/-! ## The process -/

section
variable {run : Proc Error (List Service)} {Ready : Trace procSig → Roster → Prop} {u : ProcTrace}
  {t : Trace procSig} {s : Service} {e : ProcEvent}

theorem kernelPart_eq_nil (h : ∀ e ∈ t, ∀ op, e.1 ≠ .kernel op) : kernelPart t = [] := by
  refine List.flatMap_eq_nil_iff.2 fun e he => ?_
  obtain ⟨op, r⟩ := e
  cases op with
  | kernel op => exact absurd rfl (h _ he op)
  | _ => rfl

theorem sysPart_eq_nil (h : ∀ e ∈ t, ∀ op, e.1 ≠ .sys op) : sysPart t = [] := by
  refine List.flatMap_eq_nil_iff.2 fun e he => ?_
  obtain ⟨op, r⟩ := e
  cases op with
  | sys op => exact absurd rfl (h _ he op)
  | _ => rfl

/-- A service is only spawned after all preparations. -/
theorem ready_of_spawned (hcmd : Command run Ready) (hrun : ProcessRun run u) {w : Worker} (hsp : Spawned s w u) :
    ∃ t₁ ws, Ready t₁ ws ∧ (s, w) ∈ ws ∧ kernelPart (part .main u) = kernelPart t₁ ∧
      sysPart (part .main u) = sysPart t₁ := by
  obtain ⟨o, hmain⟩ := hrun.main
  obtain ⟨t₁, ws, n, t₂, hready, -, heq, hsup, hin⟩ := hcmd.spawned hmain (mem_part.2 hsp)
  -- spawning and supervising are no system calls
  have hrest : ∀ e ∈ (ws.map spawnEvent).take n ++ t₂, (∀ op, e.1 ≠ .kernel op) ∧ ∀ op, e.1 ≠ .sys op := by
    intro e he
    rcases List.mem_append.1 he with he | he
    · obtain ⟨x, -, rfl⟩ := List.mem_map.1 (List.mem_of_mem_take he)
      exact ⟨by simp [spawnEvent], by simp [spawnEvent]⟩
    · have hse := hsup e he
      obtain ⟨op', r⟩ := e
      exact ⟨by rintro op rfl; exact hse, by rintro op rfl; exact hse⟩
  rw [List.append_assoc] at heq
  refine ⟨t₁, ws, hready, hin s w (mem_part.2 hsp), ?_, ?_⟩
  · rw [heq, kernelPart_append, kernelPart_eq_nil fun e he => (hrest e he).1, List.append_nil]
  · rw [heq, sysPart_append, sysPart_eq_nil fun e he => (hrest e he).2, List.append_nil]

/-- A service has done nothing, or it was spawned and does what its worker does. -/
theorem served_cases (hrun : ProcessRun run u) (s : Service) :
    served s u = [] ∨ ∃ w o, Spawned s w u ∧ Exec w.run (served s u) o := by
  by_cases hnil : served s u = []
  · exact .inl hnil
  obtain ⟨x, hx⟩ := List.exists_mem_of_ne_nil _ hnil
  obtain ⟨g₁, g₂, heq⟩ := List.append_of_mem (mem_part.1 (mem_of_mem_sysPart hx))
  obtain ⟨w, hw⟩ := (hrun.shared g₁ _ g₂ heq).1
  have hsp : Spawned s w u := by
    rw [heq]
    exact List.mem_append_left _ hw
  obtain ⟨o, ho⟩ := hrun.services s w hsp
  obtain ⟨⟨o', ho'⟩, -⟩ := served_spec ho
  exact .inr ⟨w, o', hsp, ho'⟩

/-- A service that does something was spawned, and uses its endpoints. -/
theorem ready_of_event (hcmd : Command run Ready) (hrun : ProcessRun run (u ++ [(.service s, e)])) :
    ∃ t₁ ws w, Ready t₁ ws ∧ (s, w) ∈ ws ∧ kernelPart (part .main u) = kernelPart t₁ ∧
      sysPart (part .main u) = sysPart t₁ ∧ ∀ op r, e = ⟨.sys op, r⟩ → w.endpoints.Uses op := by
  obtain ⟨w, hsp⟩ := (always_snoc.1 hrun.shared).2.1
  obtain ⟨t₁, ws, hready, hin, hk, hs⟩ := ready_of_spawned hcmd hrun.left hsp
  refine ⟨t₁, ws, w, hready, hin, hk, hs, ?_⟩
  rintro op r rfl
  obtain ⟨o, hx⟩ := hrun.services s w (List.mem_append_left _ hsp)
  rw [part_snoc_self] at hx
  obtain ⟨⟨o', hw⟩, -⟩ := served_spec hx
  refine (exec_only w.run_uses hw).1 ⟨op, r⟩ ?_
  rw [sysPart_append]
  exact List.mem_append_right _ (mem_sysPart List.mem_cons_self)

end

/-! ## The host -/

def HostArgs.endpoints (cfg : HostArgs) : Service → Endpoints
  | .bootstrap => { listenOn := some cfg.bootstrapVsockAddress }
  | .ingress =>
    { queue := some (cfg.ingressNetfilterQueueNum.toNat, cfg.ingressNetfilterQueueMaxLen)
      connectTo := some cfg.ingressVsockAddress }
  | .egress =>
    { listenOn := some cfg.egressVsockAddress
      device := some cfg.interface
      sink := some cfg.egressIpv4SinkAddress }

/-- What is in place on the host, after `u`, when the service `s` does `e`. -/
structure HostInPlace (cfg : HostArgs) (u : ProcTrace) (s : Service) (e : ProcEvent) : Prop where
  serves : cfg.setupOnly = false
  setup : Exec cfg.setup (kernelPart (part .main u)) (.done (.ok ()))
  /-- just the packets for the enclave's ports are queued, for the queue that the ingress service binds -/
  queued : ∀ {α : Type} (rs : Nftables.Ruleset α), SinksQueue rs (ruleset rs (kernelPart (part .main u)))
    cfg.ingressNetfilterQueueNum .preRouting
    (IngressPacket cfg.interface.toUTF8.toList (cfg.dstPorts.map PortRange.pair))
  uses : ∀ op r, e = ⟨.sys op, r⟩ → (cfg.endpoints s).Uses op

/-! ## The enclave -/

/-- The packets go to the address `a`. -/
def EnclaveArgs.endpoints (cfg : EnclaveArgs) (a : Ipv4Network) : Service → Endpoints
  | .bootstrap => {}
  | .ingress =>
    { listenOn := some cfg.ingressVsockAddress
      device := some cfg.interface
      sink := some (.inet a.ip.octets 0) }
  | .egress =>
    { queue := some (cfg.egressNetfilterQueueNum.toNat, cfg.egressNetfilterQueueMaxLen)
      connectTo := some cfg.egressVsockAddress }

/-- What is in place in the enclave: the record `r` of the host and its address `a`, and all that is made of them. -/
structure EnclaveInPlace (fromSlice : Bytes → Option Record) (parseNetwork : String → Option Ipv4Network)
    (cfg : EnclaveArgs) (b : ExponentialBackoff) (u : ProcTrace) (s : Service) (e : ProcEvent) (r : Record)
    (a : Ipv4Network) : Prop where
  serves : cfg.setupOnly = false
  fetched : Exec (Bootstrap.get fromSlice cfg.bootstrapVsockAddress b) (sysPart (part .main u)) (.done (.ok r))
  address : parseNetwork r.interface.ipv4NetworkAddress = some a
  setup : Exec (cfg.setup parseNetwork r) (kernelPart (part .main u)) (.done (.ok ()))
  /-- just the packets from the address and the ports of the record are queued -/
  queued : ∀ {α : Type} (rs : Nftables.Ruleset α), SinksQueue rs (ruleset rs (kernelPart (part .main u)))
    cfg.egressNetfilterQueueNum .out (EgressPacket a.ip r.ports.srcPorts)
  uses : ∀ op x, e = ⟨.sys op, x⟩ → (cfg.endpoints a s).Uses op

theorem host_inPlace {kernel : Interfaces} {cfg : HostArgs} {b : ExponentialBackoff} {u : ProcTrace} {s : Service}
    {e : ProcEvent} (hrun : ProcessRun (cfg.run kernel b) (u ++ [(.service s, e)])) : HostInPlace cfg u s e := by
  obtain ⟨t₁, ws, w, hready, hin, hk, -, huses⟩ := ready_of_event HostArgs.command hrun
  have hsetup := hready.setup
  rw [← hk] at hsetup
  refine ⟨hready.serves, hsetup, fun rs => CliHost.setup_queues rs hsetup, fun op r he => ?_⟩
  obtain ⟨server, hnew, rfl⟩ := hready.roster
  have hkind : cfg.endpoints s = w.endpoints := by
    simp only [HostArgs.roster, List.mem_cons, List.not_mem_nil, or_false, Prod.mk.injEq] at hin
    obtain ⟨rfl, rfl⟩ | ⟨rfl, rfl⟩ | ⟨rfl, rfl⟩ := hin
    · have hlisten : server.listenAddress = cfg.bootstrapVsockAddress := by
        unfold Bootstrap.new at hnew
        split at hnew
        · cases hnew
        · split at hnew
          · cases hnew
          · cases hnew
            rfl
      simp only [HostArgs.endpoints, Worker.endpoints, hlisten]
    · rfl
    · rfl
  rw [hkind]
  exact huses op r he

theorem enclave_inPlace {fromSlice : Bytes → Option Record} {parseNetwork : String → Option Ipv4Network}
    {cfg : EnclaveArgs} {b : ExponentialBackoff} {u : ProcTrace} {s : Service} {e : ProcEvent}
    (hrun : ProcessRun (cfg.run fromSlice parseNetwork b) (u ++ [(.service s, e)])) :
    ∃ r a, EnclaveInPlace fromSlice parseNetwork cfg b u s e r a := by
  obtain ⟨t₁, ws, w, hready, hin, hk, hs, huses⟩ := ready_of_event EnclaveArgs.command hrun
  obtain ⟨h, k, r, a, peerCid, rfl, hget, hsetup, ha, -, rfl⟩ := hready.prepared
  have hk' : kernelPart (part .main u) = k := by simpa using hk
  have hs' : sysPart (part .main u) = h := by simpa using hs
  refine ⟨r, a, hready.serves, hs' ▸ hget, ha, hk' ▸ hsetup, fun rs => ?_, fun op x he => ?_⟩
  · rw [hk']
    obtain ⟨a', ha', hq⟩ := CliEnclave.setup_queues rs hsetup
    rw [ha] at ha'
    cases ha'
    exact hq
  · have hkind : cfg.endpoints a s = w.endpoints := by
      simp only [EnclaveArgs.roster, List.mem_cons, List.not_mem_nil, or_false, Prod.mk.injEq] at hin
      obtain ⟨rfl, rfl⟩ | ⟨rfl, rfl⟩ := hin
      · rfl
      · rfl
    rw [hkind]
    exact huses op x he

/-- **Everything is in place when a service begins**, and whenever it does something. -/
theorem starts_in_place :
    (∀ kernel (cfg : HostArgs) b g, ProcessRun (cfg.run kernel b) g →
      Always (fun u x => ∀ s, x.1 = .service s → HostInPlace cfg u s x.2) g) ∧
    ∀ fromSlice parseNetwork (cfg : EnclaveArgs) b g, ProcessRun (cfg.run fromSlice parseNetwork b) g →
      Always (fun u x => ∀ s, x.1 = .service s →
        ∃ r a, EnclaveInPlace fromSlice parseNetwork cfg b u s x.2 r a) g := by
  constructor
  · rintro kernel cfg b g hrun u ⟨i, e⟩ v rfl s rfl
    rw [List.append_cons] at hrun
    exact host_inPlace hrun.left
  · rintro fromSlice parseNetwork cfg b g hrun u ⟨i, e⟩ v rfl s rfl
    rw [List.append_cons] at hrun
    exact enclave_inPlace hrun.left

/-- The host that was told to stop. -/
theorem Demo.hostRun_inPlace : Always (fun u x => ∀ s, x.1 = .service s → HostInPlace Demo.hostArgs u s x.2)
    (Demo.untilSignal ++ Demo.afterSignal) := starts_in_place.1 _ _ _ _ Demo.hostRun_process

end Glycerine
