import Glycerine.Deployment.Run
import Glycerine.Setup.Flows
/-
# The enclave does as the host says

The enclave's services only run with the record that the host made of its own configuration, and the host then serves.
So both ends capture the same flows from the first packet on (`enclave_follows_host`): what `BothSetUp` assumes comes
about in every run.
-/

namespace Glycerine
open Interact Nftables

theorem cid_of_expectCid {addr : SockAddr} {cid : Nat} (h : expectCid addr = .ok cid) : addr.cid = cid := by
  unfold expectCid at h
  unfold SockAddr.cid
  cases ha : addr.asVsockAddress with
  | none => simp [ha] at h
  | some x => simpa [ha] using h

theorem not_document_nil : ¬ Json.Document [] := by
  have r : Record := ⟨⟨"", 0⟩, ⟨0, 0⟩, []⟩
  refine r.not_document_of_strict List.nil_prefix ?_
  intro h
  have hlen := congrArg List.length h
  simp [Record.encode, Json.object] at hlen

namespace Deployment
variable {D : Deployment} {u : DeployTrace} {s : Service} {e : ProcEvent}

/-- What has come about when the enclave's services run: the record `r` of the host, and its address `a`. -/
structure Agrees (D : Deployment) (d : DeployTrace) (r : Record) (a : Ipv4Network) : Prop where
  serves : D.host.setupOnly = false
  record : Record.new D.kernel D.host.toCliHost = .ok r
  fetched : Exec (Bootstrap.get D.fromSlice D.enclave.bootstrapVsockAddress D.backoff)
    (sysPart (part (.enclave, .main) d)) (.done (.ok r))
  address : D.parseNetwork r.interface.ipv4NetworkAddress = some a
  both : BothSetUp D.parseNetwork D.fromSlice D.kernel D.host.toCliHost D.enclave.toCliEnclave a
    (kernelPart (part (.host, .main) d)) (kernelPart (part (.enclave, .main) d))

/-- What the host's bootstrap service was made of, if it has done something. -/
theorem Run.serving (hrun : D.Run u) (hne : sysPart (part (.host, .service .bootstrap) u) ≠ []) :
    ∃ server o, Bootstrap.new D.kernel D.host.toCliHost D.backoff = .ok server ∧ D.host.setupOnly = false ∧
      Exec D.host.setup (kernelPart (part (.host, .main) u)) (.done (.ok ())) ∧
      Exec server.run (sysPart (part (.host, .service .bootstrap) u)) o := by
  rw [← part_within] at hne
  obtain hnil | ⟨w, o, hsp, ho⟩ := served_cases hrun.host .bootstrap
  · exact absurd hnil hne
  obtain ⟨t₁, ws, hready, hin, hk, -⟩ := ready_of_spawned HostArgs.command hrun.host hsp
  obtain ⟨server, hnew, rfl⟩ := hready.roster
  have hserver : w = .bootstrap server := by
    simpa [HostArgs.roster] using hin
  subst hserver
  have hsetup := hready.setup
  rw [← hk] at hsetup
  rw [part_within] at hsetup
  rw [served, part_within] at ho
  exact ⟨server, o, hnew, hready.serves, hsetup, ho⟩

/-- A record that the enclave has is the host's. -/
theorem Run.record_same (hD : D.Decodes) (hrun : D.Run u) {r : Record}
    (hget : Exec (Bootstrap.get D.fromSlice D.enclave.bootstrapVsockAddress D.backoff)
      (sysPart (part (.enclave, .main) u)) (.done (.ok r))) :
    ∃ server, Bootstrap.new D.kernel D.host.toCliHost D.backoff = .ok server ∧ D.host.setupOnly = false ∧
      Exec D.host.setup (kernelPart (part (.host, .main) u)) (.done (.ok ())) ∧
      Record.new D.kernel D.host.toCliHost = .ok r ∧ server.info = r.encode := by
  obtain ⟨peer, orderly, hlink⟩ := hrun.bootstrap
  have hsnd := senderPart_between (i := (Side.host, Thread.service .bootstrap)) (j := (.enclave, .main)) (d := u)
  have hrcv := receiverPart_between (i := (Side.host, Thread.service .bootstrap)) (j := (.enclave, .main)) (d := u)
    (by decide)
  have hne : sysPart (part (.host, .service .bootstrap) u) ≠ [] := by
    -- from nothing no record is read
    intro hnil
    obtain ⟨-, c, hc⟩ := Bootstrap.triple_get [] _ _ rfl hget trivial
    have hread := (Link.run_spec hlink).2 c
    rw [hsnd, hrcv, hnil] at hread
    have hempty : readOn c (sysPart (part (.enclave, .main) u)) = [] := List.prefix_nil.1 hread
    rw [List.nil_append, hempty] at hc
    exact not_document_nil (hD.document _ _ hc)
  obtain ⟨server, o, hnew, hserves, hsetup, hserver⟩ := hrun.serving hne
  obtain ⟨r', hr', hinfo⟩ := Bootstrap.info_of_new hnew
  have hcid := cid_of_expectCid (HostArgs.expectCid_of_new hnew)
  have htransfer : Bootstrap.TransferRun server D.fromSlice D.enclave.bootstrapVsockAddress D.backoff orderly peer
      (between (.host, .service .bootstrap) (.enclave, .main) u) o (.ok r) := by
    constructor
    · rw [hsnd]
      exact hserver
    · rw [hrcv]
      exact hget
    · rw [← hcid]
      exact hlink
  obtain rfl : r = r' := htransfer.same hinfo (hD.record r' hr') hD.document
  exact ⟨server, hnew, hserves, hsetup, hr', hinfo⟩

/-- The agreement holds as soon as a service of the enclave is spawned. -/
theorem Run.agrees (hD : D.Decodes) (hrun : D.Run u) {w : Worker} (hsp : Spawned s w (within .enclave u)) :
    ∃ r a, D.Agrees u r a ∧ (s, w) ∈ D.enclave.roster D.backoff a D.enclave.egressVsockAddress.cid := by
  obtain ⟨t₁, ws, hready, hin, hk, hs⟩ := ready_of_spawned EnclaveArgs.command hrun.enclave hsp
  obtain ⟨h, k, r, a, peerCid, rfl, hget, hsetup, ha, hcid, rfl⟩ := hready.prepared
  simp only [kernelPart_append, kernelPart_sys, kernelPart_map, List.nil_append, part_within] at hk
  simp only [sysPart_append, sysPart_map, sysPart_kernel, List.append_nil, part_within] at hs
  rw [← hs] at hget
  rw [← hk] at hsetup
  obtain ⟨server, hnew, hserves, hhost, hr, hinfo⟩ := hrun.record_same hD hget
  have hboth : BothSetUp D.parseNetwork D.fromSlice D.kernel D.host.toCliHost D.enclave.toCliEnclave a
      (kernelPart (part (.host, .main) u)) (kernelPart (part (.enclave, .main) u)) := by
    refine ⟨hD.record, ⟨_, (Record.new_eq_ok hr).1, ha⟩, hhost, D.backoff, server, r, hnew, ?_, hsetup⟩
    rw [hinfo]
    exact hD.record r hr
  refine ⟨r, a, ⟨hserves, hr, hget, ha, hboth⟩, ?_⟩
  rw [cid_of_expectCid hcid]
  exact hin

/-- The flows of the host's ports are captured at both ends, and no others. -/
def Captures (D : Deployment) (d : DeployTrace) (a : Ipv4Network) : Prop :=
  ∀ {α β : Type} (hrs : Ruleset α) (ers : Ruleset β) {protocol : Protocol}, protocol = .TCP ∨ protocol = .UDP →
    ∀ (port : UInt16) {inbound outbound : Packet}, Arrives D.host.interface.toUTF8.toList protocol port inbound →
      Departs a.ip protocol port outbound →
      (.queue D.host.ingressNetfilterQueueNum.toNat ∈
        sinkVerdicts (ruleset hrs (kernelPart (part (.host, .main) d)))
          D.host.ingressNetfilterQueueNum .preRouting inbound ↔ D.host.Proxied port) ∧
      (.queue D.enclave.egressNetfilterQueueNum.toNat ∈
        sinkVerdicts (ruleset ers (kernelPart (part (.enclave, .main) d)))
          D.enclave.egressNetfilterQueueNum .out outbound ↔ D.host.Proxied port)

theorem Agrees.captures {r : Record} {a : Ipv4Network} (h : D.Agrees u r a) : D.Captures u a := by
  intro α β hrs ers protocol hp port inbound outbound hin hout
  rw [(h.both.hostQueues hrs).queued, (h.both.enclaveQueues ers).queued, arrives_iff hp hin, departs_iff hp hout]
  exact ⟨inRanges_dstPorts, inRanges_dstPorts⟩

/-- What is in place in the enclave when one of its services does something has come from the host. -/
theorem Run.agrees_inPlace (hD : D.Decodes) (hrun : D.Run (u ++ [((.enclave, .service s), e)])) :
    ∃ r a, D.Agrees u r a ∧
      EnclaveInPlace D.fromSlice D.parseNetwork D.enclave D.backoff (within .enclave u) s e r a := by
  have hupto := hrun.enclave
  rw [within_append, within_cons_self] at hupto
  obtain ⟨w, hsp⟩ := (always_snoc.1 hupto.shared).2.1
  obtain ⟨r, a, hagrees, -⟩ := hrun.left.agrees hD hsp
  obtain ⟨r', a', hplace⟩ := enclave_inPlace hupto
  -- it is the record that was fetched
  have hfetched := hplace.fetched
  rw [part_within, ← List.append_nil (sysPart _)] at hfetched
  obtain ⟨-, hsame⟩ := exec_returned hagrees.fetched hfetched
  cases hsame
  have ha := hplace.address
  rw [hagrees.address] at ha
  cases ha
  exact ⟨r, a, hagrees, hplace⟩

end Deployment

/-- **The enclave does as the host says**, whenever one of its services does something. -/
theorem enclave_follows_host {D : Deployment} (hD : D.Decodes) {d : DeployTrace} (hrun : D.Run d) :
    Always (fun u x => ∀ s, x.1 = (.enclave, .service s) → ∃ r a, D.Agrees u r a ∧ D.Captures u a ∧
      ∀ op res, x.2 = ⟨.sys op, res⟩ → (D.enclave.endpoints a s).Uses op) d := by
  rintro u ⟨i, e⟩ v rfl s rfl
  rw [List.append_cons] at hrun
  obtain ⟨r, a, hagrees, hplace⟩ := hrun.left.agrees_inPlace hD
  exact ⟨r, a, hagrees, hagrees.captures, hplace.uses⟩

/-! ## A host and its enclave, with a packet in each direction -/

namespace Demo

def enclaveArgs : EnclaveArgs where
  toCliEnclave := enclave
  bootstrapVsockAddress := .vsock 3 4000
  ingressVsockAddress := .vsock 4 8000
  egressNetfilterQueueMaxLen := 1024
  egressVsockAddress := .vsock 3 9000
  setupOnly := false

def deployment : Deployment := ⟨kernel, hostArgs, fromSlice, parseNetwork, enclaveArgs, backoff⟩

/-- The answer to `segment`. -/
def answer : Bytes :=
  [0x45, 0, 0, 40, 0, 1, 0, 0, 64, 6, 0, 0, 10, 0, 0, 2, 192, 0, 2, 7, 1, 187, 1, 187] ++ List.replicate 16 0

/-- A sender opens its queue `num` as 1 and its connection to `dst` as 2, and a payload is sent on. -/
def relays (num : Nat) (dst : SockAddr) (payload : Bytes) : History :=
  [⟨.now, (0 : Nat)⟩, ⟨.isCancelled, false⟩, ⟨.queueOpen, .ok 1⟩, ⟨.queueBind 1 num, .ok ()⟩,
    ⟨.setRecvEnobufs 1 true, .ok ()⟩, ⟨.setQueueMaxLen 1 num 1024, .ok ()⟩, ⟨.now, (0 : Nat)⟩, ⟨.isCancelled, false⟩,
    ⟨.socketNew .vsock .stream none, .ok 2⟩, ⟨.connect 2 dst, .ok ()⟩, ⟨.localAddr 2, .ok (.vsock 0 1)⟩,
    ⟨.localAddr 2, .ok (.vsock 0 1)⟩, ⟨.shutdown 2 .read, .ok ()⟩, ⟨.isCancelled, false⟩, ⟨.isCancelled, false⟩,
    ⟨.recv 1, .ok ⟨0, payload, .accept⟩⟩, ⟨.send 2 payload, .ok (Fin.last _)⟩,
    ⟨.verdict 1 ⟨0, payload, .drop⟩, .ok ()⟩]

/-- A raw socket is opened. -/
def opensSink (fd : Fd) (p : Protocol) : History :=
  [⟨.now, (0 : Nat)⟩, ⟨.isCancelled, false⟩, ⟨.socketNew .ipv4 .raw (some p), .ok fd⟩,
    ⟨.bindDevice fd "ens5", .ok ()⟩, ⟨.setHeaderIncludedV4 fd true, .ok ()⟩, ⟨.setRecvBufferSize fd 0, .ok ()⟩]

/-- A receiver accepts a connection from `cid`, and reads a packet of 40 bytes from it. -/
def delivers (listen : SockAddr) (cid : Nat) (sink : SockAddr) (hd tl : {bs : Bytes // bs.length ≤ 20}) : History :=
  [⟨.now, (0 : Nat)⟩, ⟨.isCancelled, false⟩, ⟨.socketNew .vsock .stream none, .ok 1⟩, ⟨.bind 1 listen, .ok ()⟩,
    ⟨.listen 1 16, .ok ()⟩, ⟨.now, (0 : Nat)⟩, ⟨.isCancelled, false⟩, ⟨.localAddr 1, .ok listen⟩,
    ⟨.accept 1, .ok (2, .vsock cid 1)⟩, ⟨.localAddr 2, .ok listen⟩, ⟨.shutdown 2 .write, .ok ()⟩] ++
  opensSink 3 .TCP ++ opensSink 4 .UDP ++
  [⟨.isCancelled, false⟩, ⟨.isCancelled, false⟩, ⟨.read 2 20, .ok hd⟩, ⟨.read 2 20, .ok tl⟩,
    ⟨.sendTo 3 (hd.1 ++ tl.1) sink, .ok (Fin.last _)⟩]

def servesOnce : History :=
  [⟨.now, (0 : Nat)⟩, ⟨.isCancelled, false⟩, ⟨.socketNew .vsock .stream none, .ok 1⟩,
    ⟨.bind 1 (.vsock 3 4000), .ok ()⟩, ⟨.listen 1 16, .ok ()⟩, ⟨.isCancelled, false⟩, ⟨.now, (0 : Nat)⟩,
    ⟨.isCancelled, false⟩, ⟨.localAddr 1, .ok (.vsock 3 4000)⟩, ⟨.accept 1, .ok (2, .vsock 4 1)⟩,
    ⟨.localAddr 2, .ok (.vsock 3 4000)⟩, ⟨.shutdown 2 .read, .ok ()⟩, ⟨.setWriteTimeout 2 1000, .ok ()⟩,
    ⟨.isCancelled, false⟩, ⟨.write 2 record.encode, .ok (Fin.last _)⟩, ⟨.dropSocket 2, ()⟩]

def fetches : History :=
  [⟨.now, (0 : Nat)⟩, ⟨.isCancelled, false⟩, ⟨.socketNew .vsock .stream none, .ok 7⟩,
    ⟨.connect 7 (.vsock 3 4000), .ok ()⟩, ⟨.localAddr 7, .ok (.vsock 4 1)⟩, ⟨.localAddr 7, .ok (.vsock 4 1)⟩,
    ⟨.shutdown 7 .write, .ok ()⟩, ⟨.localAddr 7, .ok (.vsock 4 1)⟩, ⟨.setReadTimeout 7 1000, .ok ()⟩,
    ⟨.isCancelled, false⟩, ⟨.read 7 4096, .ok ⟨record.encode, by decide +kernel⟩⟩, ⟨.isCancelled, false⟩,
    ⟨.read 7 (4096 - record.encode.length), .ok ⟨[], Nat.zero_le _⟩⟩]

def enclaveServices : Roster := enclaveArgs.roster backoff address 3

/-- The first and the second half of a packet of 40 bytes. -/
def half (p : Bytes) (i : Nat) : {bs : Bytes // bs.length ≤ 20} := ⟨(p.drop i).take 20, List.length_take_le _ _⟩

/-- What a thread does on the system boundary. -/
def does (x : Side) (i : Thread) (h : History) : DeployTrace := h.map fun e => ((x, i), sysOps.event e)

def deployedRun : DeployTrace :=
  ((servingSetup 443 0).map kernelOps.event ++ hostServices.map spawnEvent).map (Prod.mk (.host, .main)) ++
  does .host (.service .bootstrap) servesOnce ++ does .enclave .main fetches ++
  (enclaveSetup.map kernelOps.event ++ enclaveServices.map spawnEvent).map (Prod.mk (.enclave, .main)) ++
  does .host (.service .ingress) (relays 0 (.vsock 4 8000) (segment [192, 0, 2, 7])) ++
  does .enclave (.service .ingress) (delivers (.vsock 4 8000) 3 (.inet [10, 0, 0, 2] 0)
    (half (segment [192, 0, 2, 7]) 0) (half (segment [192, 0, 2, 7]) 20)) ++
  does .enclave (.service .egress) (relays 2 (.vsock 3 9000) answer) ++
  does .host (.service .egress) (delivers (.vsock 3 9000) 4 (.inet [0, 0, 0, 0] 0) (half answer 0) (half answer 20))

theorem decodes : deployment.Decodes where
  record := bothSetUp.json
  document bs r h := by
    by_cases hbs : bs = record.encode
    · rw [hbs]
      exact record.derives_encode.asElement
    · change fromSlice bs = some r at h
      simp [fromSlice, hbs] at h

theorem mem_of_spawned {s : Service} {w : Worker} {h : History} {k : SetupHistory} {ws : Roster}
    (hmem : ⟨.spawnBlocking s w, ()⟩ ∈ h.map sysOps.event ++ (k.map kernelOps.event ++ ws.map spawnEvent)) :
    (s, w) ∈ ws := by
  simpa [sysOps, kernelOps, Embedding.event, spawnEvent] using hmem

theorem host_services {s : Service} {w : Worker} (hsp : Spawned s w (within .host deployedRun)) :
    ∃ o, Exec (service w) (part (.service s) (within .host deployedRun)) o := by
  have hmain : part .main (within .host deployedRun) = ([] : History).map sysOps.event ++
    ((servingSetup 443 0).map kernelOps.event ++ hostServices.map spawnEvent) := rfl
  have hin := mem_of_spawned (hmain ▸ mem_part.2 hsp)
  simp only [hostServices, HostArgs.roster, List.mem_cons, List.not_mem_nil, or_false, Prod.mk.injEq] at hin
  obtain ⟨rfl, rfl⟩ | ⟨rfl, rfl⟩ | ⟨rfl, rfl⟩ := hin
  · exact ⟨.asks (.sys .isCancelled), exec_of_script 100 (by decide +kernel)⟩
  · exact ⟨.asks (.sys .isCancelled), exec_of_script 100 (by decide +kernel)⟩
  · exact ⟨.asks (.sys .isCancelled), exec_of_script 100 (by decide +kernel)⟩

theorem enclave_services {s : Service} {w : Worker} (hsp : Spawned s w (within .enclave deployedRun)) :
    ∃ o, Exec (service w) (part (.service s) (within .enclave deployedRun)) o := by
  have hmain : part .main (within .enclave deployedRun) = fetches.map sysOps.event ++
    (enclaveSetup.map kernelOps.event ++ enclaveServices.map spawnEvent) := rfl
  have hin := mem_of_spawned (hmain ▸ mem_part.2 hsp)
  simp only [enclaveServices, EnclaveArgs.roster, List.mem_cons, List.not_mem_nil, or_false, Prod.mk.injEq] at hin
  obtain ⟨rfl, rfl⟩ | ⟨rfl, rfl⟩ := hin
  · exact ⟨.asks (.sys .isCancelled), exec_of_script 100 (by decide +kernel)⟩
  · exact ⟨.asks (.sys .isCancelled), exec_of_script 100 (by decide +kernel)⟩

theorem deployedRun_run : deployment.Run deployedRun where
  host := {
    main := ⟨.asks (.select [.bootstrap, .ingress, .egress]), exec_of_script 100 (by decide +kernel)⟩
    signal := ⟨.asks .awaitSignal, exec_of_script 100 (by decide +kernel)⟩
    services := fun _ _ => host_services
    shared := always_of_permitted (by decide +kernel) }
  enclave := {
    main := ⟨.asks (.select [.ingress, .egress]), exec_of_script 100 (by decide +kernel)⟩
    signal := ⟨.asks .awaitSignal, exec_of_script 100 (by decide +kernel)⟩
    services := fun _ _ => enclave_services
    shared := always_of_permitted (by decide +kernel) }
  bootstrap := ⟨fun _ => 2, true, by decide +kernel⟩
  ingress := ⟨fun _ => 2, by decide +kernel⟩
  egress := ⟨fun _ => 2, by decide +kernel⟩
  datagrams := by decide +kernel

theorem deployedRun_follows : Always (fun u x => ∀ s, x.1 = (.enclave, .service s) → ∃ r a,
    deployment.Agrees u r a ∧ deployment.Captures u a ∧
      ∀ op res, x.2 = ⟨.sys op, res⟩ → (deployment.enclave.endpoints a s).Uses op) deployedRun :=
  enclave_follows_host decodes deployedRun_run

end Demo
end Glycerine
