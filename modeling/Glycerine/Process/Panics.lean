import Mathlib.Data.List.Infix
import Glycerine.Cli.Addresses
import Glycerine.Process.Shutdown
import Glycerine.Setup.OverNetlink
/-
# What panics

| here | there |
| --- | --- |
| `Alien`                      | `expect` on the address of a connection (`vsock.rs:45`) |
| `expectCid`, `Bootstrap.new` | `expect` (`host.rs:80`, `enclave.rs:72`, `bootstrap/mod.rs:53`) |
| `VsockToIpv4.run`            | slices of packets (`worker/ipv4.rs:137-190`) and `unreachable!` (`:184`) |
| `waitForShutdownSignal`      | the handlers of the signals (`main.rs:80`, `:85`) |
| `Nftnl.processMessages`      | `expect` on the acknowledgement of a message (`nftnl.rs:85`) |

A process looks at the addresses of its configuration only as vsock addresses, and those of the command line are. The
last `expect` is in the one operation that sends a batch, so the threads are looked at with the batches sent over
netlink. The handlers are then all that can panic (`only_handlers_panic`).
-/

namespace Glycerine
open Interact Machine Nftnl Task

/-! ## The services -/

/-- Whatever the service, only such a connection makes it panic. -/
theorem Worker.alien_of_panic {w : Worker} {h : History} (hx : Exec w.run h (.done .panic)) : ∃ e ∈ h, Alien e := by
  match w with
  | .bootstrap self => exact self.run_alien hx
  | .nfqToVsock self => exact absurd hx (NfqToVsock.run_neverPanics h)
  | .vsockToIpv4 self => exact self.run_alien hx

/-! ## The setups, and `get` -/

theorem neverPanics_ofExcept {S : Sig} {ε α : Type} {x : Except ε α} : NeverPanics (ofExcept x : Task S ε α) := by
  intro t h
  cases x <;> cases (exec_pure.1 h).2

/-- An operation whose failure is an error. -/
theorem neverPanics_mapErr_call {S : Sig} {ε ε' α : Type} {f : ε → ε'} {op : S.Op}
    {k : S.Res op → Except ε α} : NeverPanics (mapErr f (call op fun r => .ofExcept (k r)) : Task S ε' α) :=
  neverPanics_mapErr (neverPanics_call fun r => Outcome.ofExcept_ne_panic (k r))

theorem neverPanics_setEphemeralPorts {start stop : UInt16} : NeverPanics (setEphemeralPorts start stop) := by
  refine neverPanics_andThen neverPanics_mapErr_call fun _ => ?_
  refine neverPanics_andThen neverPanics_ofExcept fun _ => neverPanics_andThen neverPanics_ofExcept fun _ => ?_
  split
  · exact neverPanics_pure
  · exact neverPanics_andThen neverPanics_mapErr_call fun _ => neverPanics_pure

theorem neverPanics_addIngressNetfilterPacketsSink {num : UInt16} {interface : String} {pr : Protocol}
    {ranges : List (UInt16 × UInt16)} : NeverPanics (addIngressNetfilterPacketsSink num interface pr ranges) := by
  refine neverPanics_andThen neverPanics_ofExcept fun _ => neverPanics_andThen neverPanics_ofExcept fun _ => ?_
  refine neverPanics_andThen neverPanics_ofExcept fun _ => ?_
  exact neverPanics_andThen neverPanics_mapErr_call fun _ => neverPanics_pure

theorem neverPanics_addEgressNetfilterPacketsSink {num : UInt16} {pr : Protocol} {a : Ipv4Addr}
    {ranges : List (UInt16 × UInt16)} : NeverPanics (addEgressNetfilterPacketsSink num pr a ranges) := by
  refine neverPanics_andThen neverPanics_ofExcept fun _ => neverPanics_andThen neverPanics_ofExcept fun _ => ?_
  exact neverPanics_andThen neverPanics_mapErr_call fun _ => neverPanics_pure

theorem neverPanics_interfaceIndex {interface : String} : NeverPanics (interfaceIndex interface) := by
  refine neverPanics_andThen neverPanics_mapErr_call fun r => ?_
  split
  · exact neverPanics_pure
  · exact neverPanics_fail

theorem neverPanics_ensureDefaultIpv4Route {interface : String} {a : Ipv4Network} :
    NeverPanics (ensureDefaultIpv4Route interface a) := by
  refine neverPanics_andThen neverPanics_mapErr_call fun _ => neverPanics_andThen neverPanics_interfaceIndex fun _ => ?_
  refine neverPanics_andThen (neverPanics_call nofun) fun _ => ?_
  refine neverPanics_andThen (neverPanics_loop (fun _ => ?_) ()) fun _ => neverPanics_mapErr_call
  refine neverPanics_andThen neverPanics_mapErr_call fun r => ?_
  split
  · exact neverPanics_pure
  · split
    · exact neverPanics_pure
    · exact neverPanics_andThen neverPanics_mapErr_call fun _ => neverPanics_pure

theorem neverPanics_addIpv4InterfaceAddress {interface : String} {a : Ipv4Network} :
    NeverPanics (addIpv4InterfaceAddress interface a) := by
  refine neverPanics_andThen neverPanics_mapErr_call fun _ => neverPanics_andThen neverPanics_interfaceIndex fun _ => ?_
  refine neverPanics_andThen (neverPanics_attempt (neverPanics_call fun r => Outcome.ofExcept_ne_panic r)) fun r => ?_
  split
  · split
    · exact neverPanics_pure
    · exact neverPanics_fail
  · exact neverPanics_fail
  · exact neverPanics_pure

theorem neverPanics_ifreqFor {interface : String} : NeverPanics (ifreqFor interface) :=
  neverPanics_andThen neverPanics_ofExcept fun _ => neverPanics_andThen neverPanics_mapErr_call fun _ =>
    neverPanics_pure

theorem neverPanics_bringInterfaceUp {interface : String} : NeverPanics (bringInterfaceUp interface) := by
  refine neverPanics_andThen neverPanics_ifreqFor fun _ => neverPanics_andThen neverPanics_mapErr_call fun _ => ?_
  split
  · exact neverPanics_pure
  · exact neverPanics_andThen neverPanics_mapErr_call fun _ => neverPanics_pure

theorem neverPanics_setMtu {interface : String} {mtu : Int32} : NeverPanics (setMtu interface mtu) := by
  refine neverPanics_andThen neverPanics_ifreqFor fun _ => neverPanics_andThen neverPanics_mapErr_call fun _ => ?_
  split
  · exact neverPanics_pure
  · exact neverPanics_andThen neverPanics_mapErr_call fun _ => neverPanics_pure

theorem CliHost.setup_neverPanics {cfg : CliHost} : NeverPanics cfg.setup := by
  refine neverPanics_andThen neverPanics_ofExcept fun _ => neverPanics_andThen neverPanics_setEphemeralPorts fun _ => ?_
  refine neverPanics_andThen neverPanics_addIngressNetfilterPacketsSink fun _ => ?_
  exact neverPanics_andThen neverPanics_addIngressNetfilterPacketsSink fun _ => neverPanics_pure

theorem CliEnclave.setup_neverPanics {parseNetwork : String → Option Ipv4Network} {cfg : CliEnclave} {r : Record} :
    NeverPanics (cfg.setup parseNetwork r) := by
  refine neverPanics_andThen neverPanics_ofExcept fun _ => neverPanics_andThen neverPanics_bringInterfaceUp fun _ => ?_
  refine neverPanics_andThen neverPanics_addIpv4InterfaceAddress fun _ => ?_
  refine neverPanics_andThen neverPanics_ensureDefaultIpv4Route fun _ => ?_
  refine neverPanics_andThen neverPanics_setMtu fun _ => neverPanics_andThen neverPanics_setEphemeralPorts fun _ => ?_
  refine neverPanics_andThen neverPanics_addEgressNetfilterPacketsSink fun _ => ?_
  exact neverPanics_andThen neverPanics_addEgressNetfilterPacketsSink fun _ => neverPanics_pure

theorem Bootstrap.get_neverPanics {fromSlice : Bytes → Option Record} {a : SockAddr} {b : ExponentialBackoff} :
    NeverPanics (Bootstrap.get fromSlice a b) := by
  intro h hx
  have hget : Gets fromSlice (fun r h => Asking h ∧ ∃ s, fromSlice (readOn s h) = some r) .panic h :=
    triple_get [] h _ rfl hx trivial
  exact hget

/-! ## The process -/

theorem neverPanics_ofOutcome {ε α : Type} {x : Outcome ε α} (hx : x ≠ .panic) :
    NeverPanics (ofOutcome x : Proc ε α) := by
  intro t h
  cases (exec_pure.1 h).2
  exact hx rfl

theorem neverPanics_spawnBlocking {ε : Type} {s : Service} {w : Worker} :
    NeverPanics (spawnBlocking s w : Proc ε Unit) := neverPanics_call nofun

theorem expectCid_of_typed {addr : SockAddr} (h : SocketAddressParser.Typed addr) : expectCid addr ≠ .panic := by
  obtain ⟨cid, port, rfl, -⟩ := h.eq_vsock
  nofun

theorem Bootstrap.new_of_typed {kernel : Interfaces} {cfg : CliHost} {b : ExponentialBackoff}
    (h : SocketAddressParser.Typed cfg.ingressVsockAddress) : Bootstrap.new kernel cfg b ≠ .panic := by
  obtain ⟨cid, port, haddr, -⟩ := h.eq_vsock
  unfold Bootstrap.new
  rw [haddr]
  split <;> nofun

theorem HostArgs.run_neverPanics {kernel : Interfaces} {cfg : HostArgs} {b : ExponentialBackoff}
    (h : SocketAddressParser.Typed cfg.ingressVsockAddress) : NeverPanics (cfg.run kernel b) := by
  refine neverPanics_andThen CliHost.setup_neverPanics.embed fun _ => ?_
  split
  · exact neverPanics_fail
  refine neverPanics_andThen (neverPanics_ofOutcome (Bootstrap.new_of_typed h)) fun server => ?_
  refine neverPanics_andThen neverPanics_spawnBlocking fun _ => ?_
  refine neverPanics_andThen neverPanics_spawnBlocking fun _ => ?_
  refine neverPanics_andThen (neverPanics_ofOutcome (expectCid_of_typed h)) fun peerCid => ?_
  exact neverPanics_andThen neverPanics_spawnBlocking fun _ => neverPanics_pure

theorem EnclaveArgs.run_neverPanics {fromSlice : Bytes → Option Record} {parseNetwork : String → Option Ipv4Network}
    {cfg : EnclaveArgs} {b : ExponentialBackoff} (h : SocketAddressParser.Typed cfg.egressVsockAddress) :
    NeverPanics (cfg.run fromSlice parseNetwork b) := by
  refine neverPanics_andThen Bootstrap.get_neverPanics.embed fun r => ?_
  refine neverPanics_andThen CliEnclave.setup_neverPanics.embed fun _ => ?_
  split
  · exact neverPanics_fail
  refine neverPanics_andThen neverPanics_ofExcept fun a => ?_
  refine neverPanics_andThen (neverPanics_ofOutcome (expectCid_of_typed h)) fun peerCid => ?_
  refine neverPanics_andThen neverPanics_spawnBlocking fun _ => ?_
  exact neverPanics_andThen neverPanics_spawnBlocking fun _ => neverPanics_pure

theorem neverPanics_main {run : Proc Error (List Service)} (hrun : NeverPanics run) :
    NeverPanics (Glycerine.main run) := by
  intro t hx
  obtain ⟨op, ho, -⟩ | ⟨-, hp⟩ | ⟨e, ho, -⟩ | ⟨tasks, t₁, t₂, -, -, hs⟩ := exec_main hx
  · cases ho
  · exact hrun t hp
  · cases ho
  · obtain ⟨-, ho⟩ | ⟨_, -, ho⟩ | ⟨_, -, ho⟩ | ⟨-, ho⟩ | ⟨-, ho⟩ | ⟨_, -, ho⟩ := exec_supervise hs <;> cases ho

/-! ## Over netlink -/

variable {M : Type}

/-- The operations of a process, and those on a netlink socket. -/
abbrev procNetSig (M : Type) : Sig :=
  ⟨ProcOp ⊕ NetlinkOp, fun
    | .inl op => op.Res
    | .inr op => op.Res M⟩

instance : DecidableEq (procNetSig M).Op := inferInstanceAs (DecidableEq (ProcOp ⊕ NetlinkOp))

def setupNetOps : Embedding (netSig M) (procNetSig M) where
  op := Sum.map .kernel id
  res
    | .inl _ => rfl
    | .inr _ => rfl

def procNetlinkOps : Embedding (netlinkSig M) (procNetSig M) := ⟨.inr, fun _ => rfl⟩

section
variable (cbRun : M → UInt32 → UInt32 → Except IoError Unit) (finalize : Nftables.Batch → FinalizedBatch)

/-- A process whose setup sends its batches as in `overNetlink`. -/
def processOverNetlink : Impl procSig (procNetSig M)
  | .kernel op => Prog.embed setupNetOps (overNetlink cbRun finalize op)
  | op => .call (.inl op) some

/-- A thread has panicked, by itself or while it sent a batch. -/
def Panics {ε α : Type} (p : Proc ε α) (t : Trace (procNetSig M)) : Prop :=
  ∃ o, o ∈ [none, some .panic] ∧ Exec (p.carry (processOverNetlink cbRun finalize)) t (.done o)

/-- No thread of a process has panicked, except for the task that waits for a signal if it could not install its
handlers. -/
structure OnlyHandlers (run : Proc Error (List Service)) (g : JointTrace Thread (procNetSig M)) : Prop where
  main : ¬ Panics cbRun finalize (Glycerine.main run) (part .main g)
  services : ∀ s w, ¬ Panics cbRun finalize (service w) (part (.service s) g)
  signal : Panics cbRun finalize waitForShutdownSignal (part .signal g) →
    ∃ e, part .signal g = [⟨.inl .awaitSignal, .error e⟩]

end

/-- The connections that a process accepts come from vsock addresses. -/
def VsockPeers (g : JointTrace Thread (procNetSig M)) : Prop :=
  ∀ (i : Thread) (op : SysOp) (r : op.Res), (i, ⟨.inl (.sys op), r⟩) ∈ g → ¬ Alien ⟨op, r⟩

section
variable {cbRun : M → UInt32 → UInt32 → Except IoError Unit} {finalize : Nftables.Batch → FinalizedBatch}
variable {t : Trace (procNetSig M)}

/-- An operation dies only of a batch with too many answers. -/
theorem not_answersOnce_of_died {op : ProcOp} {v : Trace (procNetSig M)}
    (hx : Exec (processOverNetlink cbRun finalize op) v (.done none)) : ¬ AnswersOnce procNetlinkOps (t ++ v) := by
  cases op with
  | kernel op =>
    obtain ⟨v, rfl, hdied⟩ := exec_embed_done.1 hx
    obtain ⟨batch, portid, ds, rfl, hlt⟩ := exceeds_of_died hdied
    rw [List.map_map]
    exact not_answersOnce (i := procNetlinkOps) hlt
  | _ =>
    obtain ⟨-, ho⟩ | ⟨r, -, ho⟩ := exec_call.1 hx
    · cases ho
    · cases ho

/-- Otherwise the thread itself has panicked. -/
theorem Panics.spread {ε α : Type} {p : Proc ε α} (honce : AnswersOnce procNetlinkOps t)
    (h : Panics cbRun finalize p t) :
    ∃ u, Exec p u (.done .panic) ∧ Spread (processOverNetlink cbRun finalize) u t := by
  obtain ⟨o, ho, hx⟩ := h
  cases carries_of_exec hx with
  | done hp hu =>
    rw [List.mem_cons, List.mem_singleton] at ho
    obtain ho | ho := ho
    · cases ho
    · cases ho
      exact ⟨_, hp, hu⟩
  | died _ _ hdied => exact absurd honce (not_answersOnce_of_died hdied)

/-- The operations that are no setup are there as they are. -/
theorem mem_of_spread {u : Trace procSig} (h : Spread (processOverNetlink cbRun finalize) u t) {op : SysOp}
    {r : op.Res} (hmem : ⟨.sys op, r⟩ ∈ u) : ⟨.inl (.sys op), r⟩ ∈ t := by
  obtain ⟨g, v, g', rfl, hx⟩ := h.mem hmem
  obtain ⟨-, ho⟩ | ⟨r', rfl, ho⟩ := exec_call.1 hx
  · cases ho
  · cases ho
    simp

theorem spread_awaitSignal {r : Except IoError Unit}
    (h : Spread (processOverNetlink cbRun finalize) [⟨.awaitSignal, r⟩] t) : t = [⟨.inl .awaitSignal, r⟩] := by
  cases h with
  | cons hx hnil =>
    cases hnil
    obtain ⟨-, ho⟩ | ⟨r', rfl, ho⟩ := exec_call.1 hx
    · cases ho
    · cases ho
      rfl

theorem onlyHandlers {run : Proc Error (List Service)} {g : JointTrace Thread (procNetSig M)}
    (hrun : NeverPanics run) (hp : VsockPeers g) (honce : ∀ i, AnswersOnce procNetlinkOps (part i g)) :
    OnlyHandlers cbRun finalize run g where
  main h := by
    obtain ⟨u, hx, -⟩ := h.spread (honce .main)
    exact neverPanics_main hrun _ hx
  services s w h := by
    obtain ⟨u, hx, hu⟩ := h.spread (honce (.service s))
    obtain ⟨h, o', hw, ⟨rfl, hdone⟩ | ⟨e, -, -, ho⟩⟩ := exec_service hx
    · obtain ⟨rfl, -⟩ := hdone _ rfl
      obtain ⟨⟨op, r⟩, he, halien⟩ := Worker.alien_of_panic hw
      have hmem : ⟨.sys op, r⟩ ∈ h.map sysOps.event := List.mem_map.2 ⟨_, he, rfl⟩
      exact hp (.service s) op r (mem_part.1 (mem_of_spread hu hmem)) halien
    · cases ho
  signal h := by
    obtain ⟨u, hx, hu⟩ := h.spread (honce .signal)
    obtain ⟨-, ho⟩ | ⟨e, rfl, -⟩ | ⟨-, ho⟩ | ⟨-, ho⟩ := exec_waitForShutdownSignal hx
    · cases ho
    · exact ⟨e, spread_awaitSignal hu⟩
    · cases ho
    · cases ho

end

/-- **Only the handlers of signals panic.** With addresses from the command line, and a kernel that answers each message
of a batch at most once, whatever else comes in and whatever fails, in every history of the threads of a host or of an
enclave. -/
theorem only_handlers_panic (cbRun : M → UInt32 → UInt32 → Except IoError Unit)
    (finalize : Nftables.Batch → FinalizedBatch) :
    (∀ kernel (cfg : HostArgs) b g, SocketAddressParser.Typed cfg.ingressVsockAddress → VsockPeers g →
      (∀ i, AnswersOnce procNetlinkOps (part i g)) → OnlyHandlers cbRun finalize (cfg.run kernel b) g) ∧
    ∀ fromSlice parseNetwork (cfg : EnclaveArgs) b g, SocketAddressParser.Typed cfg.egressVsockAddress →
      VsockPeers g → (∀ i, AnswersOnce procNetlinkOps (part i g)) →
        OnlyHandlers cbRun finalize (cfg.run fromSlice parseNetwork b) g :=
  ⟨fun _ _ _ _ h hp honce => onlyHandlers (HostArgs.run_neverPanics h) hp honce,
    fun _ _ _ _ _ h hp honce => onlyHandlers (EnclaveArgs.run_neverPanics h) hp honce⟩

namespace Demo

theorem hostArgs_typed : SocketAddressParser.Typed hostArgs.ingressVsockAddress :=
  ⟨none, _, SocketAddressParser.parseRef_eq_ok.2 ⟨_, 4, 8000, OsStr.toStr_toUTF8 _,
    @written_displaySockAddr 4 8000 (by decide) (by decide), rfl⟩⟩

/-- The messages that are read next. -/
def answersNext : Trace (procNetSig M) → Nat
  | ⟨.inr .recv, .ok messages⟩ :: t => messages.length + answersNext t
  | _ => 0

/-- If it begins with a batch, that is answered once. -/
def beginsAnswered : Trace (procNetSig M) → Bool
  | ⟨.inr (.sendAll batch), _⟩ :: t => answersNext t ≤ batch.sequenceNumbers.length
  | _ => true

theorem le_answersNext (ds : List (List (Except IoError M))) (t : Trace (procNetSig M)) :
    ds.flatten.length ≤ answersNext (ds.map (fun d => ⟨.inr .recv, .ok d⟩) ++ t) := by
  induction ds with
  | nil => exact Nat.zero_le _
  | cons d ds ih =>
    simp only [List.flatten_cons, List.length_append, List.map_cons, List.cons_append, answersNext]
    omega

theorem answersOnce_of_tails {t : Trace (procNetSig M)} (h : t.tails.all beginsAnswered = true) :
    AnswersOnce procNetlinkOps t := by
  intro g batch portid ds g' ht
  have hread : (Nftnl.reading batch portid ds).map procNetlinkOps.event =
      ⟨.inr .new, .ok portid⟩ :: ⟨.inr (.sendAll batch), .ok ()⟩ :: ds.map fun d => ⟨.inr .recv, .ok d⟩ := by
    unfold Nftnl.reading
    rw [List.map_cons, List.map_cons, List.map_map]
    rfl
  have hsent : ⟨.inr (.sendAll batch), .ok ()⟩ :: (ds.map (fun d => ⟨.inr .recv, .ok d⟩) ++ g') ∈ t.tails := by
    rw [List.mem_tails, ht, hread]
    exact ⟨g ++ [⟨.inr .new, .ok portid⟩], by simp⟩
  have hle := of_decide_eq_true (List.all_eq_true.1 h _ hsent)
  have hds := le_answersNext ds g'
  omega

/-- What is no setup is done as it is. -/
def asItIs (e : ProcEvent) : Event (procNetSig UInt32) := ⟨.inl e.1, e.2⟩

/-- The host of `untilSignal` and `afterSignal`, over netlink. -/
def hostOverNetlink : JointTrace Thread (procNetSig UInt32) :=
  (servingOverNetlink.map setupNetOps.event ++ hostServices.map fun s => asItIs (spawnEvent s)).map (Prod.mk .main) ++
    ((.signal, ⟨.awaitSignal, .ok ()⟩) :: (.signal, ⟨.cancel, ()⟩) :: afterSignal).map fun x => (x.1, asItIs x.2)

def notAlien : Event (procNetSig UInt32) → Bool
  | ⟨.inl (.sys op), r⟩ => ¬ Alien ⟨op, r⟩
  | _ => true

theorem hostOverNetlink_vsockPeers : VsockPeers hostOverNetlink := by
  have hall : (hostOverNetlink.all fun x => notAlien x.2) = true := by decide +kernel
  exact fun i op r hmem => of_decide_eq_true (List.all_eq_true.1 hall _ hmem)

theorem hostOverNetlink_answersOnce (i : Thread) : AnswersOnce procNetlinkOps (part i hostOverNetlink) := by
  refine answersOnce_of_tails ?_
  cases i with
  | main => decide +kernel
  | signal => decide +kernel
  | service s => cases s <;> decide +kernel

theorem hostRun_onlyHandlers :
    (∃ o, Exec ((main hostRun).carry (processOverNetlink acknowledges numbered)) (part .main hostOverNetlink) o) ∧
      OnlyHandlers acknowledges numbered hostRun hostOverNetlink :=
  ⟨⟨.asks (.inl (.timeout 5000 [.bootstrap, .ingress, .egress])), exec_of_script 400 (by decide +kernel)⟩,
    (only_handlers_panic acknowledges numbered).1 _ _ _ _ hostArgs_typed hostOverNetlink_vsockPeers
      hostOverNetlink_answersOnce⟩

end Demo
end Glycerine
