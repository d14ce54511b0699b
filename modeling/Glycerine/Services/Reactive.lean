import Glycerine.Bootstrap.Get
import Glycerine.Bootstrap.Serve
import Glycerine.Interact.Reactive
import Glycerine.Proxy.Ipv4
import Glycerine.Proxy.Nfq
import Glycerine.Setup.Enclave
import Glycerine.Setup.Host
/-
# No service spins

Every loop of the services and of the setups performs an operation before it goes round, so they are `Reactive`:
wherever one of them waits, it goes on with every answer.
-/

namespace Glycerine
open Interact hiding reactive_call reactive_loop
open Interact.Task

/-! ## The system boundary -/

/-- Every operation has an answer. -/
theorem SysOp.answers : ∀ op : SysOp, Nonempty op.Res
  | .isCancelled => ⟨true⟩
  | .now => ⟨(0 : Nat)⟩
  | .nextBackoff _ _ => ⟨none⟩
  | .sleep _ | .dropSocket _ | .dropQueue _ => ⟨()⟩
  | .socketNew _ _ _ | .queueOpen => ⟨.error (.os 0)⟩
  | .bind _ _ | .listen _ _ | .connect _ _ | .shutdown _ _ | .setReadTimeout _ _ | .setWriteTimeout _ _
  | .bindDevice _ _ | .setHeaderIncludedV4 _ _ | .setRecvBufferSize _ _ => ⟨.ok ()⟩
  | .queueBind _ _ | .setRecvEnobufs _ _ | .setQueueMaxLen _ _ _ | .verdict _ _ => ⟨.ok ()⟩
  | .accept _ | .localAddr _ | .read _ _ | .recv _ => ⟨.error (.os 0)⟩
  | .write _ _ | .send _ _ | .sendTo _ _ _ => ⟨.error (.os 0)⟩

section
variable {α : Type}

theorem reactive_nonZero {msg : String} {p : Sys IoError Nat} (hp : Reactive p) : Reactive (nonZero msg p) := by
  refine reactive_andThen hp fun n => ?_
  split
  · exact reactive_ret
  · exact reactive_fail

theorem reactive_retryStep {b : ExponentialBackoff} {op : Sys BackoffError α} {start : Nat} (hop : Reactive op) :
    Reactive (retryStep b op start) := by
  refine reactive_andThen (reactive_attempt hop) fun r => ?_
  split
  · exact reactive_ret
  · exact reactive_fail
  · refine reactive_andThen reactive_call fun t => reactive_andThen reactive_call fun d => ?_
    split
    · exact reactive_andThen reactive_call fun _ => reactive_ret
    · exact reactive_fail

/-- The token is looked at before every attempt. -/
theorem reactive_withBackoff {b : ExponentialBackoff} {op : Sys Error α} (hop : Reactive op) :
    Reactive (withBackoff b op) := by
  have hattempt : Reactive (unlessCancelled op) := by
    refine reactive_andThen reactive_call fun stop => ?_
    split
    · exact reactive_fail
    · exact reactive_mapErr hop
  refine reactive_mapErr (reactive_andThen reactive_call fun start => ?_)
  exact reactive_loop_of_loud (fun _ => reactive_retryStep hattempt) (fun _ => ((loud_call.bind _).bind _).bind _) ()

end

namespace Vsock

theorem reactive_shutdown {s : Fd} {how : Shutdown} : Reactive (shutdown s how) :=
  reactive_andThen (reactive_mapErr reactive_call) fun _ => reactive_mapErr reactive_call

theorem reactive_acceptConnection {s : Fd} {peerCid : Nat} : Reactive (acceptConnection s peerCid) := by
  refine reactive_andThen (reactive_mapErr reactive_call) fun _ => ?_
  refine reactive_andThen (reactive_mapErr reactive_call) fun ⟨_, peer⟩ => ?_
  dsimp only
  cases peer.asVsockAddress with
  | none => exact reactive_panic
  | some a =>
    dsimp only
    split
    · exact reactive_andThen (reactive_attempt reactive_call) fun _ => reactive_andThen reactive_call fun _ =>
        reactive_fail
    · exact reactive_ret

theorem reactive_acceptConnectionWithBackoff {s : Fd} {peerCid : Nat} {b : ExponentialBackoff} :
    Reactive (acceptConnectionWithBackoff s peerCid b) := reactive_withBackoff reactive_acceptConnection

theorem reactive_newClientSocketWithBackoff {a : SockAddr} {b : ExponentialBackoff} :
    Reactive (newClientSocketWithBackoff a b) := by
  refine reactive_withBackoff (reactive_andThen (reactive_mapErr reactive_call) fun _ => ?_)
  refine reactive_andThen (reactive_mapErr reactive_call) fun _ => ?_
  exact reactive_andThen (reactive_mapErr reactive_call) fun _ => reactive_ret

theorem reactive_newListenerSocketWithBackoff {a : SockAddr} {b : ExponentialBackoff} :
    Reactive (newListenerSocketWithBackoff a b) := by
  refine reactive_withBackoff (reactive_andThen (reactive_mapErr reactive_call) fun _ => ?_)
  refine reactive_andThen (reactive_mapErr reactive_call) fun _ => ?_
  exact reactive_andThen (reactive_mapErr reactive_call) fun _ => reactive_ret

end Vsock

/-! ## The sender -/

namespace NfqToVsock
variable {self : NfqToVsock} {q c : Fd}

theorem reactive_sendPayload {payload : Bytes} : Reactive (sendPayload c payload) := by
  refine reactive_loop (fun sent => ?_) (fun sent sent' h => ?_) 0
  · unfold sendStep
    split
    · exact reactive_andThen (reactive_mapErr (reactive_nonZero reactive_call)) fun _ => reactive_ret
    · exact reactive_ret
  · unfold sendStep at h
    split at h
    · exact ((loud_call.bind _).bind _).bind _ _ h
    · cases (exec_ret h).2

theorem reactive_pump : Reactive (pump q c) := by
  refine reactive_loop_of_loud (fun _ => ?_) (fun _ => loud_call.bind _) ()
  refine reactive_andThen reactive_call fun stop => ?_
  split
  · exact reactive_ret
  refine reactive_andThen (reactive_attempt reactive_call) fun r => ?_
  split
  · split
    · exact reactive_ret
    · exact reactive_fail
  · refine reactive_andThen (reactive_andThen reactive_sendPayload fun _ => reactive_mapErr reactive_call) fun _ => ?_
    exact reactive_ret

theorem reactive_newSrcNetfilterQueue : Reactive self.newSrcNetfilterQueue := by
  refine reactive_withBackoff (reactive_andThen (reactive_mapErr reactive_call) fun _ => ?_)
  refine reactive_andThen (reactive_mapErr reactive_call) fun _ => ?_
  refine reactive_andThen (reactive_mapErr reactive_call) fun _ => ?_
  exact reactive_andThen (reactive_mapErr reactive_call) fun _ => reactive_ret

theorem reactive_newDstVsockSocket : Reactive self.newDstVsockSocket :=
  reactive_andThen Vsock.reactive_newClientSocketWithBackoff fun _ =>
    reactive_andThen Vsock.reactive_shutdown fun _ => reactive_ret

theorem run_reactive : Reactive self.run := by
  refine reactive_andThen reactive_newSrcNetfilterQueue fun _ => reactive_andThen reactive_newDstVsockSocket fun _ => ?_
  refine reactive_loop_of_loud (fun s => ?_) (fun s => loud_call.bind _) _
  refine reactive_andThen reactive_call fun stop => ?_
  split
  · exact reactive_ret
  refine reactive_andThen (reactive_attempt reactive_pump) fun r => ?_
  split
  · exact reactive_andThen reactive_call fun _ => reactive_andThen reactive_newSrcNetfilterQueue fun _ => reactive_ret
  · exact reactive_andThen reactive_newDstVsockSocket fun _ => reactive_andThen reactive_call fun _ => reactive_ret
  · exact reactive_fail
  · exact reactive_ret

end NfqToVsock

/-! ## The receiver -/

theorem reactive_slice {n : Nat} {ε : Type} {buf : Buf n} {i j : Nat} : Reactive (slice buf i j : Sys ε Bytes) := by
  unfold slice
  split
  · exact reactive_ret
  · exact reactive_panic

theorem reactive_readExact {s : Fd} {n : Nat} : Reactive (readExact s n) := by
  refine reactive_loop (fun got => ?_) (fun got got' h => ?_) _
  · unfold readStep
    split
    · exact reactive_ret
    refine reactive_andThen (reactive_attempt reactive_call) fun r => ?_
    split
    · split
      · exact reactive_fail
      · exact reactive_ret
    · split
      · exact reactive_ret
      · exact reactive_fail
  · unfold readStep at h
    split at h
    · cases (exec_ret h).2
    · exact (loud_call.bind _).bind _ _ h

theorem reactive_readExactInto {n : Nat} {s : Fd} {buf : Buf n} {i j : Nat} :
    Reactive (readExactInto s buf i j) := by
  unfold readExactInto
  split
  · exact reactive_andThen reactive_readExact fun _ => reactive_ret
  · exact reactive_panic

namespace VsockToIpv4
variable {self : VsockToIpv4} {l src tcp udp : Fd}

theorem reactive_sendPayload {s : Fd} {wrap : IoError → Error} {buf : Buf Ipv4.MAX_PACKET_SIZE} {n : Nat} :
    Reactive (self.sendPayload s wrap buf n) := by
  refine reactive_loop (fun sent => ?_) (fun sent sent' h => ?_) 0
  · unfold sendStep
    split
    · refine reactive_andThen reactive_slice fun _ => ?_
      exact reactive_andThen (reactive_mapErr (reactive_nonZero reactive_call)) fun _ => reactive_ret
    · exact reactive_ret
  · unfold sendStep at h
    split at h
    · obtain ⟨chunk, t₁, t₂, ht, -, hx⟩ := exec_andThen_ok h
      obtain ⟨rfl, rfl⟩ := List.append_eq_nil_iff.1 ht.symm
      exact ((loud_call.bind _).bind _).bind _ _ hx
    · cases (exec_ret h).2

theorem reactive_dispatch {pr : Protocol} {buf : Buf Ipv4.MAX_PACKET_SIZE} {n : Nat} :
    Reactive (self.dispatch tcp udp pr buf n) := by
  unfold dispatch
  dsimp only
  split
  · exact reactive_ret
  · split
    · exact reactive_sendPayload
    · split
      · exact reactive_sendPayload
      · exact reactive_panic

theorem reactive_pump : Reactive (self.pump src tcp udp) := by
  refine reactive_loop_of_loud (fun buf => ?_) (fun buf => loud_call.bind _) _
  refine reactive_andThen reactive_call fun stop => ?_
  split
  · exact reactive_ret
  refine reactive_andThen (reactive_mapErr reactive_readExactInto) fun _ => reactive_andThen reactive_slice fun _ => ?_
  refine reactive_andThen reactive_ofExcept fun _ => ?_
  refine reactive_andThen (reactive_mapErr reactive_readExactInto) fun _ => ?_
  exact reactive_andThen reactive_dispatch fun _ => reactive_ret

theorem reactive_newSrcVsockSocket : Reactive (self.newSrcVsockSocket l) :=
  reactive_andThen Vsock.reactive_acceptConnectionWithBackoff fun _ =>
    reactive_andThen Vsock.reactive_shutdown fun _ => reactive_ret

theorem reactive_newDstIpv4Socket {pr : Protocol} : Reactive (self.newDstIpv4Socket pr) := by
  refine reactive_withBackoff (reactive_andThen (reactive_mapErr reactive_call) fun _ => ?_)
  refine reactive_andThen (reactive_mapErr reactive_call) fun _ => ?_
  refine reactive_andThen (reactive_mapErr reactive_call) fun _ => ?_
  exact reactive_andThen (reactive_mapErr reactive_call) fun _ => reactive_ret

theorem run_reactive : Reactive self.run := by
  refine reactive_andThen Vsock.reactive_newListenerSocketWithBackoff fun l => ?_
  refine reactive_andThen reactive_newSrcVsockSocket fun _ => ?_
  refine reactive_andThen reactive_newDstIpv4Socket fun _ => reactive_andThen reactive_newDstIpv4Socket fun _ => ?_
  refine reactive_loop_of_loud (fun s => ?_) (fun s => loud_call.bind _) _
  refine reactive_andThen reactive_call fun stop => ?_
  split
  · exact reactive_ret
  refine reactive_andThen (reactive_attempt reactive_pump) fun r => ?_
  split
  · exact reactive_andThen reactive_call fun _ => reactive_andThen reactive_newSrcVsockSocket fun _ => reactive_ret
  · exact reactive_andThen reactive_call fun _ => reactive_andThen reactive_newDstIpv4Socket fun _ => reactive_ret
  · exact reactive_andThen reactive_call fun _ => reactive_andThen reactive_newDstIpv4Socket fun _ => reactive_ret
  · exact reactive_fail
  · exact reactive_ret

end VsockToIpv4

/-! ## The bootstrap service, and `get` -/

namespace Bootstrap
variable {self : Bootstrap} {c l : Fd}

theorem reactive_serve : Reactive (self.serve c) := by
  refine reactive_loop (fun pos => ?_) (fun pos pos' h => ?_) 0
  · unfold serveStep
    split
    · refine reactive_andThen reactive_call fun stop => ?_
      split
      · exact reactive_ret
      · exact reactive_andThen (reactive_mapErr (reactive_nonZero reactive_call)) fun _ => reactive_ret
    · exact reactive_ret
  · unfold serveStep at h
    split at h
    · exact loud_call.bind _ _ h
    · cases (exec_ret h).2

theorem reactive_newClientVsockSocket : Reactive (self.newClientVsockSocket l) :=
  reactive_andThen Vsock.reactive_acceptConnectionWithBackoff fun _ =>
    reactive_andThen Vsock.reactive_shutdown fun _ =>
      reactive_andThen (reactive_mapErr reactive_call) fun _ => reactive_ret

theorem run_reactive : Reactive self.run := by
  refine reactive_andThen Vsock.reactive_newListenerSocketWithBackoff fun l => ?_
  refine reactive_loop_of_loud (fun _ => ?_) (fun _ => loud_call.bind _) ()
  refine reactive_andThen reactive_call fun stop => ?_
  split
  · exact reactive_ret
  refine reactive_andThen reactive_newClientVsockSocket fun _ => ?_
  refine reactive_andThen (reactive_attempt reactive_serve) fun r => ?_
  split
  · exact reactive_andThen reactive_call fun _ => reactive_ret
  · exact reactive_andThen reactive_call fun _ => reactive_ret
  · exact reactive_fail

theorem get_reactive {fromSlice : Bytes → Option Record} {a : SockAddr} {b : ExponentialBackoff} :
    Reactive (get fromSlice a b) := by
  refine reactive_andThen Vsock.reactive_newClientSocketWithBackoff fun s => ?_
  refine reactive_andThen Vsock.reactive_shutdown fun _ => reactive_andThen (reactive_mapErr reactive_call) fun _ => ?_
  refine reactive_andThen (reactive_mapErr reactive_call) fun _ => ?_
  refine reactive_andThen (reactive_loop_of_loud (fun buf => ?_) (fun buf => loud_call.bind _) _) fun bs => ?_
  · refine reactive_andThen reactive_call fun stop => ?_
    split
    · exact reactive_ret
    · refine reactive_andThen reactive_ofExcept fun buf => ?_
      refine reactive_andThen (reactive_mapErr reactive_call) fun bs => ?_
      split
      · exact reactive_ret
      · exact reactive_ret
  · split
    · exact reactive_ret
    · exact reactive_fail

end Bootstrap

/-! ## The setups -/

theorem reactive_setEphemeralPorts {start stop : UInt16} : Reactive (setEphemeralPorts start stop) := by
  refine reactive_andThen (reactive_mapErr reactive_call) fun _ => ?_
  refine reactive_andThen reactive_ofExcept fun _ => reactive_andThen reactive_ofExcept fun _ => ?_
  split
  · exact reactive_ret
  · exact reactive_andThen (reactive_mapErr reactive_call) fun _ => reactive_ret

theorem reactive_addIngressNetfilterPacketsSink {num : UInt16} {interface : String} {pr : Protocol}
    {ranges : List (UInt16 × UInt16)} : Reactive (addIngressNetfilterPacketsSink num interface pr ranges) := by
  refine reactive_andThen reactive_ofExcept fun _ => reactive_andThen reactive_ofExcept fun _ => ?_
  refine reactive_andThen reactive_ofExcept fun _ => ?_
  exact reactive_andThen (reactive_mapErr reactive_call) fun _ => reactive_ret

theorem reactive_addEgressNetfilterPacketsSink {num : UInt16} {pr : Protocol} {a : Ipv4Addr}
    {ranges : List (UInt16 × UInt16)} : Reactive (addEgressNetfilterPacketsSink num pr a ranges) := by
  refine reactive_andThen reactive_ofExcept fun _ => reactive_andThen reactive_ofExcept fun _ => ?_
  exact reactive_andThen (reactive_mapErr reactive_call) fun _ => reactive_ret

theorem reactive_interfaceIndex {interface : String} : Reactive (interfaceIndex interface) := by
  refine reactive_andThen (reactive_mapErr reactive_call) fun r => ?_
  split
  · exact reactive_ret
  · exact reactive_fail

theorem reactive_ensureDefaultIpv4Route {interface : String} {a : Ipv4Network} :
    Reactive (ensureDefaultIpv4Route interface a) := by
  refine reactive_andThen (reactive_mapErr reactive_call) fun _ => reactive_andThen reactive_interfaceIndex fun _ => ?_
  refine reactive_andThen reactive_call fun _ => ?_
  refine reactive_andThen (reactive_loop_of_loud (fun _ => ?_) (fun _ => (loud_call.bind _).bind _) ()) fun _ =>
    reactive_mapErr reactive_call
  refine reactive_andThen (reactive_mapErr reactive_call) fun r => ?_
  split
  · exact reactive_ret
  · split
    · exact reactive_ret
    · exact reactive_andThen (reactive_mapErr reactive_call) fun _ => reactive_ret

theorem reactive_addIpv4InterfaceAddress {interface : String} {a : Ipv4Network} :
    Reactive (addIpv4InterfaceAddress interface a) := by
  refine reactive_andThen (reactive_mapErr reactive_call) fun _ => reactive_andThen reactive_interfaceIndex fun _ => ?_
  refine reactive_andThen (reactive_attempt reactive_call) fun r => ?_
  split
  · split
    · exact reactive_ret
    · exact reactive_fail
  · exact reactive_fail
  · exact reactive_ret

theorem reactive_ifreqFor {interface : String} : Reactive (ifreqFor interface) :=
  reactive_andThen reactive_ofExcept fun _ => reactive_andThen (reactive_mapErr reactive_call) fun _ => reactive_ret

theorem reactive_bringInterfaceUp {interface : String} : Reactive (bringInterfaceUp interface) := by
  refine reactive_andThen reactive_ifreqFor fun _ => reactive_andThen (reactive_mapErr reactive_call) fun _ => ?_
  split
  · exact reactive_ret
  · exact reactive_andThen (reactive_mapErr reactive_call) fun _ => reactive_ret

theorem reactive_setMtu {interface : String} {mtu : Int32} : Reactive (setMtu interface mtu) := by
  refine reactive_andThen reactive_ifreqFor fun _ => reactive_andThen (reactive_mapErr reactive_call) fun _ => ?_
  split
  · exact reactive_ret
  · exact reactive_andThen (reactive_mapErr reactive_call) fun _ => reactive_ret

theorem CliHost.setup_reactive {cfg : CliHost} : Reactive cfg.setup := by
  refine reactive_andThen reactive_ofExcept fun _ => reactive_andThen reactive_setEphemeralPorts fun _ => ?_
  refine reactive_andThen reactive_addIngressNetfilterPacketsSink fun _ => ?_
  exact reactive_andThen reactive_addIngressNetfilterPacketsSink fun _ => reactive_ret

theorem CliEnclave.setup_reactive {parseNetwork : String → Option Ipv4Network} {cfg : CliEnclave} {r : Record} :
    Reactive (cfg.setup parseNetwork r) := by
  refine reactive_andThen reactive_ofExcept fun _ => reactive_andThen reactive_bringInterfaceUp fun _ => ?_
  refine reactive_andThen reactive_addIpv4InterfaceAddress fun _ => ?_
  refine reactive_andThen reactive_ensureDefaultIpv4Route fun _ => reactive_andThen reactive_setMtu fun _ => ?_
  refine reactive_andThen reactive_setEphemeralPorts fun _ => ?_
  refine reactive_andThen reactive_addEgressNetfilterPacketsSink fun _ => ?_
  exact reactive_andThen reactive_addEgressNetfilterPacketsSink fun _ => reactive_ret

end Glycerine
