import Glycerine.Bootstrap.Shutdown
import Glycerine.Interact.Reactive
import Glycerine.Proxy.Ipv4
import Glycerine.Proxy.Nfq
import Glycerine.Setup.Enclave
import Glycerine.Setup.Host
/-
# The threads of a process

A process has a main thread, a task that waits for a signal, and a blocking task for each service. All of them share
one cancellation token.

| here | there |
| --- | --- |
| `HostArgs`, `EnclaveArgs`      | all fields of `CliHost` (`cli/host.rs:19`) and `CliEnclave` (`cli/enclave.rs:12`) |
| `service`                      | the closures of the blocking tasks (`host.rs:41-49`, `:62-70`, `:88-96`, `enclave.rs:79-87`, `:100-108`) |
| `HostArgs.run`                 | `run` (`host.rs:26`) |
| `EnclaveArgs.run`              | `run` (`enclave.rs:38`) |
| `waitForShutdownSignal`        | the task of `wait_for_shutdown_signal` (`main.rs:74-101`) |
| `main`                         | `main` (`main.rs:18-72`) from the point where the command line is parsed; its value is the exit code |

A blocking task that panics leaves a `JoinError` behind; `inspect_err` does not see it.
-/

namespace Glycerine
open Interact

/-! ## Operations -/

/-- The blocking tasks. -/
inductive Service where
  | bootstrap | ingress | egress
deriving DecidableEq, Repr

/-- What a blocking task runs. -/
inductive Worker where
  | bootstrap (server : Bootstrap)
  | nfqToVsock (proxy : NfqToVsock)
  | vsockToIpv4 (proxy : VsockToIpv4)
deriving DecidableEq

def Worker.run : Worker → Sys Error Unit
  | .bootstrap server => server.run
  | .nfqToVsock proxy => proxy.run
  | .vsockToIpv4 proxy => proxy.run

inductive ProcOp where
  | sys (op : SysOp)
  | kernel (op : KernelOp)
  | cancel
  /-- installs the handlers of SIGINT and SIGTERM and waits for one of them -/
  | awaitSignal
  | spawnBlocking (s : Service) (w : Worker)
  /-- `select!` of the end of all tasks and the cancellation -/
  | select (tasks : List Service)
  | timeout (ms : Nat) (tasks : List Service)
deriving DecidableEq

@[reducible] def ProcOp.Res : ProcOp → Type
  | .sys op => op.Res
  | .kernel op => op.Res
  | .cancel | .spawnBlocking _ _ => Unit
  | .awaitSignal => Except IoError Unit
  | .select _ | .timeout _ _ => Option (List (Outcome Error Unit))

abbrev procSig : Sig := ⟨ProcOp, ProcOp.Res⟩

instance : DecidableEq procSig.Op := inferInstanceAs (DecidableEq ProcOp)

abbrev Proc (ε α : Type) := Task procSig ε α

abbrev ProcEvent := Event procSig

def sysOps : Embedding sysSig procSig := ⟨.sys, fun _ => rfl⟩
def kernelOps : Embedding kernelSig procSig := ⟨.kernel, fun _ => rfl⟩

def ofSys {ε α : Type} (p : Sys ε α) : Proc ε α := Task.embed sysOps p
def ofSetup {ε α : Type} (p : Setup ε α) : Proc ε α := Task.embed kernelOps p

/-- A value that is computed without an operation, or a panic of `expect`. -/
def ofOutcome {ε α : Type} (x : Outcome ε α) : Proc ε α := Prog.pure x

def cancel {ε : Type} : Proc ε Unit := Task.call .cancel .ok
def spawnBlocking {ε : Type} (s : Service) (w : Worker) : Proc ε Unit := Task.call (.spawnBlocking s w) .ok
def select {ε : Type} (tasks : List Service) : Proc ε (Option (List (Outcome Error Unit))) :=
  Task.call (.select tasks) .ok
def timeout {ε : Type} (ms : Nat) (tasks : List Service) : Proc ε (Option (List (Outcome Error Unit))) :=
  Task.call (.timeout ms tasks) .ok

/-- What a thread has done on the workers' system boundary, and on that of the setup. -/
def sysPart : Trace procSig → History :=
  List.flatMap fun
    | ⟨.sys op, r⟩ => [⟨op, r⟩]
    | _ => []

def kernelPart : Trace procSig → SetupHistory :=
  List.flatMap fun
    | ⟨.kernel op, r⟩ => [⟨op, r⟩]
    | _ => []

/-! ## The tasks -/

/-- A service that fails cancels the token. -/
def service (w : Worker) : Proc Error Unit := do
  match ← Task.attempt (ofSys w.run) with
  | .ok () => pure ()
  | .error err =>
    cancel
    Task.fail err

def waitForShutdownSignal : Proc Error Unit := do
  Task.call .awaitSignal fun
    | .ok () => .ok ()
    | .error _ => .panic
  cancel

/-- `as_vsock_address().expect(..).0`. -/
def expectCid (addr : SockAddr) : Outcome Error Nat := addr.asVsockAddress.elim .panic fun a => .ok a.1

structure HostArgs extends CliHost where
  setupOnly : Bool
  ingressNetfilterQueueMaxLen : Nat
  egressVsockAddress : SockAddr
  egressIpv4SinkAddress : SockAddr
deriving DecidableEq

namespace HostArgs

def ingress (cfg : HostArgs) (backoff : ExponentialBackoff) : NfqToVsock where
  cfg :=
    { netfilterQueueNum := cfg.ingressNetfilterQueueNum.toNat
      netfilterQueueMaxLen := cfg.ingressNetfilterQueueMaxLen
      forwardAddress := cfg.ingressVsockAddress }
  backoff := backoff

def egress (cfg : HostArgs) (backoff : ExponentialBackoff) (peerCid : Nat) : VsockToIpv4 where
  cfg :=
    { listenAddress := cfg.egressVsockAddress
      peerCid := peerCid
      ipv4SinkAddress := cfg.egressIpv4SinkAddress
      ipv4Interface := cfg.interface }
  backoff := backoff

/-- `run` (host.rs:26). -/
def run (kernel : Interfaces) (cfg : HostArgs) (backoff : ExponentialBackoff) : Proc Error (List Service) := do
  ofSetup cfg.setup
  if cfg.setupOnly then Task.fail .glycerineShutdown
  else
    let server ← ofOutcome (Bootstrap.new kernel cfg.toCliHost backoff)
    spawnBlocking .bootstrap (.bootstrap server)
    spawnBlocking .ingress (.nfqToVsock (cfg.ingress backoff))
    let peerCid ← ofOutcome (expectCid cfg.ingressVsockAddress)
    spawnBlocking .egress (.vsockToIpv4 (cfg.egress backoff peerCid))
    pure [.bootstrap, .ingress, .egress]

end HostArgs

structure EnclaveArgs extends CliEnclave where
  bootstrapVsockAddress : SockAddr
  ingressVsockAddress : SockAddr
  egressNetfilterQueueMaxLen : Nat
  egressVsockAddress : SockAddr
  setupOnly : Bool
deriving DecidableEq

namespace EnclaveArgs

def ingress (cfg : EnclaveArgs) (backoff : ExponentialBackoff) (address : Ipv4Network) (peerCid : Nat) :
    VsockToIpv4 where
  cfg :=
    { listenAddress := cfg.ingressVsockAddress
      peerCid := peerCid
      ipv4SinkAddress := .inet address.ip.octets 0
      ipv4Interface := cfg.interface }
  backoff := backoff

def egress (cfg : EnclaveArgs) (backoff : ExponentialBackoff) : NfqToVsock where
  cfg :=
    { netfilterQueueNum := cfg.egressNetfilterQueueNum.toNat
      netfilterQueueMaxLen := cfg.egressNetfilterQueueMaxLen
      forwardAddress := cfg.egressVsockAddress }
  backoff := backoff

/-- `run` (enclave.rs:38); the address is parsed once more after the setup. -/
def run (fromSlice : Bytes → Option Record) (parseNetwork : String → Option Ipv4Network) (cfg : EnclaveArgs)
    (backoff : ExponentialBackoff) : Proc Error (List Service) := do
  let bootstrap ← ofSys (Bootstrap.get fromSlice cfg.bootstrapVsockAddress backoff)
  ofSetup (cfg.setup parseNetwork bootstrap)
  if cfg.setupOnly then Task.fail .glycerineShutdown
  else
    let address ← Task.ofExcept
      ((parseNetwork bootstrap.interface.ipv4NetworkAddress).elim (.error .ipNetworkError) .ok)
    let peerCid ← ofOutcome (expectCid cfg.egressVsockAddress)
    spawnBlocking .ingress (.vsockToIpv4 (cfg.ingress backoff address peerCid))
    spawnBlocking .egress (.nfqToVsock (cfg.egress backoff))
    pure [.ingress, .egress]

end EnclaveArgs

/-- From where the services run: they all end, or the token is cancelled and they have five seconds
(main.rs:53-71). -/
def supervise (tasks : List Service) : Proc Error Nat := do
  match ← select tasks with
  | some _ =>
    cancel
    pure 0
  | none =>
    match ← timeout 5000 tasks with
    | none => pure 1
    | some _ => pure 0

/-- `main` (main.rs:18) with `run` for the command. What the services have returned is only logged. -/
def main (run : Proc Error (List Service)) : Proc Error Nat := do
  match ← Task.attempt run with
  | .error err => pure (failureExitCode err)
  | .ok tasks => supervise tasks

end Glycerine
