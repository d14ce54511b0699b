import Glycerine.Interact.Drive
/-
# The system boundary of the workers

Everything the forwarding workers and the bootstrap service do to the outside world, one operation for each
call that leaves the repository.

| here | there |
| --- | --- |
| `IoError`               | `std::io::Error`, told apart as far as the source does: `raw_os_error` (`nfq.rs:97`), `ErrorKind` |
| `Error`                 | `proxy::Error` (`proxy/mod.rs:11-56`) |
| `SysOp`, `SysOp.Res`    | the methods of `socket2::Socket`, `nfq::Queue`, `CancellationToken` and the clock, with their results |
| `Socket.*`, `Queue.*`   | the same methods as tasks |
| `retry`                 | `backoff::retry` of the `backoff` crate |
| `unwrapBackoff`         | `Error::unwrap_backoff` (`proxy/mod.rs:58-65`) |
| `withBackoff`           | the closure every `*_with_backoff` function passes to `backoff::retry` (`vsock.rs:67-83`, `:139-154`, `:205-220`, `ipv4.rs:108-124`, `netfilter.rs:292-308`) |

A handle (`Fd`) is the name of one socket or queue, not a number that the kernel hands out again. Handles that
go out of scope when a function returns are not listed; a `drop` inside a loop, and a handle that an assignment
replaces, is an operation of its own. Log messages have no effect on the workers and are left out.
-/

namespace Glycerine
open Interact

abbrev Byte := UInt8
abbrev Bytes := List UInt8
abbrev Fd := Nat

/-! ## Errors -/

inductive ErrorKind where
  | writeZero | invalidData | unexpectedEof | interrupted | other
deriving DecidableEq, Repr

inductive IoError where
  | os (errno : Nat)
  | custom (kind : ErrorKind) (msg : String)
deriving DecidableEq, Repr

def ENOBUFS : Nat := 105
def EINTR : Nat := 4

def IoError.rawOsError : IoError → Option Nat
  | .os n => some n
  | .custom _ _ => none

/-- `err.is_interrupted()`, on which `read_exact` tries again. -/
def IoError.isInterrupted : IoError → Bool
  | .os n => n == EINTR
  | .custom k _ => k == .interrupted

/-- `rtnetlink::Error`: an error message of the kernel with its negative code, or a failure of the library. -/
inductive RtnetlinkError where
  | netlink (code : Option Int)
  | other (msg : String)
deriving DecidableEq, Repr

/-- `std::net::Ipv4Addr`. -/
structure Ipv4Addr where
  a : UInt8
  b : UInt8
  c : UInt8
  d : UInt8
deriving DecidableEq, Repr

def Ipv4Addr.octets (addr : Ipv4Addr) : Bytes := [addr.a, addr.b, addr.c, addr.d]

/-- `socket2::Protocol`, a wrapped protocol number. -/
structure Protocol where
  num : Nat
deriving DecidableEq, Repr

def Protocol.TCP : Protocol := ⟨6⟩
def Protocol.UDP : Protocol := ⟨17⟩

inductive Error where
  | cStringNulError
  | glycerineInvalidConfig (msg : String)
  | glycerineRuntime (msg : String)
  | glycerineShutdown
  | ioIpv4Tcp (e : IoError)
  | ioIpv4Udp (e : IoError)
  | ioNetlink (e : IoError)
  | ioNfq (e : IoError)
  | ioNftnl (e : IoError)
  | ioVsock (e : IoError)
  | ipNetworkError
  | json
  | nix (errno : Nat)
  | rtnetlink (e : RtnetlinkError)
  | unsupportedProtocol (p : Protocol)
deriving DecidableEq, Repr

/-! ## Operations -/

/-- `socket2::SockAddr`, as far as the source builds one. -/
inductive SockAddr where
  | vsock (cid port : Nat)
  | inet (addr : Bytes) (port : Nat)
deriving DecidableEq, Repr

def SockAddr.asVsockAddress : SockAddr → Option (Nat × Nat)
  | .vsock cid port => some (cid, port)
  | .inet _ _ => none

inductive Domain where
  | vsock | ipv4
deriving DecidableEq, Repr

inductive SockType where
  | stream | raw
deriving DecidableEq, Repr

inductive Shutdown where
  | read | write | both
deriving DecidableEq, Repr

inductive Verdict where
  | accept | drop
deriving DecidableEq, Repr

/-- `nfq::Message`; `id` is the packet id that the kernel gave it. -/
structure Message where
  id : Nat
  payload : Bytes
  verdict : Verdict
deriving DecidableEq, Repr

/-- The part of `backoff::ExponentialBackoff` that the crate's documentation lets a caller rely on. -/
structure ExponentialBackoff where
  maxElapsedTime : Option Nat
deriving DecidableEq, Repr

inductive SysOp where
  | isCancelled
  | now
  | nextBackoff (backoff : ExponentialBackoff) (elapsed : Nat)
  | sleep (d : Nat)
  | socketNew (domain : Domain) (ty : SockType) (protocol : Option Protocol)
  | bind (s : Fd) (addr : SockAddr)
  | listen (s : Fd) (backlog : Nat)
  | connect (s : Fd) (addr : SockAddr)
  | accept (s : Fd)
  | localAddr (s : Fd)
  | shutdown (s : Fd) (how : Shutdown)
  | setReadTimeout (s : Fd) (ms : Nat)
  | setWriteTimeout (s : Fd) (ms : Nat)
  | bindDevice (s : Fd) (interface : String)
  | setHeaderIncludedV4 (s : Fd) (on : Bool)
  | setRecvBufferSize (s : Fd) (size : Nat)
  | read (s : Fd) (n : Nat)
  | write (s : Fd) (bs : Bytes)
  | send (s : Fd) (bs : Bytes)
  | sendTo (s : Fd) (bs : Bytes) (addr : SockAddr)
  | dropSocket (s : Fd)
  | queueOpen
  | queueBind (q : Fd) (num : Nat)
  | setRecvEnobufs (q : Fd) (on : Bool)
  | setQueueMaxLen (q : Fd) (num len : Nat)
  | recv (q : Fd)
  | verdict (q : Fd) (m : Message)
  | dropQueue (q : Fd)
deriving DecidableEq, Repr

/-- The answers. A read gives at most the bytes asked for, a write takes at most the bytes offered. -/
@[reducible] def SysOp.Res : SysOp → Type
  | .isCancelled => Bool
  | .now => Nat
  | .nextBackoff _ _ => Option Nat
  | .sleep _ | .dropSocket _ | .dropQueue _ => Unit
  | .socketNew _ _ _ | .queueOpen => Except IoError Fd
  | .bind _ _ | .listen _ _ | .connect _ _ | .shutdown _ _ | .setReadTimeout _ _ | .setWriteTimeout _ _
  | .bindDevice _ _ | .setHeaderIncludedV4 _ _ | .setRecvBufferSize _ _ => Except IoError Unit
  | .queueBind _ _ | .setRecvEnobufs _ _ | .setQueueMaxLen _ _ _ | .verdict _ _ => Except IoError Unit
  | .accept _ => Except IoError (Fd × SockAddr)
  | .localAddr _ => Except IoError SockAddr
  | .read _ n => Except IoError {bs : Bytes // bs.length ≤ n}
  | .write _ bs | .send _ bs | .sendTo _ bs _ => Except IoError (Fin (bs.length + 1))
  | .recv _ => Except IoError Message

abbrev sysSig : Sig := ⟨SysOp, SysOp.Res⟩

abbrev Sys (ε α : Type) := Task sysSig ε α

abbrev SysEvent := Event sysSig

/-- What a worker has done so far. -/
abbrev History := Trace sysSig

instance : DecidableEq sysSig.Op := inferInstanceAs (DecidableEq SysOp)

def isCancelled {ε : Type} : Sys ε Bool := Task.call .isCancelled .ok
def now {ε : Type} : Sys ε Nat := Task.call .now .ok
def nextBackoff {ε : Type} (b : ExponentialBackoff) (elapsed : Nat) : Sys ε (Option Nat) :=
  Task.call (.nextBackoff b elapsed) .ok
def sleep {ε : Type} (d : Nat) : Sys ε Unit := Task.call (.sleep d) .ok

namespace Socket

def new (domain : Domain) (ty : SockType) (protocol : Option Protocol) : Sys IoError Fd :=
  Task.call (.socketNew domain ty protocol) .ofExcept
def bind (s : Fd) (addr : SockAddr) : Sys IoError Unit := Task.call (.bind s addr) .ofExcept
def listen (s : Fd) (backlog : Nat) : Sys IoError Unit := Task.call (.listen s backlog) .ofExcept
def connect (s : Fd) (addr : SockAddr) : Sys IoError Unit := Task.call (.connect s addr) .ofExcept
def accept (s : Fd) : Sys IoError (Fd × SockAddr) := Task.call (.accept s) .ofExcept
def localAddr (s : Fd) : Sys IoError SockAddr := Task.call (.localAddr s) .ofExcept
def shutdown (s : Fd) (how : Shutdown) : Sys IoError Unit := Task.call (.shutdown s how) .ofExcept
def setReadTimeout (s : Fd) (ms : Nat) : Sys IoError Unit := Task.call (.setReadTimeout s ms) .ofExcept
def setWriteTimeout (s : Fd) (ms : Nat) : Sys IoError Unit := Task.call (.setWriteTimeout s ms) .ofExcept
def bindDevice (s : Fd) (interface : String) : Sys IoError Unit := Task.call (.bindDevice s interface) .ofExcept
def setHeaderIncludedV4 (s : Fd) (on : Bool) : Sys IoError Unit :=
  Task.call (.setHeaderIncludedV4 s on) .ofExcept
def setRecvBufferSize (s : Fd) (size : Nat) : Sys IoError Unit :=
  Task.call (.setRecvBufferSize s size) .ofExcept
def read (s : Fd) (n : Nat) : Sys IoError {bs : Bytes // bs.length ≤ n} :=
  Task.call (.read s n) .ofExcept
def write (s : Fd) (bs : Bytes) : Sys IoError Nat := Task.call (.write s bs) fun r => .ofExcept (r.map (·.val))
def send (s : Fd) (bs : Bytes) : Sys IoError Nat := Task.call (.send s bs) fun r => .ofExcept (r.map (·.val))
def sendTo (s : Fd) (bs : Bytes) (addr : SockAddr) : Sys IoError Nat :=
  Task.call (.sendTo s bs addr) fun r => .ofExcept (r.map (·.val))
def drop {ε : Type} (s : Fd) : Sys ε Unit := Task.call (.dropSocket s) .ok

end Socket

namespace Queue

def open' : Sys IoError Fd := Task.call .queueOpen .ofExcept
def bind (q : Fd) (num : Nat) : Sys IoError Unit := Task.call (.queueBind q num) .ofExcept
def setRecvEnobufs (q : Fd) (on : Bool) : Sys IoError Unit := Task.call (.setRecvEnobufs q on) .ofExcept
def setQueueMaxLen (q : Fd) (num len : Nat) : Sys IoError Unit :=
  Task.call (.setQueueMaxLen q num len) .ofExcept
def recv (q : Fd) : Sys IoError Message := Task.call (.recv q) .ofExcept
def verdict (q : Fd) (m : Message) : Sys IoError Unit := Task.call (.verdict q m) .ofExcept
def drop {ε : Type} (q : Fd) : Sys ε Unit := Task.call (.dropQueue q) .ok

end Queue

/-- `.and_then(|n| if n > 0 { Ok(n) } else { Err(WriteZero) })`, after every partial write. -/
def nonZero (msg : String) (p : Sys IoError Nat) : Sys IoError Nat := do
  let n ← p
  if n > 0 then pure n else Task.fail (.custom .writeZero msg)

/-! ## Retrying -/

/-- `backoff::Error`; the source never sets `retry_after`. -/
inductive BackoffError where
  | permanent (e : Error)
  | transient (e : Error)
deriving DecidableEq, Repr

def unwrapBackoff : BackoffError → Error
  | .permanent e => e
  | .transient e => e

/-- One round of `backoff::retry`: a transient error is retried as long as `next_backoff`, asked with the time
since the start, gives a delay. What it answers is the crate's business, so the environment answers. -/
def retryStep {α : Type} (backoff : ExponentialBackoff) (operation : Sys BackoffError α) (start : Nat) :
    Sys BackoffError (Ctl Unit α) := do
  match ← Task.attempt operation with
  | .ok a => pure (.stop a)
  | .error (.permanent e) => Task.fail (.permanent e)
  | .error (.transient e) =>
    let t ← now
    match ← nextBackoff backoff (t - start) with
    | some d =>
      sleep d
      pure (.next ())
    | none => Task.fail (.transient e)

/-- `backoff::retry`, which resets its clock first. -/
def retry {α : Type} (backoff : ExponentialBackoff) (operation : Sys BackoffError α) : Sys BackoffError α := do
  let start ← now
  Task.loop (fun _ => retryStep backoff operation start) ()

/-- The closure that is retried: not once more after shutdown. -/
def unlessCancelled {α : Type} (operation : Sys Error α) : Sys BackoffError α := do
  if ← isCancelled then Task.fail (.permanent .glycerineShutdown)
  else operation.mapErr .transient

def withBackoff {α : Type} (backoff : ExponentialBackoff) (operation : Sys Error α) : Sys Error α :=
  (retry backoff (unlessCancelled operation)).mapErr unwrapBackoff

end Glycerine
