import Glycerine.System.Vsock
/-
# The bootstrap service (`bootstrap/mod.rs`)

Accepts one connection after another and writes the same bytes to each.
-/

namespace Glycerine
open Interact

/-- `Bootstrap` (mod.rs:38). -/
structure Bootstrap where
  listenAddress : SockAddr
  peerCid : Nat
  backoff : ExponentialBackoff
  info : Bytes
deriving DecidableEq, Repr

namespace Bootstrap

/-- The closure `new_client_vsock_socket` (mod.rs:66-99). -/
def newClientVsockSocket (self : Bootstrap) (vsockListenerSocket : Fd) : Sys Error (Fd × SockAddr) := do
  let (socket, peerAddress) ← Vsock.acceptConnectionWithBackoff vsockListenerSocket self.peerCid self.backoff
  Vsock.shutdown socket .read
  (Socket.setWriteTimeout socket 1000).mapErr .ioVsock
  pure (socket, peerAddress)

/-- One round of the loop of `serve`. -/
def serveStep (self : Bootstrap) (socket : Fd) (pos : Nat) : Sys Error (Ctl Nat Unit) := do
  if pos < self.info.length then
    if ← isCancelled then pure (.stop ())
    else
      let n ← (nonZero "wrote zero bytes" (Socket.write socket (self.info.drop pos))).mapErr .ioVsock
      pure (.next (pos + n))
  else pure (.stop ())

/-- `Bootstrap::serve` (mod.rs:119). -/
def serve (self : Bootstrap) (socket : Fd) : Sys Error Unit := Task.loop (self.serveStep socket) 0

/-- One round of `run`; the connection is closed at its end. -/
def runStep (self : Bootstrap) (vsockListenerSocket : Fd) : Sys Error (Ctl Unit Unit) := do
  if ← isCancelled then pure (.stop ())
  else
    let (clientVsockSocket, _) ← self.newClientVsockSocket vsockListenerSocket
    match ← Task.attempt (self.serve clientVsockSocket) with
    | .ok _ | .error (.ioVsock _) =>
      Socket.drop clientVsockSocket
      pure (.next ())
    | .error e => Task.fail e

/-- `Bootstrap::run` (mod.rs:58). -/
def run (self : Bootstrap) : Sys Error Unit := do
  let vsockListenerSocket ← Vsock.newListenerSocketWithBackoff self.listenAddress self.backoff
  Task.loop (fun _ => self.runStep vsockListenerSocket) ()

end Bootstrap
end Glycerine
