import Glycerine.System.Vsock
/-
# The sending worker (`proxy/worker/nfq.rs`)

Takes packets from a netfilter queue and writes them, one after another and without any framing, to a vsock
connection.
-/

namespace Glycerine
open Interact

/-- `NfqToVsockConfig` (nfq.rs:22). -/
structure NfqToVsockConfig where
  netfilterQueueNum : Nat
  netfilterQueueMaxLen : Nat
  forwardAddress : SockAddr
deriving DecidableEq, Repr

/-- `NfqToVsock` (nfq.rs:30). -/
structure NfqToVsock where
  cfg : NfqToVsockConfig
  backoff : ExponentialBackoff
deriving DecidableEq, Repr

namespace NfqToVsock

/-- One round of the inner `while sent < payload_size` loop of `pump` (nfq.rs:122-142). -/
def sendStep (dstVsockSocket : Fd) (payload : Bytes) (sent : Nat) : Sys Error (Ctl Nat Unit) :=
  if sent < payload.length then do
    let n ← (nonZero "sent zero bytes" (Socket.send dstVsockSocket (payload.drop sent))).mapErr .ioVsock
    pure (.next (sent + n))
  else pure (.stop ())

def sendPayload (dstVsockSocket : Fd) (payload : Bytes) : Sys Error Unit :=
  Task.loop (sendStep dstVsockSocket payload) 0

/-- `message.set_verdict(Drop)`, the sends, and the verdict (nfq.rs:116-159). -/
def forward (srcNetfilterQueue dstVsockSocket : Fd) (message : Message) : Sys Error Unit := do
  let message := { message with verdict := .drop }
  sendPayload dstVsockSocket message.payload
  (Queue.verdict srcNetfilterQueue message).mapErr .ioNfq

/-- One round of `pump`. -/
def pumpStep (srcNetfilterQueue dstVsockSocket : Fd) : Sys Error (Ctl Unit Unit) := do
  if ← isCancelled then pure (.stop ())
  else
    match ← Task.attempt (Queue.recv srcNetfilterQueue) with
    | .error err =>
      -- queue overflow: messages were lost, the queue goes on
      if err.rawOsError = some ENOBUFS then pure (.next ())
      else Task.fail (.ioNfq err)
    | .ok message =>
      forward srcNetfilterQueue dstVsockSocket message
      pure (.next ())

/-- `NfqToVsock::pump` (nfq.rs:89). -/
def pump (srcNetfilterQueue dstVsockSocket : Fd) : Sys Error Unit :=
  Task.loop (fun _ => pumpStep srcNetfilterQueue dstVsockSocket) ()

/-- The closure `new_src_netfilter_queue` (nfq.rs:42-50). -/
def newSrcNetfilterQueue (self : NfqToVsock) : Sys Error Fd :=
  Netfilter.newQueueWithBackoff self.cfg.netfilterQueueNum self.cfg.netfilterQueueMaxLen self.backoff

/-- The closure `new_dst_vsock_socket` (nfq.rs:52-62). -/
def newDstVsockSocket (self : NfqToVsock) : Sys Error Fd := do
  let newDstVsockSocket ← Vsock.newClientSocketWithBackoff self.cfg.forwardAddress self.backoff
  Vsock.shutdown newDstVsockSocket .read
  pure newDstVsockSocket

/-- One round of `run`: pump until it returns, then replace what failed. -/
def runStep (self : NfqToVsock) (srcNetfilterQueue dstVsockSocket : Fd) :
    Sys Error (Ctl (Fd × Fd) Unit) := do
  if ← isCancelled then pure (.stop ())
  else
    match ← Task.attempt (pump srcNetfilterQueue dstVsockSocket) with
    | .error (.ioNfq _) =>
      Queue.drop srcNetfilterQueue
      let srcNetfilterQueue ← self.newSrcNetfilterQueue
      pure (.next (srcNetfilterQueue, dstVsockSocket))
    | .error (.ioVsock _) =>
      let newSocket ← self.newDstVsockSocket
      Socket.drop dstVsockSocket
      pure (.next (srcNetfilterQueue, newSocket))
    | .error e => Task.fail e
    | .ok () => pure (.stop ())

/-- `NfqToVsock::run` (nfq.rs:41). -/
def run (self : NfqToVsock) : Sys Error Unit := do
  let srcNetfilterQueue ← self.newSrcNetfilterQueue
  let dstVsockSocket ← self.newDstVsockSocket
  Task.loop (fun s => self.runStep s.1 s.2) (srcNetfilterQueue, dstVsockSocket)

end NfqToVsock
end Glycerine
