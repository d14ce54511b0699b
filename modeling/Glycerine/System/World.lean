import Glycerine.System.Vsock
/-
# A world that keeps its connections

The environment for the statements about runs without connection failures: shutdown is not signalled, vsock
sockets work, and there is one connection, which delivers a given byte stream. Reads and sends on any other handle
and further accepts and connects are not answered, nor is a queue other than the one that was opened. Everything
the claims leave open is an oracle: how many bytes a read returns, how many a send accepts, how a raw send ends,
and which attempts to open a raw socket fail first. `World.answer` answers by these, so `Halts (World.answer o)` is
what happens under the schedule `o`.
-/

namespace Glycerine
open Interact

/-- What a read finds after the last byte of the stream. -/
inductive Tail where
  /-- the connection is still up: the read blocks -/
  | hold
  /-- the peer closed the connection -/
  | eof
  /-- the connection broke; not an interrupted call, which `read_exact` repeats -/
  | broken (e : IoError) (h : e.isInterrupted = false)

/-- The calls that open a raw socket (`new_sink_socket`). -/
inductive RawStep where
  | socket | bindDevice | headerIncluded | recvBufferSize
deriving DecidableEq, Repr

/-- How a raw send ends: the whole datagram is taken, or nothing of it. -/
inductive RawSend where
  | whole
  | zero
  | fails (e : IoError)
deriving DecidableEq, Repr

structure Oracle where
  /-- bytes that the `k`-th read returns, as far as there are that many -/
  cut : Nat → Nat
  /-- bytes that the `k`-th send accepts, as far as there are that many -/
  accepted : Nat → Nat
  rawSend : Nat → RawSend
  /-- the attempts that fail before the `k`-th raw socket is open, each with the call that fails -/
  trouble : Nat → List (RawStep × IoError)
  tail : Tail
  /-- the peer of the connection that is accepted -/
  peerCid : Nat

/-- One `send_to` on a raw socket: the protocol of the socket, the bytes, and whether they were taken. -/
structure Delivery where
  protocol : Protocol
  bytes : Bytes
  taken : Bool
deriving DecidableEq, Repr

/-- The one connection of a world. -/
inductive Conn where
  /-- neither accepted nor connected yet -/
  | waiting
  | up (s : Fd)
  | closed
deriving DecidableEq, Repr

structure World where
  conn : Conn
  /-- the netfilter queue that is open -/
  nfq : Option Fd
  /-- bytes of the connection that were not read yet -/
  incoming : Bytes
  reads : Nat
  /-- payloads in the netfilter queue -/
  queue : List Bytes
  received : Nat
  /-- bytes that sends accepted -/
  wire : Bytes
  sends : Nat
  /-- payloads that were given a verdict -/
  settled : List (Bytes × Verdict)
  log : List Delivery
  nextFd : Fd
  /-- the protocol of each open raw socket -/
  raw : Fd → Option Protocol
  trouble : List (RawStep × IoError)
  opened : Nat

def World.init (o : Oracle) (queue : List Bytes) (incoming : Bytes) : World where
  conn := .waiting
  nfq := none
  incoming := incoming
  reads := 0
  queue := queue
  received := 0
  wire := []
  sends := 0
  settled := []
  log := []
  nextFd := 0
  raw := fun _ => none
  trouble := o.trouble 0
  opened := 0

/-- A world in which `s` is the connection. -/
def World.connected (s : Fd) (w : World) : World := { w with conn := .up s }

/-- A world in which `q` is the netfilter queue. -/
def World.queued (q : Fd) (w : World) : World := { w with nfq := some q }

namespace World
variable (o : Oracle) (w : World)

/-- A call of `new_sink_socket`: it fails if the current attempt is to fail here. -/
def rawStep (w : World) (s : RawStep) : Except IoError Unit × World :=
  match w.trouble with
  | (s', e) :: rest => if s = s' then (.error e, { w with trouble := rest }) else (.ok (), w)
  | [] => (.ok (), w)

def answerSocketNew (w : World) : Domain → Option Protocol → Except IoError Fd × World
  | .vsock, _ => (.ok w.nextFd, { w with nextFd := w.nextFd + 1 })
  | .ipv4, p =>
    match w.rawStep .socket with
    | (.error e, w) => (.error e, w)
    | (.ok (), w) =>
      (.ok w.nextFd, { w with nextFd := w.nextFd + 1, raw := fun fd => if fd = w.nextFd then p else w.raw fd })

/-- The last call that opens a raw socket; after it the next opening's troubles are due. -/
def answerRecvBufferSize (w : World) : Except IoError Unit × World :=
  match w.rawStep .recvBufferSize with
  | (.error e, w) => (.error e, w)
  | (.ok (), w) => (.ok (), { w with trouble := o.trouble (w.opened + 1), opened := w.opened + 1 })

/-- How many of `n` bytes an operation moves when the oracle says `k`: at least one, at most all. -/
def clamp (k n : Nat) : Nat := min n (max 1 k)

def answerRead (n : Nat) : Option (Except IoError {bs : Bytes // bs.length ≤ n} × World) :=
  if n = 0 then some (.ok ⟨[], Nat.zero_le n⟩, w)
  else if w.incoming = [] then
    match o.tail with
    | .hold => none
    | .eof => some (.ok ⟨[], Nat.zero_le n⟩, w)
    | .broken e _ => some (.error e, w)
  else
    let k := clamp (o.cut w.reads) n
    some (.ok ⟨w.incoming.take k, by simp only [List.length_take, k, clamp]; omega⟩,
      { w with incoming := w.incoming.drop k, reads := w.reads + 1 })

def answerSend (bs : Bytes) : Fin (bs.length + 1) × World :=
  let k := clamp (o.accepted w.sends) bs.length
  (⟨k, by simp only [k, clamp]; omega⟩, { w with wire := w.wire ++ bs.take k, sends := w.sends + 1 })

def record (s : Fd) (bs : Bytes) (taken : Bool) : World :=
  { w with log := w.log ++ [⟨(w.raw s).getD ⟨0⟩, bs, taken⟩] }

def answerSendTo (s : Fd) (bs : Bytes) : Except IoError (Fin (bs.length + 1)) × World :=
  match o.rawSend w.log.length with
  | .whole => (.ok (Fin.last _), w.record s bs true)
  | .zero => (.ok 0, w.record s bs false)
  | .fails e => (.error e, w.record s bs false)

def answer (o : Oracle) : Handler sysSig World := fun w op =>
  match op with
  | .isCancelled => some (false, w)
  | .now => some ((0 : Nat), w)
  | .nextBackoff _ _ => some (some (0 : Nat), w)
  | .sleep _ => some ((), w)
  | .socketNew domain _ p => some (w.answerSocketNew domain p)
  | .bind _ _ => some (.ok (), w)
  | .listen _ _ => some (.ok (), w)
  | .connect s _ =>
    if w.conn = .waiting then some (.ok (), { w with conn := .up s }) else none
  | .accept _ =>
    if w.conn = .waiting then
      some (.ok (w.nextFd, .vsock o.peerCid 0), { w with nextFd := w.nextFd + 1, conn := .up w.nextFd })
    else none
  | .localAddr _ => some (.ok (.vsock 0 0), w)
  | .shutdown _ _ => some (.ok (), w)
  | .setReadTimeout _ _ => some (.ok (), w)
  | .setWriteTimeout _ _ => some (.ok (), w)
  | .bindDevice _ _ => some (w.rawStep .bindDevice)
  | .setHeaderIncludedV4 _ _ => some (w.rawStep .headerIncluded)
  | .setRecvBufferSize _ _ => some (w.answerRecvBufferSize o)
  | .read s n => if w.conn = .up s then w.answerRead o n else none
  | .write s bs | .send s bs =>
    if w.conn = .up s then some (.ok (w.answerSend o bs).1, (w.answerSend o bs).2) else none
  | .sendTo s bs _ => some (w.answerSendTo o s bs)
  | .dropSocket s =>
    some ((), {
      w with
      conn := if w.conn = .up s then .closed else w.conn
      raw := fun fd => if fd = s then none else w.raw fd })
  | .queueOpen =>
    if w.nfq = none then some (.ok w.nextFd, { w with nextFd := w.nextFd + 1, nfq := some w.nextFd }) else none
  | .queueBind _ _ => some (.ok (), w)
  | .setRecvEnobufs _ _ => some (.ok (), w)
  | .setQueueMaxLen _ _ _ => some (.ok (), w)
  | .recv q =>
    if w.nfq = some q then
      match w.queue with
      | [] => none
      | m :: rest => some (.ok ⟨w.received, m, .accept⟩, { w with queue := rest, received := w.received + 1 })
    else none
  | .verdict q m =>
    if w.nfq = some q then some (.ok (), { w with settled := w.settled ++ [(m.payload, m.verdict)] }) else none
  | .dropQueue _ => some ((), w)

theorem clamp_pos {k n : Nat} (h : 0 < n) : 0 < clamp k n := by
  unfold clamp
  omega

theorem clamp_le (k n : Nat) : clamp k n ≤ n := Nat.min_le_left _ _

end World
end Glycerine
