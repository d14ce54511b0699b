import Glycerine.System.Vsock
/-
# The receiving worker (`proxy/worker/ipv4.rs`)

Accepts a vsock connection, cuts its byte stream into IPv4 packets by the total length in their headers, and
sends each TCP or UDP packet to a raw socket.
-/

namespace Glycerine
open Interact

/-! ## Buffers -/

/-- A buffer of fixed size, such as the boxed slice that `pump` reads into. -/
structure Buf (n : Nat) where
  bytes : Bytes
  len : bytes.length = n

def Buf.zeroed (n : Nat) : Buf n := ⟨List.replicate n 0, List.length_replicate⟩

/-- `&buf[i..j]`, with Rust's bounds check. -/
def Buf.slice {n : Nat} (buf : Buf n) (i j : Nat) : Option Bytes :=
  if i ≤ j ∧ j ≤ n then some ((buf.bytes.drop i).take (j - i)) else none

/-- Overwrite `buf[i..]` by the bytes of `src`. -/
def Buf.write {n : Nat} (buf : Buf n) (i : Nat) (src : Bytes) (h : i + src.length ≤ n) : Buf n :=
  ⟨buf.bytes.take i ++ src ++ buf.bytes.drop (i + src.length), by
    have := buf.len
    simp only [List.length_append, List.length_take, List.length_drop]
    omega⟩

theorem Buf.slice_write {n i j : Nat} (buf : Buf n) (src : Bytes) (h : i + src.length ≤ n)
    (hj : i + src.length = j) : (buf.write i src h).slice 0 j = some (buf.bytes.take i ++ src) := by
  subst hj
  have hlen := buf.len
  unfold Buf.slice Buf.write
  rw [if_pos ⟨Nat.zero_le _, h⟩, List.drop_zero, Nat.sub_zero,
    List.take_left' (by rw [List.length_append, List.length_take]; omega)]

/-- What the front of a buffer holds, seen from a later byte on. -/
theorem Buf.slice_drop {n i j : Nat} {buf : Buf n} {p : Bytes} (h : buf.slice 0 j = some p) (hi : i ≤ j) :
    buf.slice i j = some (p.drop i) := by
  unfold Buf.slice at h ⊢
  split at h
  · rename_i hj
    cases h
    rw [if_pos ⟨hi, hj.2⟩, List.drop_zero, Nat.sub_zero, List.drop_take]
  · cases h

/-- `&buf[i..j]` inside a function: it panics when the bounds are off. -/
def slice {n : Nat} {ε : Type} (buf : Buf n) (i j : Nat) : Sys ε Bytes :=
  match buf.slice i j with
  | some bs => pure bs
  | none => Task.panic

/-- One round of `std::io::Read::read_exact`, as the standard library defines it for a type that only has
`read`: an interrupted call is repeated, and a read of zero bytes is the end of the stream. -/
def readStep (s : Fd) (n : Nat) (got : {bs : Bytes // bs.length ≤ n}) :
    Sys IoError (Ctl {bs : Bytes // bs.length ≤ n} {bs : Bytes // bs.length = n}) :=
  if h : got.1.length = n then pure (.stop ⟨got.1, h⟩)
  else do
    match ← Task.attempt (Socket.read s (n - got.1.length)) with
    | .ok ⟨bs, hbs⟩ =>
      if bs.length = 0 then Task.fail (.custom .unexpectedEof "failed to fill whole buffer")
      else pure (.next ⟨got.1 ++ bs, by have := got.2; simp only [List.length_append]; omega⟩)
    | .error e => if e.isInterrupted then pure (.next got) else Task.fail e

def readExact (s : Fd) (n : Nat) : Sys IoError {bs : Bytes // bs.length = n} :=
  Task.loop (readStep s n) ⟨[], Nat.zero_le n⟩

/-- `socket.read_exact(&mut buf[i..j])`. -/
def readExactInto {n : Nat} (s : Fd) (buf : Buf n) (i j : Nat) : Sys IoError (Buf n) :=
  if h : i ≤ j ∧ j ≤ n then do
    let ⟨bs, hbs⟩ ← readExact s (j - i)
    pure (buf.write i bs (by omega))
  else Task.panic

/-! ## `ipv4_total_len` -/

/-- `u16::from_be_bytes`. -/
def beU16 (hi lo : Byte) : Nat := hi.toNat * 256 + lo.toNat

/-- `ipv4_total_len` (ipv4.rs:218) on the 20 bytes of a header. -/
def ipv4TotalLen (header : Bytes) : Except Error (Nat × Protocol) :=
  let byte (i : Nat) : Byte := header.getD i 0
  if byte 0 >>> 4 ≠ 4 then .error (.glycerineRuntime "invalid ipv4 packet")
  else
    let headerLen := 4 * (byte 0 &&& 0x0f).toNat
    if headerLen < 20 then .error (.glycerineRuntime "invalid ipv4 packet")
    else
      let packetLen := beU16 (byte 2) (byte 3)
      if packetLen < headerLen ∨ Ipv4.MAX_PACKET_SIZE < packetLen then
        .error (.glycerineRuntime "invalid ipv4 packet")
      else .ok (packetLen, ⟨(byte 9).toNat⟩)

/-! ## `VsockToIpv4` -/

/-- `VsockToIpv4Config` (ipv4.rs:24). -/
structure VsockToIpv4Config where
  listenAddress : SockAddr
  peerCid : Nat
  ipv4SinkAddress : SockAddr
  ipv4Interface : String
deriving DecidableEq, Repr

/-- `VsockToIpv4` (ipv4.rs:33). -/
structure VsockToIpv4 where
  cfg : VsockToIpv4Config
  backoff : ExponentialBackoff
deriving DecidableEq, Repr

namespace VsockToIpv4

/-- One round of the inner `while sent < payload_size` loop of `pump` (ipv4.rs:187-209). -/
def sendStep (self : VsockToIpv4) (dstIpv4Socket : Fd) (errWrapper : IoError → Error)
    (payload : Buf Ipv4.MAX_PACKET_SIZE) (payloadSize sent : Nat) : Sys Error (Ctl Nat Unit) :=
  if sent < payloadSize then do
    let chunk ← slice payload sent payloadSize
    let n ← (nonZero "sent zero bytes"
      (Socket.sendTo dstIpv4Socket chunk self.cfg.ipv4SinkAddress)).mapErr errWrapper
    pure (.next (sent + n))
  else pure (.stop ())

def sendPayload (self : VsockToIpv4) (dstIpv4Socket : Fd) (errWrapper : IoError → Error)
    (payload : Buf Ipv4.MAX_PACKET_SIZE) (payloadSize : Nat) : Sys Error Unit :=
  Task.loop (self.sendStep dstIpv4Socket errWrapper payload payloadSize) 0

/-- The dispatch on the protocol (ipv4.rs:166-209); `none` is the `continue` of an unsupported protocol. The
second `match` has an arm `unreachable!()`. -/
def dispatch (self : VsockToIpv4) (dstIpv4TcpSocket dstIpv4UdpSocket : Fd) (protocol : Protocol)
    (payload : Buf Ipv4.MAX_PACKET_SIZE) (payloadSize : Nat) : Sys Error Unit := do
  let dstIpv4Socket :=
    if protocol = .TCP then some dstIpv4TcpSocket
    else if protocol = .UDP then some dstIpv4UdpSocket
    else none
  match dstIpv4Socket with
  | none => pure ()
  | some dst =>
    if protocol = .TCP then self.sendPayload dst .ioIpv4Tcp payload payloadSize
    else if protocol = .UDP then self.sendPayload dst .ioIpv4Udp payload payloadSize
    else Task.panic

section
variable {self : VsockToIpv4} {tcp udp : Fd} {pr : Protocol} {buf : Buf Ipv4.MAX_PACKET_SIZE} {n : Nat}

theorem dispatch_tcp : self.dispatch tcp udp .TCP buf n = self.sendPayload tcp .ioIpv4Tcp buf n := by
  simp only [dispatch, if_true]

theorem dispatch_udp : self.dispatch tcp udp .UDP buf n = self.sendPayload udp .ioIpv4Udp buf n := by
  simp only [dispatch, show Protocol.UDP ≠ Protocol.TCP by decide, if_true, if_false]

/-- What is neither TCP nor UDP is skipped. -/
theorem dispatch_other (ht : pr ≠ .TCP) (hu : pr ≠ .UDP) : self.dispatch tcp udp pr buf n = pure () := by
  simp only [dispatch, ht, hu, if_false]

end

/-- One round of `pump`. -/
def pumpStep (self : VsockToIpv4) (srcVsockSocket dstIpv4TcpSocket dstIpv4UdpSocket : Fd)
    (payload : Buf Ipv4.MAX_PACKET_SIZE) : Sys Error (Ctl (Buf Ipv4.MAX_PACKET_SIZE) Unit) := do
  if ← isCancelled then pure (.stop ())
  else
    let payload ← (readExactInto srcVsockSocket payload 0 20).mapErr .ioVsock
    let header ← slice payload 0 20
    let (payloadSize, protocol) ← Task.ofExcept (ipv4TotalLen header)
    let payload ← (readExactInto srcVsockSocket payload 20 payloadSize).mapErr .ioVsock
    self.dispatch dstIpv4TcpSocket dstIpv4UdpSocket protocol payload payloadSize
    pure (.next payload)

/-- `VsockToIpv4::pump` (ipv4.rs:125). -/
def pump (self : VsockToIpv4) (srcVsockSocket dstIpv4TcpSocket dstIpv4UdpSocket : Fd) : Sys Error Unit :=
  Task.loop (self.pumpStep srcVsockSocket dstIpv4TcpSocket dstIpv4UdpSocket) (Buf.zeroed Ipv4.MAX_PACKET_SIZE)

/-- The closure `new_src_vsock_socket` (ipv4.rs:54-66). -/
def newSrcVsockSocket (self : VsockToIpv4) (vsockListenerSocket : Fd) : Sys Error Fd := do
  let (newSrcVsockSocket, _) ←
    Vsock.acceptConnectionWithBackoff vsockListenerSocket self.cfg.peerCid self.backoff
  Vsock.shutdown newSrcVsockSocket .write
  pure newSrcVsockSocket

/-- The closures `new_dst_ipv4_tcp_socket` and `new_dst_ipv4_udp_socket` (ipv4.rs:69-87). -/
def newDstIpv4Socket (self : VsockToIpv4) (protocol : Protocol) : Sys Error Fd :=
  Ipv4.newSinkSocketWithBackoff self.cfg.ipv4Interface protocol self.backoff

/-- The sockets that `run` holds. -/
structure Sockets where
  src : Fd
  tcp : Fd
  udp : Fd
deriving DecidableEq, Repr

/-- One round of `run`: pump until it returns, then replace what failed. -/
def runStep (self : VsockToIpv4) (vsockListenerSocket : Fd) (s : Sockets) :
    Sys Error (Ctl Sockets Unit) := do
  if ← isCancelled then pure (.stop ())
  else
    match ← Task.attempt (self.pump s.src s.tcp s.udp) with
    | .error (.ioVsock _) =>
      Socket.drop s.src
      let src ← self.newSrcVsockSocket vsockListenerSocket
      pure (.next { s with src := src })
    | .error (.ioIpv4Tcp _) =>
      Socket.drop s.tcp
      let tcp ← self.newDstIpv4Socket .TCP
      pure (.next { s with tcp := tcp })
    | .error (.ioIpv4Udp _) =>
      Socket.drop s.udp
      let udp ← self.newDstIpv4Socket .UDP
      pure (.next { s with udp := udp })
    | .error e => Task.fail e
    | .ok () => pure (.stop ())

/-- `VsockToIpv4::run` (ipv4.rs:43). -/
def run (self : VsockToIpv4) : Sys Error Unit := do
  let vsockListenerSocket ← Vsock.newListenerSocketWithBackoff self.cfg.listenAddress self.backoff
  let src ← self.newSrcVsockSocket vsockListenerSocket
  let tcp ← self.newDstIpv4Socket .TCP
  let udp ← self.newDstIpv4Socket .UDP
  Task.loop (self.runStep vsockListenerSocket) ⟨src, tcp, udp⟩

end VsockToIpv4
end Glycerine
