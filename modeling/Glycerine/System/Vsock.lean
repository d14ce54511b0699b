import Glycerine.System.Basic
/-
# vsock connections (`system/vsock.rs`) and raw sockets (`system/ipv4.rs`)

The `service` argument only goes into log messages and is left out.
-/

namespace Glycerine
open Interact

namespace Vsock

/-- `shutdown` (vsock.rs:227): half-close a socket; the local address is asked for first. -/
def shutdown (socket : Fd) (how : Shutdown) : Sys Error Unit := do
  let _ ← (Socket.localAddr socket).mapErr .ioVsock
  (Socket.shutdown socket how).mapErr .ioVsock

/-- `accept_connection` (vsock.rs:11). A peer with another CID is shut down, whether or not that works. -/
def acceptConnection (socket : Fd) (peerCid : Nat) : Sys Error (Fd × SockAddr) := do
  let _ ← (Socket.localAddr socket).mapErr .ioVsock
  let (connectionSocket, peerAddress) ← (Socket.accept socket).mapErr .ioVsock
  match peerAddress.asVsockAddress with
  | none => Task.panic
  | some (cid, _) =>
    if cid ≠ peerCid then do
      let _ ← Task.attempt (Socket.shutdown connectionSocket .both)
      Socket.drop connectionSocket
      Task.fail (.glycerineInvalidConfig "unexpected cid")
    else pure (connectionSocket, peerAddress)

/-- `accept_connection_with_backoff` (vsock.rs:67). -/
def acceptConnectionWithBackoff (socket : Fd) (peerCid : Nat) (backoff : ExponentialBackoff) :
    Sys Error (Fd × SockAddr) :=
  withBackoff backoff (acceptConnection socket peerCid)

/-- `new_client_socket` (vsock.rs:85). -/
def newClientSocket (serverAddress : SockAddr) : Sys Error Fd := do
  let socket ← (Socket.new .vsock .stream none).mapErr .ioVsock
  (Socket.connect socket serverAddress).mapErr .ioVsock
  let _ ← (Socket.localAddr socket).mapErr .ioVsock
  pure socket

/-- `new_client_socket_with_backoff` (vsock.rs:139). -/
def newClientSocketWithBackoff (serverAddress : SockAddr) (backoff : ExponentialBackoff) : Sys Error Fd :=
  withBackoff backoff (newClientSocket serverAddress)

/-- `new_listener_socket` (vsock.rs:156). -/
def newListenerSocket (listenAddress : SockAddr) : Sys Error Fd := do
  let socket ← (Socket.new .vsock .stream none).mapErr .ioVsock
  (Socket.bind socket listenAddress).mapErr .ioVsock
  (Socket.listen socket 16).mapErr .ioVsock
  pure socket

/-- `new_listener_socket_with_backoff` (vsock.rs:205). -/
def newListenerSocketWithBackoff (listenAddress : SockAddr) (backoff : ExponentialBackoff) : Sys Error Fd :=
  withBackoff backoff (newListenerSocket listenAddress)

end Vsock

namespace Ipv4

/-- `MAX_PACKET_SIZE` (ipv4.rs:13). -/
def MAX_PACKET_SIZE : Nat := 0xFFFF

/-- `new_sink_socket` (ipv4.rs:40). The error is `IoIpv4Tcp` for UDP sockets too. -/
def newSinkSocket (interface : String) (protocol : Protocol) : Sys Error Fd := do
  let socket ← (Socket.new .ipv4 .raw (some protocol)).mapErr .ioIpv4Tcp
  (Socket.bindDevice socket interface).mapErr .ioIpv4Tcp
  (Socket.setHeaderIncludedV4 socket true).mapErr .ioIpv4Tcp
  (Socket.setRecvBufferSize socket 0).mapErr .ioIpv4Tcp
  pure socket

/-- `new_sink_socket_with_backoff` (ipv4.rs:108). -/
def newSinkSocketWithBackoff (interface : String) (protocol : Protocol) (backoff : ExponentialBackoff) :
    Sys Error Fd :=
  withBackoff backoff (newSinkSocket interface protocol)

end Ipv4

namespace Netfilter

/-- `new_queue` (netfilter.rs:224). -/
def newQueue (queueNum queueMaxLen : Nat) : Sys Error Fd := do
  let queue ← Queue.open'.mapErr .ioNfq
  (Queue.bind queue queueNum).mapErr .ioNfq
  (Queue.setRecvEnobufs queue true).mapErr .ioNfq
  (Queue.setQueueMaxLen queue queueNum queueMaxLen).mapErr .ioNfq
  pure queue

/-- `new_queue_with_backoff` (netfilter.rs:292). -/
def newQueueWithBackoff (queueNum queueMaxLen : Nat) (backoff : ExponentialBackoff) : Sys Error Fd :=
  withBackoff backoff (newQueue queueNum queueMaxLen)

end Netfilter

end Glycerine
