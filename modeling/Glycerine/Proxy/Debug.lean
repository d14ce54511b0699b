import Glycerine.Interact.Text
import Glycerine.System.Basic
/-
# The dump of a packet

| here | there |
| --- | --- |
| `DumpPayload.fmt`        | `DumpPayload::fmt` (`debug.rs:8`) |
| `Ipv4Packet.parse`       | `Ipv4Packet::parse` (`debug.rs:62`) |
| `writeTcp`, `TcpFlags.fmt` | `write_tcp`, `TcpFlags::fmt` (`debug.rs:88`, `:154`) |
| `TcpOptions.step`        | the loop of `TcpOptions::fmt` (`debug.rs:190`) |
| `writeOption`            | its `match` on a known kind (`debug.rs:215`) |
| `writeUdp`               | `write_udp` (`debug.rs:260`) |

What panics in the source panics here: an index or a slice out of range, a conversion of a slice to an array of
another length, and a subtraction below zero.
-/

namespace Glycerine
open Interact

instance : ToText Ipv4Addr := ⟨fun addr => toString addr.a.toNat ++ "." ++ toString addr.b.toNat ++ "." ++
  toString addr.c.toNat ++ "." ++ toString addr.d.toNat⟩

namespace Debug

/-! ## Slices and conversions -/

/-- `bs[i]`. -/
def index (bs : Bytes) (i : Nat) : Fmt UInt8 :=
  match bs[i]? with
  | some b => pure b
  | none => Task.panic

/-- `&bs[start..stop]`. -/
def slice (bs : Bytes) (start stop : Nat) : Fmt Bytes :=
  if start ≤ stop ∧ stop ≤ bs.length then pure ((bs.drop start).take (stop - start)) else Task.panic

/-- `&bs[start..]`. -/
def sliceFrom (bs : Bytes) (start : Nat) : Fmt Bytes :=
  if start ≤ bs.length then pure (bs.drop start) else Task.panic

/-- `a - b` in `usize`. -/
def usizeSub (a b : Nat) : Fmt Nat := if b ≤ a then pure (a - b) else Task.panic

/-- The number that bytes are in network order. -/
def beNat (bs : Bytes) : Nat := bs.foldl (fun n b => n * 256 + b.toNat) 0

/-- `u16::from_be_bytes(bs.try_into().expect("must always convert"))`. -/
def u16FromBeBytes (bs : Bytes) : Fmt UInt16 :=
  if bs.length = 2 then pure (UInt16.ofNat (beNat bs)) else Task.panic

/-- `u32::from_be_bytes(bs.try_into().expect("must always convert"))`. -/
def u32FromBeBytes (bs : Bytes) : Fmt UInt32 :=
  if bs.length = 4 then pure (UInt32.ofNat (beNat bs)) else Task.panic

/-- `data.chunks_exact(8)`, without the bytes that are left over. -/
def chunksExact8 : Bytes → List Bytes
  | b₀ :: b₁ :: b₂ :: b₃ :: b₄ :: b₅ :: b₆ :: b₇ :: bs => [b₀, b₁, b₂, b₃, b₄, b₅, b₆, b₇] :: chunksExact8 bs
  | _ => []

open Display (fmt)

/-! ## `Ipv4Packet` -/

def IPV4_MIN_HEADER_LEN : Nat := 20

structure Ipv4Packet where
  version : UInt8
  headerLen : Nat
  totalLen : Nat
  protocol : UInt8
  src : Ipv4Addr
  dst : Ipv4Addr
deriving DecidableEq, Repr

/-- `Ipv4Packet::parse` (debug.rs:62). -/
def Ipv4Packet.parse (packet : Bytes) : Fmt (Option Ipv4Packet) :=
  if packet.length < IPV4_MIN_HEADER_LEN then pure none
  else do
    let b₀ ← index packet 0
    let version := b₀ >>> 4
    let headerLen := 4 * (b₀ &&& 0x0F).toNat
    if headerLen < IPV4_MIN_HEADER_LEN ∨ packet.length < headerLen then pure none
    else do
      let totalLen ← u16FromBeBytes (← slice packet 2 4)
      let protocol ← index packet 9
      let src := Ipv4Addr.mk (← index packet 12) (← index packet 13) (← index packet 14) (← index packet 15)
      let dst := Ipv4Addr.mk (← index packet 16) (← index packet 17) (← index packet 18) (← index packet 19)
      pure (some ⟨version, headerLen, totalLen.toNat, protocol, src, dst⟩)

/-! ## TCP -/

def TCP_MIN_HEADER_LEN : Nat := 20

def TCP_FIN : UInt8 := 0x01
def TCP_SYN : UInt8 := 0x02
def TCP_RST : UInt8 := 0x04
def TCP_PSH : UInt8 := 0x08
def TCP_ACK : UInt8 := 0x10
def TCP_URG : UInt8 := 0x20
def TCP_ECE : UInt8 := 0x40
def TCP_CWR : UInt8 := 0x80

structure TcpFlags where
  bits : UInt8

def flagLabels : List (UInt8 × String) :=
  [(TCP_FIN, "F"), (TCP_SYN, "S"), (TCP_RST, "R"), (TCP_PSH, "P"), (TCP_ACK, "."), (TCP_URG, "U"), (TCP_ECE, "E"),
    (TCP_CWR, "W")]

/-- One iteration of the loop over the flags; the state is `rendered`. -/
def TcpFlags.writeLabel (flags : TcpFlags) (rendered : Bool) (flag : UInt8 × String) : Fmt Bool :=
  if flags.bits &&& flag.1 ≠ 0 then do
    writeStr flag.2
    pure true
  else pure rendered

/-- `TcpFlags::fmt` (debug.rs:154). -/
def TcpFlags.fmt (flags : TcpFlags) : Fmt Unit := do
  let rendered ← flagLabels.foldlM flags.writeLabel false
  writeIf (!rendered) (writeStr "none")

instance : Display TcpFlags := ⟨TcpFlags.fmt⟩

def TCPOPT_EOL : UInt8 := 0
def TCPOPT_NOP : UInt8 := 1
def TCPOPT_MSS : UInt8 := 2
def TCPOPT_WSCALE : UInt8 := 3
def TCPOPT_SACK_PERMITTED : UInt8 := 4
def TCPOPT_SACK : UInt8 := 5
def TCPOPT_TIMESTAMP : UInt8 := 8

structure TcpOptions where
  bytes : Bytes

/-- One block of a SACK option (debug.rs:224-230). -/
def writeBlock (chunk : Bytes) : Fmt Unit := do
  let left ← u32FromBeBytes (← slice chunk 0 4)
  let right ← u32FromBeBytes (← slice chunk 4 8)
  writeFmt [fmt " ", fmt left, fmt ":", fmt right]

/-- An option with data (debug.rs:215-243). -/
def writeOption (kind : UInt8) (optionLen : Nat) (data : Bytes) : Fmt Unit :=
  if kind = TCPOPT_MSS ∧ data.length = 2 then do
    let value ← u16FromBeBytes data
    writeFmt [fmt "mss ", fmt value]
  else if kind = TCPOPT_WSCALE ∧ data.length = 1 then do
    let value ← index data 0
    writeFmt [fmt "wscale ", fmt value]
  else if kind = TCPOPT_SACK_PERMITTED ∧ data.length = 0 then writeStr "sackOK"
  else if kind = TCPOPT_SACK ∧ data.length % 8 = 0 then do
    writeStr "sack"
    (chunksExact8 data).forM writeBlock
  else if kind = TCPOPT_TIMESTAMP ∧ data.length = 8 then do
    let value ← u32FromBeBytes (← slice data 0 4)
    let echo ← u32FromBeBytes (← slice data 4 8)
    writeFmt [fmt "TS val ", fmt value, fmt " ecr ", fmt echo]
  else writeFmt [fmt "unknown-", fmt kind, fmt " ", fmt optionLen]

def writeMalformed (kind : UInt8) : Fmt Unit := writeFmt [fmt "unknown-", fmt kind, fmt " malformed"]

/-- One iteration of the loop over the options (debug.rs:190-251); the state is `first` and `options`. -/
def TcpOptions.step : Bool × Bytes → Fmt (Ctl (Bool × Bytes) Unit)
  | (first, options) =>
    match options.head? with
    | none => pure (.stop ())
    | some kind => do
      writeIf (!first) (writeStr ",")
      if kind = TCPOPT_EOL then do
        writeStr "eol"
        pure (.stop ())
      else if kind = TCPOPT_NOP then do
        writeStr "nop"
        pure (.next (false, ← sliceFrom options 1))
      else if options.length < 2 then do
        writeMalformed kind
        pure (.stop ())
      else do
        let optionLen := (← index options 1).toNat
        if optionLen < 2 ∨ options.length < optionLen then do
          writeMalformed kind
          pure (.stop ())
        else do
          let data ← slice options 2 optionLen
          writeOption kind optionLen data
          pure (.next (false, ← sliceFrom options optionLen))

/-- `TcpOptions::fmt` (debug.rs:185). -/
def TcpOptions.fmt (options : TcpOptions) : Fmt Unit := Task.loop TcpOptions.step (true, options.bytes)

instance : Display TcpOptions := ⟨TcpOptions.fmt⟩

def writeTruncated (packet : Ipv4Packet) (protocol : String) (payload : Bytes) : Fmt Unit :=
  writeFmt [fmt "IP ", fmt packet.src, fmt " > ", fmt packet.dst, fmt (": " ++ protocol ++ ", truncated, length "),
    fmt payload.length]

/-- The sequence number (debug.rs:131-135); the sum wraps. -/
def writeSeq (seq : UInt32) (dataLen : Nat) (flags : UInt8) : Fmt Unit :=
  if dataLen > 0 then writeFmt [fmt ", seq ", fmt seq, fmt ":", fmt (seq + UInt32.ofNat dataLen)]
  else if flags &&& (TCP_FIN ||| TCP_SYN ||| TCP_RST) ≠ 0 then writeFmt [fmt ", seq ", fmt seq]
  else pure ()

/-- `write_tcp` (debug.rs:88). -/
def writeTcp (packet : Ipv4Packet) (payload : Bytes) : Fmt Unit :=
  if payload.length < TCP_MIN_HEADER_LEN then writeTruncated packet "TCP" payload
  else do
    let headerLen := 4 * ((← index payload 12) >>> 4).toNat
    if headerLen < TCP_MIN_HEADER_LEN ∨ payload.length < headerLen then writeTruncated packet "TCP" payload
    else do
      let srcPort ← u16FromBeBytes (← slice payload 0 2)
      let dstPort ← u16FromBeBytes (← slice payload 2 4)
      let seq ← u32FromBeBytes (← slice payload 4 8)
      let ack ← u32FromBeBytes (← slice payload 8 12)
      let flags ← index payload 13
      let window ← u16FromBeBytes (← slice payload 14 16)
      let urgent ← u16FromBeBytes (← slice payload 18 20)
      let dataLen ← usizeSub payload.length headerLen
      writeFmt [fmt "IP ", fmt packet.src, fmt ".", fmt srcPort, fmt " > ", fmt packet.dst, fmt ".", fmt dstPort,
        fmt ": Flags [", fmt (TcpFlags.mk flags), fmt "]"]
      writeSeq seq dataLen flags
      writeIf (flags &&& TCP_ACK ≠ 0) (writeFmt [fmt ", ack ", fmt ack])
      writeFmt [fmt ", win ", fmt window]
      writeIf (flags &&& TCP_URG ≠ 0) (writeFmt [fmt ", urg ", fmt urgent])
      writeIf (headerLen > TCP_MIN_HEADER_LEN) do
        let options ← slice payload TCP_MIN_HEADER_LEN headerLen
        writeFmt [fmt ", options [", fmt (TcpOptions.mk options), fmt "]"]
      writeFmt [fmt ", length ", fmt dataLen]

/-! ## UDP -/

def UDP_HEADER_LEN : Nat := 8

/-- `write_udp` (debug.rs:260). -/
def writeUdp (packet : Ipv4Packet) (payload : Bytes) : Fmt Unit :=
  if payload.length < UDP_HEADER_LEN then writeTruncated packet "UDP" payload
  else do
    let srcPort ← u16FromBeBytes (← slice payload 0 2)
    let dstPort ← u16FromBeBytes (← slice payload 2 4)
    let length ← u16FromBeBytes (← slice payload 4 6)
    -- `saturating_sub`
    let dataLen := length.toNat - UDP_HEADER_LEN
    writeFmt [fmt "IP ", fmt packet.src, fmt ".", fmt srcPort, fmt " > ", fmt packet.dst, fmt ".", fmt dstPort,
      fmt ": UDP, length ", fmt dataLen]

/-! ## `DumpPayload` -/

def IPPROTO_TCP : UInt8 := 6
def IPPROTO_UDP : UInt8 := 17

/-- `DumpPayload::fmt` (debug.rs:8). -/
def DumpPayload.fmt (bytes : Bytes) : Fmt Unit := do
  match ← Ipv4Packet.parse bytes with
  | none => writeFmt [Display.fmt "IP truncated, length ", Display.fmt bytes.length]
  | some packet =>
    let ends : List (Fmt Unit) :=
      [Display.fmt "IP ", Display.fmt packet.src, Display.fmt " > ", Display.fmt packet.dst]
    if packet.version ≠ 4 then
      writeFmt [Display.fmt "IP", Display.fmt packet.version, Display.fmt " packet, length ",
        Display.fmt bytes.length]
    else if packet.totalLen < packet.headerLen then
      writeFmt (ends ++ [Display.fmt ": invalid total length ", Display.fmt packet.totalLen])
    else if bytes.length < packet.totalLen then do
      let missing ← usizeSub packet.totalLen bytes.length
      writeFmt (ends ++ [Display.fmt ": truncated-ip - ", Display.fmt missing, Display.fmt " bytes missing"])
    else do
      let payload ← slice bytes packet.headerLen packet.totalLen
      if packet.protocol = IPPROTO_TCP then writeTcp packet payload
      else if packet.protocol = IPPROTO_UDP then writeUdp packet payload
      else writeFmt (ends ++ [Display.fmt ": ip-proto-", Display.fmt packet.protocol, Display.fmt ", length ",
        Display.fmt payload.length])

end Debug
end Glycerine
