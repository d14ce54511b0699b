import Mathlib.Algebra.Group.Nat.Defs
import Glycerine.Proxy.Debug
/-
# TCP packets, as they are built and as they are to be shown

The fields of an IPv4 packet with a TCP segment, the bytes that they are encoded as, and the text that a dump of the
bytes has to have. A packet has all the fields of both headers; those that a dump does not show are arbitrary.
-/

namespace Glycerine.Debug
open Interact
open ToText (text)

/-! ## Numbers in network order -/

def bytes16 (n : UInt16) : Bytes := [UInt8.ofNat (n.toNat / 2 ^ 8), UInt8.ofNat n.toNat]

def bytes32 (n : UInt32) : Bytes :=
  [UInt8.ofNat (n.toNat / 2 ^ 24), UInt8.ofNat (n.toNat / 2 ^ 16), UInt8.ofNat (n.toNat / 2 ^ 8),
    UInt8.ofNat n.toNat]

theorem beNat_bytes16 (n : UInt16) : beNat (bytes16 n) = n.toNat := by
  have hn := n.toNat_lt
  simp only [beNat, bytes16, List.foldl_cons, List.foldl_nil, UInt8.toNat_ofNat']
  omega

theorem beNat_bytes32 (n : UInt32) : beNat (bytes32 n) = n.toNat := by
  have hn := n.toNat_lt
  simp only [beNat, bytes32, List.foldl_cons, List.foldl_nil, UInt8.toNat_ofNat']
  omega

theorem foldl_beNat_lt (bs : Bytes) (n : Nat) :
    bs.foldl (fun n b => n * 256 + b.toNat) n < (n + 1) * 256 ^ bs.length := by
  induction bs generalizing n with
  | nil => simp
  | cons b bs ih =>
    have hb := b.toNat_lt
    rw [List.foldl_cons, List.length_cons, Nat.pow_succ, Nat.mul_comm (256 ^ bs.length), ← Nat.mul_assoc]
    exact Nat.lt_of_lt_of_le (ih _) (Nat.mul_le_mul_right _ (by omega))

theorem beNat_lt (bs : Bytes) : beNat bs < 256 ^ bs.length := by
  have key := foldl_beNat_lt bs 0
  rwa [Nat.zero_add, Nat.one_mul] at key

/-- Two numbers of four bits. -/
def nibbles (hi lo : Nat) : UInt8 := UInt8.ofNat (hi * 16 + lo)

theorem nibbles_hi {hi lo : Nat} (hhi : hi < 16) (hlo : lo < 16) : (nibbles hi lo >>> 4).toNat = hi := by
  rw [UInt8.toNat_shiftRight, nibbles, UInt8.toNat_ofNat']
  show ((hi * 16 + lo) % 256) >>> 4 = hi
  rw [Nat.shiftRight_eq_div_pow]
  omega

theorem nibbles_lo {hi lo : Nat} (hlo : lo < 16) : (nibbles hi lo &&& 0x0F).toNat = lo := by
  rw [UInt8.toNat_and, nibbles, UInt8.toNat_ofNat']
  show ((hi * 16 + lo) % 256) &&& (2 ^ 4 - 1) = lo
  rw [Nat.and_two_pow_sub_one_eq_mod]
  omega

/-! ## Options -/

/-- An option that does not end the list. The second byte of an option with data is its whole length. -/
inductive TcpOption where
  | nop
  | other (kind : UInt8) (data : Bytes) (hkind : kind ≠ TCPOPT_EOL ∧ kind ≠ TCPOPT_NOP)
      (hlen : data.length + 2 < 2 ^ 8)

namespace TcpOption

def bytes : TcpOption → Bytes
  | nop => [TCPOPT_NOP]
  | other kind data _ _ => kind :: UInt8.ofNat (data.length + 2) :: data

/-- The number of four bytes at an offset. -/
def numberAt (data : Bytes) (offset : Nat) : String := toString (beNat ((data.drop offset).take 4))

/-- The ends of block `k` of a SACK option. -/
def blockText (data : Bytes) (k : Nat) : String :=
  " " ++ numberAt data (8 * k) ++ ":" ++ numberAt data (8 * k + 4)

def dataText (kind : UInt8) (data : Bytes) : String :=
  if kind = TCPOPT_MSS ∧ data.length = 2 then "mss " ++ toString (beNat data)
  else if kind = TCPOPT_WSCALE ∧ data.length = 1 then "wscale " ++ toString (beNat data)
  else if kind = TCPOPT_SACK_PERMITTED ∧ data.length = 0 then "sackOK"
  else if kind = TCPOPT_SACK ∧ data.length % 8 = 0 then
    "sack" ++ String.join ((List.range (data.length / 8)).map (blockText data))
  else if kind = TCPOPT_TIMESTAMP ∧ data.length = 8 then
    "TS val " ++ numberAt data 0 ++ " ecr " ++ numberAt data 4
  else "unknown-" ++ text kind ++ " " ++ toString (data.length + 2)

def text : TcpOption → String
  | nop => "nop"
  | other kind data _ _ => dataText kind data

/-- A block is told from the bytes that start with it. -/
theorem blockText_chunk {b₀ b₁ b₂ b₃ b₄ b₅ b₆ b₇ : UInt8} {bs : Bytes} :
    blockText (b₀ :: b₁ :: b₂ :: b₃ :: b₄ :: b₅ :: b₆ :: b₇ :: bs) 0 = blockText
      [b₀, b₁, b₂, b₃, b₄, b₅, b₆, b₇] 0 := rfl

theorem numberAt_bytes32 {data : Bytes} {offset : Nat} {n : UInt32} (h : (data.drop offset).take 4 = bytes32 n) :
    numberAt data offset = toString n.toNat := by
  rw [numberAt, h, beNat_bytes32]

end TcpOption

/-- The values that the options of a known kind are made of. -/
inductive KnownOption where
  | mss (size : UInt16)
  | wscale (shift : UInt8)
  | sackPermitted
  | sack (blocks : List (UInt32 × UInt32))
  | timestamp (value echo : UInt32)

namespace KnownOption

def kind : KnownOption → UInt8
  | mss _ => TCPOPT_MSS
  | wscale _ => TCPOPT_WSCALE
  | sackPermitted => TCPOPT_SACK_PERMITTED
  | sack _ => TCPOPT_SACK
  | timestamp _ _ => TCPOPT_TIMESTAMP

def blockBytes (block : UInt32 × UInt32) : Bytes := bytes32 block.1 ++ bytes32 block.2

def data : KnownOption → Bytes
  | mss size => bytes16 size
  | wscale shift => [shift]
  | sackPermitted => []
  | sack blocks => blocks.flatMap blockBytes
  | timestamp value echo => bytes32 value ++ bytes32 echo

def blockShown (block : UInt32 × UInt32) : String :=
  " " ++ toString block.1.toNat ++ ":" ++ toString block.2.toNat

def shown : KnownOption → String
  | mss size => "mss " ++ toString size.toNat
  | wscale shift => "wscale " ++ toString shift.toNat
  | sackPermitted => "sackOK"
  | sack blocks => "sack" ++ String.join (blocks.map blockShown)
  | timestamp value echo => "TS val " ++ toString value.toNat ++ " ecr " ++ toString echo.toNat

theorem length_blocks (blocks : List (UInt32 × UInt32)) :
    (blocks.flatMap blockBytes).length = 8 * blocks.length := by
  induction blocks with
  | nil => rfl
  | cons block blocks ih =>
    rw [List.flatMap_cons, List.length_append, ih, List.length_cons, show (blockBytes block).length = 8 from rfl]
    omega

theorem blocks_shown (blocks : List (UInt32 × UInt32)) :
    (List.range blocks.length).map (TcpOption.blockText (blocks.flatMap blockBytes)) = blocks.map blockShown := by
  induction blocks with
  | nil => rfl
  | cons block blocks ih =>
    have hfirst : TcpOption.blockText ((block :: blocks).flatMap blockBytes) 0 = blockShown block := by
      rw [TcpOption.blockText, TcpOption.numberAt_bytes32 (n := block.1) rfl,
        TcpOption.numberAt_bytes32 (n := block.2) rfl]
      rfl
    rw [List.length_cons, List.range_succ_eq_map, List.map_cons, List.map_cons, hfirst, List.map_map, ← ih]
    rfl

theorem not_kind {kind tag : UInt8} {p : Prop} (h : kind ≠ tag) : ¬ (kind = tag ∧ p) := fun hk => h hk.1

/-- What is shown of an option of a known kind are the values that it is made of. -/
theorem dataText_known (o : KnownOption) : TcpOption.dataText o.kind o.data = o.shown := by
  cases o with
  | mss size =>
    show TcpOption.dataText TCPOPT_MSS (bytes16 size) = _
    rw [TcpOption.dataText, if_pos ⟨rfl, rfl⟩, beNat_bytes16]
    rfl
  | wscale shift =>
    have hvalue : beNat [shift] = shift.toNat := by simp [beNat]
    show TcpOption.dataText TCPOPT_WSCALE [shift] = _
    rw [TcpOption.dataText, if_neg (not_kind (by decide)), if_pos ⟨rfl, rfl⟩, hvalue]
    rfl
  | sackPermitted => rfl
  | sack blocks =>
    have hlen := length_blocks blocks
    have hwhole : (blocks.flatMap blockBytes).length % 8 = 0 := by omega
    show TcpOption.dataText TCPOPT_SACK (blocks.flatMap blockBytes) = _
    rw [TcpOption.dataText, if_neg (not_kind (by decide)), if_neg (not_kind (by decide)), if_neg (not_kind (by decide)),
      if_pos ⟨rfl, hwhole⟩, hlen, Nat.mul_div_cancel_left _ (by omega), blocks_shown]
    rfl
  | timestamp value echo =>
    show TcpOption.dataText TCPOPT_TIMESTAMP (bytes32 value ++ bytes32 echo) = _
    rw [TcpOption.dataText, if_neg (not_kind (by decide)), if_neg (not_kind (by decide)), if_neg (not_kind (by decide)),
      if_neg (not_kind (by decide)), if_pos ⟨rfl, rfl⟩, TcpOption.numberAt_bytes32 (n := value) rfl,
      TcpOption.numberAt_bytes32 (n := echo) rfl]
    rfl

end KnownOption

/-- The options of a segment. They end where the header ends, or with an EOL that may be followed by anything. -/
structure OptionArea where
  items : List TcpOption
  /-- what follows the EOL, if there is one -/
  padding : Option Bytes

def OptionArea.bytes (area : OptionArea) : Bytes :=
  area.items.flatMap TcpOption.bytes ++ area.padding.elim [] (TCPOPT_EOL :: ·)

def OptionArea.texts (area : OptionArea) : List String :=
  area.items.map TcpOption.text ++ area.padding.elim [] fun _ => ["eol"]

/-! ## Segments -/

structure Segment where
  srcPort : UInt16
  dstPort : UInt16
  seq : UInt32
  ack : UInt32
  reserved : Fin 16
  flags : UInt8
  window : UInt16
  checksum : UInt16
  urgent : UInt16
  options : OptionArea
  data : Bytes
  options_words : options.bytes.length % 4 = 0
  options_le : options.bytes.length ≤ 40

namespace Segment

/-- The length of the header in words. -/
def dataOffset (s : Segment) : Nat := 5 + s.options.bytes.length / 4

def bytes (s : Segment) : Bytes :=
  bytes16 s.srcPort ++ bytes16 s.dstPort ++ bytes32 s.seq ++ bytes32 s.ack ++
    [nibbles s.dataOffset s.reserved, s.flags] ++
    bytes16 s.window ++ bytes16 s.checksum ++ bytes16 s.urgent ++ (s.options.bytes ++ s.data)

def has (s : Segment) (flag : UInt8) : Prop := s.flags &&& flag ≠ 0

instance (s : Segment) (flag : UInt8) : Decidable (s.has flag) := inferInstanceAs (Decidable (_ ≠ _))

/-- The labels of the flags that are set, in the order of the bits. -/
def flagsText (s : Segment) : String :=
  let labels := (flagLabels.filter fun flag => s.has flag.1).map Prod.snd
  if labels = [] then "none" else String.join labels

/-- The bytes that the data takes in the stream, or where the segment is that has a number but no data. -/
def seqText (s : Segment) : String :=
  if s.data ≠ [] then
    ", seq " ++ toString s.seq.toNat ++ ":" ++ toString ((s.seq.toNat + s.data.length) % 2 ^ 32)
  else if s.has TCP_SYN ∨ s.has TCP_FIN ∨ s.has TCP_RST then ", seq " ++ toString s.seq.toNat
  else ""

def ackText (s : Segment) : String := if s.has TCP_ACK then ", ack " ++ toString s.ack.toNat else ""

def urgText (s : Segment) : String := if s.has TCP_URG then ", urg " ++ toString s.urgent.toNat else ""

def optionsText (s : Segment) : String :=
  if s.options.bytes = [] then "" else ", options [" ++ ",".intercalate s.options.texts ++ "]"

/-- What a dump shows after the ports. -/
def text (s : Segment) : String :=
  ": Flags [" ++ s.flagsText ++ "]" ++ s.seqText ++ s.ackText ++ ", win " ++ toString s.window.toNat ++ s.urgText ++
    s.optionsText ++ ", length " ++ toString s.data.length

end Segment

/-! ## Packets -/

/-- An IPv4 packet with a segment; `trailing` are bytes after its end. -/
structure Packet where
  tos : UInt8
  identification : UInt16
  fragment : UInt16
  ttl : UInt8
  checksum : UInt16
  src : Ipv4Addr
  dst : Ipv4Addr
  options : Bytes
  segment : Segment
  trailing : Bytes
  options_words : options.length % 4 = 0
  options_le : options.length ≤ 40
  fits : 20 + options.length + segment.bytes.length < 2 ^ 16

namespace Packet

/-- The length of the header in words. -/
def ihl (p : Packet) : Nat := 5 + p.options.length / 4

def totalLength (p : Packet) : UInt16 := UInt16.ofNat (20 + p.options.length + p.segment.bytes.length)

def bytes (p : Packet) : Bytes :=
  [nibbles 4 p.ihl, p.tos] ++ bytes16 p.totalLength ++ bytes16 p.identification ++ bytes16 p.fragment ++
    [p.ttl, IPPROTO_TCP] ++ bytes16 p.checksum ++ p.src.octets ++ p.dst.octets ++
    (p.options ++ (p.segment.bytes ++ p.trailing))

def text (p : Packet) : String :=
  "IP " ++ ToText.text p.src ++ "." ++ toString p.segment.srcPort.toNat ++ " > " ++ ToText.text p.dst ++ "." ++
    toString p.segment.dstPort.toNat ++ p.segment.text

end Packet

-- The packet of `renders_tcp_options` (debug.rs:331).
example :
    let timestamp : TcpOption := .other TCPOPT_TIMESTAMP [0, 0, 0, 42, 0, 0, 0, 0] (by decide) (by decide)
    let options : OptionArea :=
      ⟨[.other TCPOPT_MSS [5, 180] (by decide) (by decide), .other TCPOPT_SACK_PERMITTED [] (by decide) (by decide),
        timestamp], none⟩
    let segment : Segment := ⟨12345, 443, 16909060, 0, 0, TCP_SYN, 16384, 0, 0, options, [], by decide, by decide⟩
    let packet : Packet := ⟨0, 0x1234, 0x4000, 64, 0, ⟨192, 0, 2, 1⟩, ⟨198, 51, 100, 2⟩, [], segment, [], by decide,
      by decide, by decide⟩
    packet.text = "IP 192.0.2.1.12345 > 198.51.100.2.443: Flags [S], seq 16909060, win 16384, options " ++
      "[mss 1460,sackOK,TS val 42 ecr 0], length 0" := by decide +kernel

end Glycerine.Debug
