import Glycerine.Proxy.Debug
import Glycerine.Proxy.Packet
/-
# The two parsers of an IPv4 header

The dump parses a whole packet (`Ipv4Packet.parse`), the receiver the first 20 bytes of one (`ipv4TotalLen`).
They look at the version, the header length and the total length in different orders and against different
bounds. Here the tests of the dump are separated from what it writes (`DumpPayload.stage`, `Stage.fmt`), so that
the two can be compared: a packet that is as long as its header says comes to the protocols in the dump if and
only if the receiver accepts it, and then both take the same branch (`parsers_agree`).
-/

namespace Glycerine
open Interact
namespace Debug

/-! ## The tests of the dump -/

/-- The message that `DumpPayload::fmt` writes, or the payload that it hands to a protocol. -/
inductive Stage where
  /-- `IP truncated` (debug.rs:10) -/
  | truncated
  /-- not version 4 (debug.rs:14) -/
  | notIpv4 (packet : Ipv4Packet)
  /-- `invalid total length` (debug.rs:18) -/
  | invalidTotalLen (packet : Ipv4Packet)
  /-- `truncated-ip` (debug.rs:26) -/
  | missing (packet : Ipv4Packet) (n : Nat)
  /-- the `match` on the protocol (debug.rs:37) -/
  | dispatch (packet : Ipv4Packet) (payload : Bytes)
deriving DecidableEq, Repr

/-- `packet.header_len`. -/
def headerLen (bytes : Bytes) : Nat := 4 * (bytes.getD 0 0 &&& 0x0F).toNat

/-- What `Ipv4Packet::parse` makes of the fields of a header. -/
def Ipv4Packet.ofBytes (bytes : Bytes) : Ipv4Packet where
  version := bytes.getD 0 0 >>> 4
  headerLen := Debug.headerLen bytes
  totalLen := Glycerine.totalLen bytes
  protocol := bytes.getD 9 0
  src := ⟨bytes.getD 12 0, bytes.getD 13 0, bytes.getD 14 0, bytes.getD 15 0⟩
  dst := ⟨bytes.getD 16 0, bytes.getD 17 0, bytes.getD 18 0, bytes.getD 19 0⟩

namespace Ipv4Packet
variable (bytes : Bytes)

@[simp] theorem version_ofBytes : (ofBytes bytes).version = bytes.getD 0 0 >>> 4 := rfl
@[simp] theorem headerLen_ofBytes : (ofBytes bytes).headerLen = Debug.headerLen bytes := rfl
@[simp] theorem totalLen_ofBytes : (ofBytes bytes).totalLen = Glycerine.totalLen bytes := rfl
@[simp] theorem protocol_ofBytes : (ofBytes bytes).protocol = bytes.getD 9 0 := rfl

end Ipv4Packet

def DumpPayload.stage (bytes : Bytes) : Stage :=
  let packet := Ipv4Packet.ofBytes bytes
  if bytes.length < IPV4_MIN_HEADER_LEN then .truncated
  else if packet.headerLen < IPV4_MIN_HEADER_LEN ∨ bytes.length < packet.headerLen then .truncated
  else if packet.version ≠ 4 then .notIpv4 packet
  else if packet.totalLen < packet.headerLen then .invalidTotalLen packet
  else if bytes.length < packet.totalLen then .missing packet (packet.totalLen - bytes.length)
  else .dispatch packet ((bytes.drop packet.headerLen).take (packet.totalLen - packet.headerLen))

open Display (fmt)

def writeOther (packet : Ipv4Packet) (payload : Bytes) : Fmt Unit :=
  writeFmt [fmt "IP ", fmt packet.src, fmt " > ", fmt packet.dst,
    fmt ": ip-proto-", fmt packet.protocol, fmt ", length ", fmt payload.length]

/-- What is written at each stage. -/
def Stage.fmt (bytes : Bytes) : Stage → Fmt Unit
  | .truncated => writeFmt [Display.fmt "IP truncated, length ", Display.fmt bytes.length]
  | .notIpv4 packet =>
    writeFmt [Display.fmt "IP", Display.fmt packet.version, Display.fmt " packet, length ",
      Display.fmt bytes.length]
  | .invalidTotalLen packet =>
    writeFmt [Display.fmt "IP ", Display.fmt packet.src, Display.fmt " > ", Display.fmt packet.dst,
      Display.fmt ": invalid total length ", Display.fmt packet.totalLen]
  | .missing packet n =>
    writeFmt [Display.fmt "IP ", Display.fmt packet.src, Display.fmt " > ", Display.fmt packet.dst,
      Display.fmt ": truncated-ip - ", Display.fmt n, Display.fmt " bytes missing"]
  | .dispatch packet payload =>
    if packet.protocol = IPPROTO_TCP then writeTcp packet payload
    else if packet.protocol = IPPROTO_UDP then writeUdp packet payload
    else writeOther packet payload

section
variable {α : Type} {bs : Bytes}

theorem same_index {i : Nat} (h : i < bs.length) : Task.Same (index bs i) (pure (bs.getD i 0)) := by
  rw [index, List.getElem?_eq_getElem h, List.getElem_eq_getD 0]
  exact .refl _

theorem same_slice {start stop : Nat} (hle : start ≤ stop) (h : stop ≤ bs.length) :
    Task.Same (slice bs start stop) (pure ((bs.drop start).take (stop - start))) := by
  rw [slice, if_pos ⟨hle, h⟩]
  exact .refl _

theorem same_usizeSub {a b : Nat} (h : b ≤ a) : Task.Same (usizeSub a b) (pure (a - b)) := by
  rw [usizeSub, if_pos h]
  exact .refl _

theorem same_u16FromBeBytes (h : bs.length = 2) :
    Task.Same (u16FromBeBytes bs) (pure (UInt16.ofNat (beNat bs))) := by
  rw [u16FromBeBytes, if_pos h]
  exact .refl _

/-- A number of two bytes, as the receiver reads it. -/
theorem beNat_slice {start : Nat} (h : start + 2 ≤ bs.length) :
    (UInt16.ofNat (beNat ((bs.drop start).take 2))).toNat = beU16 (bs.getD start 0) (bs.getD (start + 1) 0) := by
  have hlt := beU16_lt (bs.getD start 0) (bs.getD (start + 1) 0)
  have hbytes : (bs.drop start).take 2 = [bs.getD start 0, bs.getD (start + 1) 0] := by
    rw [List.drop_eq_getElem_cons (by omega), List.drop_eq_getElem_cons (by omega), List.getElem_eq_getD 0,
      List.getElem_eq_getD 0]
    rfl
  have hnat : beNat [bs.getD start 0, bs.getD (start + 1) 0] =
      beU16 (bs.getD start 0) (bs.getD (start + 1) 0) := by
    simp only [beNat, beU16, List.foldl_cons, List.foldl_nil]
    omega
  rw [hbytes, hnat, UInt16.toNat_ofNat_of_lt' hlt]

theorem same_parse {bytes : Bytes} (hmin : 20 ≤ bytes.length) (hhdr : 20 ≤ headerLen bytes)
    (hlen : headerLen bytes ≤ bytes.length) :
    Task.Same (Ipv4Packet.parse bytes) (pure (some (Ipv4Packet.ofBytes bytes))) := by
  unfold Ipv4Packet.parse
  rw [if_neg (by rw [IPV4_MIN_HEADER_LEN]; omega)]
  refine (same_index (by omega)).silent ?_
  dsimp only
  rw [if_neg (by rw [← headerLen, IPV4_MIN_HEADER_LEN]; omega)]
  refine (same_slice (by omega) (by omega)).silent ((same_u16FromBeBytes ?_).silent ?_)
  · rw [List.length_take, List.length_drop]
    omega
  refine (same_index (by omega)).silent ?_
  refine (same_index (by omega)).silent ((same_index (by omega)).silent ((same_index (by omega)).silent
    ((same_index (by omega)).silent ?_)))
  refine (same_index (by omega)).silent ((same_index (by omega)).silent ((same_index (by omega)).silent
    ((same_index (by omega)).silent ?_)))
  rw [beNat_slice (by omega)]
  exact .refl _

theorem same_parse_none {bytes : Bytes}
    (h : bytes.length < 20 ∨ headerLen bytes < 20 ∨ bytes.length < headerLen bytes) :
    Task.Same (Ipv4Packet.parse bytes) (pure none) := by
  unfold Ipv4Packet.parse
  split
  · exact .refl _
  · rename_i hmin
    rw [IPV4_MIN_HEADER_LEN, Nat.not_lt] at hmin
    refine (same_index (by omega)).silent ?_
    dsimp only
    rw [if_pos (by rw [← headerLen, IPV4_MIN_HEADER_LEN]; omega)]
    exact .refl _

/-- The dump writes what its stage says. -/
theorem fmt_same (bytes : Bytes) :
    Task.Same (DumpPayload.fmt bytes) ((DumpPayload.stage bytes).fmt bytes) := by
  unfold DumpPayload.fmt DumpPayload.stage
  dsimp only
  split
  · rename_i hmin
    exact (same_parse_none (.inl hmin)).silent (.refl _)
  rename_i hmin
  rw [IPV4_MIN_HEADER_LEN, Nat.not_lt] at hmin
  split
  · rename_i hhdr
    exact (same_parse_none (.inr hhdr)).silent (.refl _)
  rename_i hhdr
  rw [not_or, IPV4_MIN_HEADER_LEN, Nat.not_lt, Nat.not_lt] at hhdr
  refine (same_parse hmin hhdr.1 hhdr.2).silent ?_
  dsimp only
  split
  · exact .refl _
  split
  · exact .refl _
  split
  · exact (same_usizeSub (by omega)).silent (.refl _)
  · exact (same_slice (by omega) (by omega)).silent (.refl _)

end

/-! ## The two parsers -/

theorem stage_eq_dispatch {bytes : Bytes} (hlen : 20 ≤ bytes.length) (htotal : totalLen bytes = bytes.length)
    {packet : Ipv4Packet} {payload : Bytes} :
    DumpPayload.stage bytes = .dispatch packet payload ↔
      HeaderOk bytes ∧ packet = .ofBytes bytes ∧ payload = bytes.drop (headerLen bytes) := by
  have hpayload : (bytes.drop (headerLen bytes)).take (totalLen bytes - headerLen bytes) =
      bytes.drop (headerLen bytes) := by
    rw [htotal, List.take_of_length_le (Nat.le_of_eq List.length_drop)]
  unfold DumpPayload.stage
  simp only [Ipv4Packet.version_ofBytes, Ipv4Packet.headerLen_ofBytes, Ipv4Packet.totalLen_ofBytes, hpayload]
  rw [if_neg (by rw [IPV4_MIN_HEADER_LEN]; omega)]
  constructor
  · intro h
    split at h
    · cases h
    split at h
    · cases h
    split at h
    · cases h
    split at h
    · cases h
    rename_i hhdr hversion htot _
    rw [not_or, IPV4_MIN_HEADER_LEN, Nat.not_lt] at hhdr
    cases h
    exact ⟨⟨Decidable.not_not.1 hversion, hhdr.1, Nat.le_of_not_lt htot⟩, rfl, rfl⟩
  · rintro ⟨⟨hversion, hmin, htot⟩, rfl, rfl⟩
    have hmin : 20 ≤ headerLen bytes := hmin
    have hle : headerLen bytes ≤ totalLen bytes := htot
    rw [if_neg (by rw [IPV4_MIN_HEADER_LEN]; omega), if_neg (not_not_intro hversion), if_neg (by omega),
      if_neg (by omega)]

/-- The receiver reads the protocol that the dump does. -/
theorem protocolOf_eq_iff {bytes : Bytes} {protocol : UInt8} :
    protocolOf bytes = ⟨protocol.toNat⟩ ↔ (Ipv4Packet.ofBytes bytes).protocol = protocol := by
  rw [protocolOf, Protocol.mk.injEq, UInt8.toNat_inj, Ipv4Packet.protocol_ofBytes]

/-- **The two parsers agree** on every packet that is as long as its header says: what the dump writes is the message of
its stage, the receiver accepts the packet if and only if the dump comes to the protocols, and then the dump writes it
as the protocol whose socket the receiver sends it to, or as neither if it is skipped. -/
theorem parsers_agree (bytes : Bytes) (hlen : 20 ≤ bytes.length) (htotal : totalLen bytes = bytes.length) :
    Task.Same (DumpPayload.fmt bytes) ((DumpPayload.stage bytes).fmt bytes) ∧
    ((∃ n pr, ipv4TotalLen (bytes.take 20) = .ok (n, pr)) ↔
      ∃ packet payload, DumpPayload.stage bytes = .dispatch packet payload) ∧
    ∀ n pr packet payload, ipv4TotalLen (bytes.take 20) = .ok (n, pr) →
      DumpPayload.stage bytes = .dispatch packet payload →
      (packet.protocol = IPPROTO_TCP ∧ Task.Same (DumpPayload.fmt bytes) (writeTcp packet payload) ∧
        ∀ (self : VsockToIpv4) tcp udp buf,
          self.dispatch tcp udp pr buf n = self.sendPayload tcp .ioIpv4Tcp buf n) ∨
      (packet.protocol = IPPROTO_UDP ∧ Task.Same (DumpPayload.fmt bytes) (writeUdp packet payload) ∧
        ∀ (self : VsockToIpv4) tcp udp buf,
          self.dispatch tcp udp pr buf n = self.sendPayload udp .ioIpv4Udp buf n) ∨
      (packet.protocol ≠ IPPROTO_TCP ∧ packet.protocol ≠ IPPROTO_UDP ∧
        Task.Same (DumpPayload.fmt bytes) (writeOther packet payload) ∧
        ∀ (self : VsockToIpv4) tcp udp buf, self.dispatch tcp udp pr buf n = pure ()) := by
  refine ⟨fmt_same bytes, ?_, ?_⟩
  · simp only [ipv4TotalLen_take, stage_eq_dispatch hlen htotal]
    constructor
    · rintro ⟨n, pr, hok, -⟩
      exact ⟨_, _, hok, rfl, rfl⟩
    · rintro ⟨packet, payload, hok, -⟩
      exact ⟨_, _, hok, rfl, rfl⟩
  intro n pr packet payload hpump hdump
  have hfmt := fmt_same bytes
  obtain ⟨hok, rfl, rfl⟩ := ipv4TotalLen_take.1 hpump
  rw [hdump] at hfmt
  obtain ⟨-, rfl, rfl⟩ := (stage_eq_dispatch hlen htotal).1 hdump
  have htcp : protocolOf bytes = .TCP ↔ (Ipv4Packet.ofBytes bytes).protocol = IPPROTO_TCP := by
    rw [← protocolOf_eq_iff]
    rfl
  have hudp : protocolOf bytes = .UDP ↔ (Ipv4Packet.ofBytes bytes).protocol = IPPROTO_UDP := by
    rw [← protocolOf_eq_iff]
    rfl
  by_cases ht : (Ipv4Packet.ofBytes bytes).protocol = IPPROTO_TCP
  · refine .inl ⟨ht, ?_, fun self tcp udp buf => ?_⟩
    · rwa [Stage.fmt, if_pos ht] at hfmt
    · rw [htcp.2 ht, VsockToIpv4.dispatch_tcp]
  by_cases hu : (Ipv4Packet.ofBytes bytes).protocol = IPPROTO_UDP
  · refine .inr (.inl ⟨hu, ?_, fun self tcp udp buf => ?_⟩)
    · rwa [Stage.fmt, if_neg ht, if_pos hu] at hfmt
    · rw [hudp.2 hu, VsockToIpv4.dispatch_udp]
  · refine .inr (.inr ⟨ht, hu, ?_, fun self tcp udp buf => ?_⟩)
    · rwa [Stage.fmt, if_neg ht, if_neg hu] at hfmt
    · exact VsockToIpv4.dispatch_other (mt htcp.1 ht) (mt hudp.1 hu)

/-- The header of an empty UDP payload's packet, as short as a packet can be. -/
def bareUdp : Bytes := [0x45, 0, 0, 20, 0, 0, 0, 0, 64, 17, 0, 0, 10, 0, 0, 1, 10, 0, 0, 2]

theorem bareUdp_agrees : Task.Same (DumpPayload.fmt bareUdp) (writeUdp (.ofBytes bareUdp) []) := by
  have hstage : DumpPayload.stage bareUdp = .dispatch (.ofBytes bareUdp) [] := by decide +kernel
  have haccepted : ipv4TotalLen (bareUdp.take 20) = .ok (20, .UDP) :=
    ipv4TotalLen_take.2 ⟨⟨by decide, by decide, by decide⟩, by decide, by decide⟩
  rcases (parsers_agree bareUdp (by decide) (by decide)).2.2 20 .UDP _ _ haccepted hstage with
    ⟨h, -⟩ | ⟨-, h, -⟩ | ⟨-, h, -⟩
  · exact absurd h (by decide)
  · exact h
  · exact absurd (by decide) h

end Debug
end Glycerine
