import Glycerine.Proxy.Ipv4
import Glycerine.Stream.Framing
/-
# IPv4 packets as frames

The receiver takes the total length of a packet from its first 20 bytes. So a well-formed packet is a frame
(`frame_iff`), and a stream of such packets can be cut again in only one way.
-/

namespace Glycerine
open Framing

/-- Version 4, IHL at least 5, and a total length that is the number of bytes and not less than the header
length. -/
structure WellFormed (p : Bytes) : Prop where
  version : p.getD 0 0 >>> 4 = 4
  ihl : 5 ≤ (p.getD 0 0 &&& 0x0f).toNat
  totalLen : beU16 (p.getD 2 0) (p.getD 3 0) = p.length
  headerLen : 4 * (p.getD 0 0 &&& 0x0f).toNat ≤ p.length

instance (p : Bytes) : Decidable (WellFormed p) :=
  decidable_of_iff (p.getD 0 0 >>> 4 = 4 ∧ 5 ≤ (p.getD 0 0 &&& 0x0f).toNat ∧
      beU16 (p.getD 2 0) (p.getD 3 0) = p.length ∧ 4 * (p.getD 0 0 &&& 0x0f).toNat ≤ p.length)
    ⟨fun ⟨h₁, h₂, h₃, h₄⟩ => ⟨h₁, h₂, h₃, h₄⟩, fun ⟨h₁, h₂, h₃, h₄⟩ => ⟨h₁, h₂, h₃, h₄⟩⟩

/-- The protocol byte of a packet. -/
def protocolOf (p : Bytes) : Protocol := ⟨(p.getD 9 0).toNat⟩

/-- The packets that have a raw socket to go to. -/
def Forwarded (p : Bytes) : Prop := protocolOf p = .TCP ∨ protocolOf p = .UDP

instance (p : Bytes) : Decidable (Forwarded p) := inferInstanceAs (Decidable (_ ∨ _))

theorem beU16_lt (hi lo : Byte) : beU16 hi lo < 65536 := by
  have h₁ := hi.toNat_lt
  have h₂ := lo.toNat_lt
  unfold beU16
  omega

theorem WellFormed.length_ge {p : Bytes} (h : WellFormed p) : 20 ≤ p.length := by
  have h₁ := h.ihl
  have h₂ := h.headerLen
  omega

theorem WellFormed.length_le {p : Bytes} (h : WellFormed p) : p.length ≤ Ipv4.MAX_PACKET_SIZE := by
  have h₁ := beU16_lt (p.getD 2 0) (p.getD 3 0)
  have h₂ := h.totalLen
  unfold Ipv4.MAX_PACKET_SIZE
  omega

theorem getD_take {p : Bytes} {i n : Nat} (h : i < n) : (p.take n).getD i 0 = p.getD i 0 := by
  simp [List.getD_eq_getElem?_getD, h]

/-- What `ipv4_total_len` accepts, and what it returns. -/
theorem ipv4TotalLen_eq_ok {hd : Bytes} {n : Nat} {pr : Protocol} :
    ipv4TotalLen hd = .ok (n, pr) ↔
      hd.getD 0 0 >>> 4 = 4 ∧ 5 ≤ (hd.getD 0 0 &&& 0x0f).toNat ∧
        4 * (hd.getD 0 0 &&& 0x0f).toNat ≤ n ∧ n = beU16 (hd.getD 2 0) (hd.getD 3 0) ∧
        pr = ⟨(hd.getD 9 0).toNat⟩ := by
  have hmax := beU16_lt (hd.getD 2 0) (hd.getD 3 0)
  unfold ipv4TotalLen Ipv4.MAX_PACKET_SIZE
  dsimp only
  constructor
  · intro h
    split at h
    · cases h
    · split at h
      · cases h
      · split at h
        · cases h
        · cases h
          refine ⟨by simp_all, by omega, by omega, rfl, rfl⟩
  · rintro ⟨hv, hi, hl, rfl, rfl⟩
    rw [if_neg (by simpa using hv), if_neg (by omega), if_neg (by omega)]

theorem ipv4TotalLen_cases (hd : Bytes) :
    (∃ n pr, ipv4TotalLen hd = .ok (n, pr)) ∨
      ipv4TotalLen hd = .error (.glycerineRuntime "invalid ipv4 packet") := by
  unfold ipv4TotalLen
  dsimp only
  split
  · exact .inr rfl
  · split
    · exact .inr rfl
    · split
      · exact .inr rfl
      · exact .inl ⟨_, _, rfl⟩

/-- The length that a header announces. -/
def announced (hd : Bytes) : Option Nat :=
  match ipv4TotalLen hd with
  | .ok (n, _) => some n
  | .error _ => none

theorem announced_eq_some {hd : Bytes} {n : Nat} :
    announced hd = some n ↔ ∃ pr, ipv4TotalLen hd = .ok (n, pr) := by
  unfold announced
  split
  · rename_i m pr h
    rw [h]
    constructor
    · intro e
      cases e
      exact ⟨pr, rfl⟩
    · rintro ⟨pr', e⟩
      cases e
      rfl
  · rename_i e h
    simp [h]

def ipv4Codec : Codec Byte where
  headerLen := 20
  size := announced
  headerLen_pos := by decide
  headerLen_le := by
    intro hd n h
    obtain ⟨pr, h⟩ := announced_eq_some.1 h
    obtain ⟨-, hi, hl, -⟩ := ipv4TotalLen_eq_ok.1 h
    omega

/-- The frames of the stream are the well-formed packets. -/
theorem frame_iff {p : Bytes} : ipv4Codec.Frame p ↔ WellFormed p := by
  have key : ipv4Codec.Frame p ↔ ∃ pr, ipv4TotalLen (p.take 20) = .ok (p.length, pr) := announced_eq_some
  rw [key]
  simp only [ipv4TotalLen_eq_ok, getD_take (show 0 < 20 by decide), getD_take (show 2 < 20 by decide),
    getD_take (show 3 < 20 by decide), getD_take (show 9 < 20 by decide)]
  constructor
  · rintro ⟨pr, hv, hi, hl, ht, -⟩
    exact ⟨hv, hi, ht.symm, hl⟩
  · rintro ⟨hv, hi, ht, hl⟩
    exact ⟨_, hv, hi, hl, ht.symm, rfl⟩

theorem WellFormed.ipv4TotalLen {p : Bytes} (h : WellFormed p) :
    ipv4TotalLen (p.take 20) = .ok (p.length, protocolOf p) := by
  rw [ipv4TotalLen_eq_ok, getD_take (by decide), getD_take (by decide), getD_take (by decide),
    getD_take (by decide)]
  exact ⟨h.version, h.ihl, h.headerLen, h.totalLen.symm, rfl⟩

/-! ## Where the receiver stops -/

/-- The total length in a header. -/
def totalLen (hd : Bytes) : Nat := beU16 (hd.getD 2 0) (hd.getD 3 0)

/-- Version 4, a header length of at least 20, a total length of at least the header length. -/
structure HeaderOk (hd : Bytes) : Prop where
  version : hd.getD 0 0 >>> 4 = 4
  headerLen : 20 ≤ 4 * (hd.getD 0 0 &&& 0x0f).toNat
  totalLen : 4 * (hd.getD 0 0 &&& 0x0f).toNat ≤ totalLen hd

/-- The beginning of a packet, or nothing. -/
def Incomplete (bs : Bytes) : Prop := bs.length < 20 ∨ HeaderOk bs ∧ bs.length < totalLen bs

/-- What is accepted of the first 20 bytes of a packet, and what is returned. -/
theorem ipv4TotalLen_take {bs : Bytes} {n : Nat} {pr : Protocol} :
    ipv4TotalLen (bs.take 20) = .ok (n, pr) ↔ HeaderOk bs ∧ n = totalLen bs ∧ pr = protocolOf bs := by
  simp only [ipv4TotalLen_eq_ok, getD_take (show 0 < 20 by decide), getD_take (show 2 < 20 by decide),
    getD_take (show 3 < 20 by decide), getD_take (show 9 < 20 by decide)]
  constructor
  · rintro ⟨hv, hi, hl, rfl, rfl⟩
    exact ⟨⟨hv, by omega, hl⟩, rfl, rfl⟩
  · rintro ⟨⟨hv, hi, hl⟩, rfl, rfl⟩
    exact ⟨hv, by omega, hl, rfl, rfl⟩

theorem announced_take {bs : Bytes} {n : Nat} :
    announced (bs.take 20) = some n ↔ HeaderOk bs ∧ n = totalLen bs := by
  simp only [announced_eq_some, ipv4TotalLen_take]
  constructor
  · rintro ⟨pr, hok, hn, -⟩
    exact ⟨hok, hn⟩
  · rintro ⟨hok, hn⟩
    exact ⟨_, hok, hn, rfl⟩

theorem cut_bad {bs : Bytes} (h : ipv4Codec.cut bs = .stop .bad) : 20 ≤ bs.length ∧ ¬ HeaderOk bs := by
  unfold Codec.cut at h
  split at h
  · cases h
  · rename_i hlen
    refine ⟨Nat.le_of_not_lt hlen, fun hok => ?_⟩
    have hsize : ipv4Codec.size (bs.take ipv4Codec.headerLen) = some (totalLen bs) :=
      announced_take.2 ⟨hok, rfl⟩
    rw [hsize] at h
    dsimp only at h
    split at h <;> cases h

theorem cut_short {bs : Bytes} (h : ipv4Codec.cut bs = .stop .short) : Incomplete bs := by
  unfold Codec.cut at h
  split at h
  · exact .inl ‹_›
  · split at h
    · cases h
    · rename_i n hsize
      obtain ⟨hok, rfl⟩ := announced_take.1 hsize
      split at h
      · exact .inr ⟨hok, ‹_›⟩
      · cases h

/-- Accepted lengths fit the buffer. -/
theorem ipv4TotalLen_bounds {hd : Bytes} {n : Nat} {pr : Protocol} (h : ipv4TotalLen hd = .ok (n, pr)) :
    20 ≤ n ∧ n ≤ Ipv4.MAX_PACKET_SIZE := by
  obtain ⟨-, hi, hl, rfl, -⟩ := ipv4TotalLen_eq_ok.1 h
  have := beU16_lt (hd.getD 2 0) (hd.getD 3 0)
  unfold Ipv4.MAX_PACKET_SIZE
  omega

end Glycerine
