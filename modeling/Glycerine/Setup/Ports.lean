import Mathlib.Order.Interval.Set.Basic
import Mathlib.Order.MinMax
import Glycerine.System.Basic
/-
# Port ranges and the port check of the host

| here | there |
| --- | --- |
| `PortRange`              | the pairs of ports of `PortRangeParser` (`cli/parsers.rs:91`), the smaller one first |
| `PortRange.contains`     | `RangeInclusive::contains` |
| `CliHost`                | `cli/host.rs:19` |
| `ensureNoPortOverlaps`   | `proxy/host.rs:180` |
-/

/-! ## Closed intervals -/

namespace Set
variable {α : Type*} [LinearOrder α] {a b c d : α}

/-- Two closed intervals meet if an end of the second lies in the first, or the second encloses the first. -/
theorem Icc_inter_Icc_nonempty_iff_ends (hab : a ≤ b) (hcd : c ≤ d) :
    (Icc a b ∩ Icc c d).Nonempty ↔ c ∈ Icc a b ∨ d ∈ Icc a b ∨ (c < a ∧ b < d) := by
  rw [Icc_inter_Icc, nonempty_Icc, max_le_iff, le_min_iff, le_min_iff]
  simp only [mem_Icc]
  constructor
  · rintro ⟨⟨-, had⟩, hcb, -⟩
    by_cases hac : a ≤ c
    · exact .inl ⟨hac, hcb⟩
    · by_cases hdb : d ≤ b
      · exact .inr (.inl ⟨had, hdb⟩)
      · exact .inr (.inr ⟨lt_of_not_ge hac, lt_of_not_ge hdb⟩)
  · rintro (⟨hac, hcb⟩ | ⟨had, hdb⟩ | ⟨hca, hbd⟩)
    · exact ⟨⟨hab, hac.trans hcd⟩, hcb, hcd⟩
    · exact ⟨⟨hab, had⟩, hcd.trans hdb, hcd⟩
    · exact ⟨⟨hab, hab.trans hbd.le⟩, hca.le.trans hab, hcd⟩

end Set

namespace Glycerine
open Interact

/-! ## Ranges of ports -/

/-- A pair of ports as `PortRangeParser` returns it. -/
structure PortRange where
  first : UInt16
  last : UInt16
  le : first ≤ last
deriving DecidableEq, Repr

namespace PortRange

def contains (r : PortRange) (p : UInt16) : Bool := r.first ≤ p && p ≤ r.last

instance : Membership UInt16 PortRange := ⟨fun r p => r.contains p = true⟩

instance (p : UInt16) (r : PortRange) : Decidable (p ∈ r) := inferInstanceAs (Decidable (r.contains p = true))

theorem mem_iff {r : PortRange} {p : UInt16} : p ∈ r ↔ p.toNat ∈ Set.Icc r.first.toNat r.last.toNat := by
  show (r.first ≤ p && p ≤ r.last) = true ↔ _
  simp [UInt16.le_iff_toNat_le]

/-- One port. -/
def single (p : UInt16) : PortRange := ⟨p, p, UInt16.le_iff_toNat_le.2 (Nat.le_refl _)⟩

/-- The pair itself. -/
def pair (r : PortRange) : UInt16 × UInt16 := (r.first, r.last)

/-- One of the ends of `r` lies in `s`. -/
def EndIn (r s : PortRange) : Prop := r.first ∈ s ∨ r.last ∈ s

/-- `r` begins before `s` and ends after it. -/
def Encloses (r s : PortRange) : Prop := r.first < s.first ∧ s.last < r.last

instance (r s : PortRange) : Decidable (r.EndIn s) := inferInstanceAs (Decidable (_ ∨ _))
instance (r s : PortRange) : Decidable (r.Encloses s) := inferInstanceAs (Decidable (_ ∧ _))

theorem common_iff {r s : PortRange} : (∃ p, p ∈ s ∧ p ∈ r) ↔ r.EndIn s ∨ r.Encloses s := by
  have hr : r.first.toNat ≤ r.last.toNat := UInt16.le_iff_toNat_le.1 r.le
  have hs : s.first.toNat ≤ s.last.toNat := UInt16.le_iff_toNat_le.1 s.le
  have hports : (∃ p, p ∈ s ∧ p ∈ r) ↔
      (Set.Icc s.first.toNat s.last.toNat ∩ Set.Icc r.first.toNat r.last.toNat).Nonempty := by
    constructor
    · rintro ⟨p, hp, hq⟩
      exact ⟨p.toNat, mem_iff.1 hp, mem_iff.1 hq⟩
    · rintro ⟨n, hn, hm⟩
      have hlt : n < 2 ^ 16 := Nat.lt_of_le_of_lt hm.2 r.last.toNat_lt
      have hn' : (UInt16.ofNat n).toNat = n := UInt16.toNat_ofNat_of_lt' hlt
      exact ⟨UInt16.ofNat n, mem_iff.2 (hn'.symm ▸ hn), mem_iff.2 (hn'.symm ▸ hm)⟩
  rw [hports, Set.Icc_inter_Icc_nonempty_iff_ends hs hr, ← mem_iff, ← mem_iff, ← UInt16.lt_iff_toNat_lt,
    ← UInt16.lt_iff_toNat_lt, ← or_assoc]
  rfl

/-- Two ranges have no common port if one ends before the other begins. -/
theorem apart_iff {r s : PortRange} : (∀ p ∈ s, p ∉ r) ↔ r.last < s.first ∨ s.last < r.first := by
  have hr := r.le
  have hs := s.le
  simp only [mem_iff, Set.mem_Icc, UInt16.lt_iff_toNat_lt, UInt16.le_iff_toNat_le] at *
  constructor
  · intro h
    by_contra hmeet
    -- the larger of the two first ports is in both ranges
    by_cases hle : r.first.toNat ≤ s.first.toNat
    · exact h s.first ⟨by omega, by omega⟩ ⟨by omega, by omega⟩
    · exact h r.first ⟨by omega, by omega⟩ ⟨by omega, by omega⟩
  · rintro h p hp hq
    omega

end PortRange

/-! ## The configuration of the host -/

/-- `CliHost` (host.rs:19), without what only the workers are started with. -/
structure CliHost where
  interface : String
  enclavePorts : List PortRange
  enclaveEphemeralPorts : PortRange
  hostEphemeralPorts : PortRange
  bootstrapVsockAddress : SockAddr
  ingressNetfilterQueueNum : UInt16
  ingressVsockAddress : SockAddr
deriving DecidableEq, Repr

namespace CliHost

/-- The ranges that the enclave uses: its service ports and its ephemeral ports (host.rs:132). -/
def dstPorts (cfg : CliHost) : List PortRange := cfg.enclavePorts ++ [cfg.enclaveEphemeralPorts]

/-- `ensure_no_port_overlaps` (host.rs:180). -/
def ensureNoPortOverlaps (cfg : CliHost) : Except Error Unit :=
  if cfg.hostEphemeralPorts.contains cfg.enclaveEphemeralPorts.first ||
      cfg.hostEphemeralPorts.contains cfg.enclaveEphemeralPorts.last then
    .error (.glycerineInvalidConfig "host and enclave ephemeral ports overlap")
  else if cfg.enclavePorts.any
    fun r => cfg.hostEphemeralPorts.contains r.first || cfg.hostEphemeralPorts.contains r.last then
    .error (.glycerineInvalidConfig "enclave service ports overlap with host ephemeral ports")
  else .ok ()

/-- The check looks at the ends of the enclave's ranges, and at nothing else. -/
theorem ensureNoPortOverlaps_eq_ok {cfg : CliHost} :
    cfg.ensureNoPortOverlaps = .ok () ↔ ∀ r ∈ cfg.dstPorts, ¬ r.EndIn cfg.hostEphemeralPorts := by
  have hall : (∀ r ∈ cfg.dstPorts, ¬ r.EndIn cfg.hostEphemeralPorts) ↔
      (∀ r ∈ cfg.enclavePorts, ¬ r.EndIn cfg.hostEphemeralPorts) ∧
        ¬ cfg.enclaveEphemeralPorts.EndIn cfg.hostEphemeralPorts := by
    simp [dstPorts, or_imp, forall_and]
  rw [hall]
  unfold ensureNoPortOverlaps
  by_cases he : cfg.enclaveEphemeralPorts.EndIn cfg.hostEphemeralPorts
  · rw [if_pos (Bool.or_eq_true_iff.2 he)]
    simp [he]
  · rw [if_neg (fun h => he (Bool.or_eq_true_iff.1 h))]
    by_cases hs : ∀ r ∈ cfg.enclavePorts, ¬ r.EndIn cfg.hostEphemeralPorts
    · rw [if_neg]
      · exact iff_of_true rfl ⟨hs, he⟩
      · intro h
        obtain ⟨r, hr, hend⟩ := List.any_eq_true.1 h
        exact hs r hr (Bool.or_eq_true_iff.1 hend)
    · rw [if_pos]
      · simp [hs]
      · obtain ⟨r, hr, hend⟩ := not_forall₂.1 hs
        exact List.any_eq_true.2 ⟨r, hr, Bool.or_eq_true_iff.2 (not_not.1 hend)⟩

/-! ## Service ports and ephemeral ports of the enclave -/

/-- An accepted configuration has no port that the enclave both serves and connects from. -/
def ServiceApart (cfg : CliHost) : Prop :=
  cfg.ensureNoPortOverlaps = .ok () → ∀ r ∈ cfg.enclavePorts, ∀ p ∈ cfg.enclaveEphemeralPorts, p ∉ r

/-- **The check does not compare the two ranges of the enclave**: they are apart in an accepted configuration only
if they were given so. -/
theorem serviceApart_iff (cfg : CliHost) :
    cfg.ServiceApart ↔ (∃ r ∈ cfg.dstPorts, r.EndIn cfg.hostEphemeralPorts) ∨
      ∀ r ∈ cfg.enclavePorts, r.last < cfg.enclaveEphemeralPorts.first ∨
        cfg.enclaveEphemeralPorts.last < r.first := by
  unfold ServiceApart
  rw [ensureNoPortOverlaps_eq_ok]
  constructor
  · intro h
    by_cases hend : ∃ r ∈ cfg.dstPorts, r.EndIn cfg.hostEphemeralPorts
    · exact .inl hend
    · have hok : ∀ r ∈ cfg.dstPorts, ¬ r.EndIn cfg.hostEphemeralPorts := fun r hr hin => hend ⟨r, hr, hin⟩
      exact .inr fun r hr => PortRange.apart_iff.1 (h hok r hr)
  · rintro (⟨r, hr, hin⟩ | h) hok
    · exact absurd hin (hok r hr)
    · exact fun r hr => PortRange.apart_iff.2 (h r hr)

/-- A service on one of the ephemeral ports of the enclave. -/
def serviceOnEphemeral : CliHost where
  interface := "ens5"
  enclavePorts := [⟨50000, 50000, by decide⟩]
  enclaveEphemeralPorts := ⟨40000, 60999, by decide⟩
  hostEphemeralPorts := ⟨20000, 39999, by decide⟩
  bootstrapVsockAddress := .vsock 3 4000
  ingressNetfilterQueueNum := 0
  ingressVsockAddress := .vsock 4 8000

theorem serviceOnEphemeral_accepted :
    serviceOnEphemeral.ensureNoPortOverlaps = .ok () ∧ ¬ serviceOnEphemeral.ServiceApart := by
  have hok : serviceOnEphemeral.ensureNoPortOverlaps = .ok () := by decide
  refine ⟨hok, fun h => ?_⟩
  exact h hok ⟨50000, 50000, by decide⟩ (by decide) 50000 (by decide) (by decide)

end CliHost
end Glycerine
