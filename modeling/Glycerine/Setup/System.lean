import Glycerine.Setup.Routes
import Glycerine.Setup.Rulesets
/-
# The system that a setup changes

Six components, each of which is changed by its own operations and by no other (`Component.step_other`), and by an
operation only if it succeeds. What a setup of the enclave makes of each of them is `CliEnclave.wanted`.

| here | there |
| --- | --- |
| `State .flags`, `State .mtu`   | `ifr_flags` and `ifr_mtu` of the interface that an `ioctl` names |
| `State .addresses`             | addresses, with the index of their interface |
| `State .routes`                | the routing table |
| `State .portRange`             | `/proc/sys/net/ipv4/ip_local_port_range` |
| `State .ruleset`               | the tables of the IPv4 family (`ProtoFamily::Ipv4`) |
-/

namespace Glycerine
open Interact Nftables Machine

variable {α : Type}

/-! ## Components -/

@[reducible] def Component.State (α : Type) : Component → Type
  | .flags => Bytes → UInt16
  | .addresses => Set (Nat × Ipv4Network)
  | .routes => Set Route
  | .mtu => Bytes → Int32
  | .portRange => UInt16 × UInt16
  | .ruleset => Ruleset α

abbrev System (α : Type) := (c : Component) → c.State α

def flagsStep (flags : Bytes → UInt16) : Event kernelSig → Bytes → UInt16
  | ⟨.setFlags name new, .ok ()⟩ => Function.update flags name new
  | _ => flags

def addressesStep (addresses : Set (Nat × Ipv4Network)) : Event kernelSig → Set (Nat × Ipv4Network)
  | ⟨.addressAdd interface address, .ok ()⟩ => insert (interface, address) addresses
  | _ => addresses

def mtuStep (mtu : Bytes → Int32) : Event kernelSig → Bytes → Int32
  | ⟨.setMtu name new, .ok ()⟩ => Function.update mtu name new
  | _ => mtu

/-- A text that says no range is not taken. -/
def portRangeStep (range : UInt16 × UInt16) : Event kernelSig → UInt16 × UInt16
  | ⟨.writeLocalPortRange contents, .ok ()⟩ => (rangeOfText contents).getD range
  | _ => range

def Component.step : (c : Component) → c.State α → Event kernelSig → c.State α
  | .flags => flagsStep
  | .addresses => addressesStep
  | .routes => routesStep
  | .mtu => mtuStep
  | .portRange => portRangeStep
  | .ruleset => rulesetStep

theorem Component.step_other {c : Component} (x : c.State α) {e : Event kernelSig} (he : e.1.component ≠ some c) :
    c.step x e = x := by
  obtain ⟨op, r⟩ := e
  cases c <;> cases op <;> first | rfl | exact absurd rfl he

/-- The system after a history. -/
def System.after (σ : System α) (h : SetupHistory) : System α := fun c => h.foldl c.step (σ c)

@[simp] theorem System.after_nil (σ : System α) : σ.after [] = σ := rfl

theorem System.after_append (σ : System α) (h t : SetupHistory) : σ.after (h ++ t) = (σ.after h).after t :=
  funext fun _ => List.foldl_append

theorem System.after_snoc (σ : System α) (h : SetupHistory) (e : Event kernelSig) (c : Component) :
    σ.after (h ++ [e]) c = c.step (σ.after h c) e := List.foldl_append

/-- What is said about one component is not about another. -/
theorem ignores_after {c c' : Component} (hc : c' ≠ c) (σ : System α) (P : c.State α → Prop) :
    Ignores c' fun h => P (σ.after h c) := by
  intro h e he hP
  rw [System.after_snoc, Component.step_other]
  · exact hP
  · rcases he with he | he <;> simp [he, hc]

/-! ## Answers -/

/-- What a setup relies on and cannot change: the interfaces' indices, and which routes a table can take. -/
structure Kernel where
  index : String → Option Nat
  accepts : Set Route → Route → Prop

/-- An answer that is true of the system `σ` after the history `u` of a run, in which routes are listed once, before
one is changed. Any operation may fail, but an address is said to exist only if it does. -/
def Kernel.Truthful (K : Kernel) (σ : System α) (u : SetupHistory) : Event kernelSig → Prop
  | ⟨.linkByName name, .ok index⟩ => index = K.index name
  | ⟨.getFlags name, .ok flags⟩ => flags = σ.after u .flags name
  | ⟨.getMtu name, .ok mtu⟩ => mtu = σ.after u .mtu name
  | ⟨.readLocalPortRange, .ok contents⟩ => rangeOfText contents = some (σ.after u .portRange)
  | ⟨.addressAdd interface address, .error e⟩ =>
    e = .netlink (some (-EEXIST)) → (interface, address) ∈ σ.after u .addresses
  | ⟨.routeNext, .ok (some route)⟩ => ∃ i, ⟨.routeGet i, ()⟩ ∈ u ∧ route.outputInterface = some i
  | ⟨.routeNext, .ok none⟩ =>
    ∀ i, ⟨.routeGet i, ()⟩ ∈ u → ∀ route ∈ σ .routes, route.outputInterface = some i → route ∈ listed u
  | ⟨.routeAdd route, .ok ()⟩ => K.accepts (σ.after u .routes) route
  | _ => True

def Kernel.env (K : Kernel) (σ : System α) : Env kernelSig := keeping (K.Truthful σ)

/-- One that is true, except that routes of other interfaces may be listed as well. -/
def Kernel.Unfiltered (K : Kernel) (σ : System α) (u : SetupHistory) : Event kernelSig → Prop
  | ⟨.routeNext, .ok (some _)⟩ => True
  | e => K.Truthful σ u e

def Kernel.unfiltered (K : Kernel) (σ : System α) : Env kernelSig := keeping (K.Unfiltered σ)

section
variable {K : Kernel} {σ : System α} {h : SetupHistory}

theorem Kernel.unfiltered_of_env (hE : (K.env σ).ok h) : (K.unfiltered σ).ok h := by
  intro u e hu
  have htrue : K.Truthful σ u e := hE u e hu
  unfold Unfiltered
  split
  · trivial
  · exact htrue

theorem Kernel.unfiltered_last {e : Event kernelSig} (hE : (K.unfiltered σ).ok (h ++ [e])) : K.Unfiltered σ h e :=
  (throughout_snoc.1 hE).2

theorem Kernel.index_of_link (hE : (K.unfiltered σ).ok h) {name : String} {i : Nat}
    (hi : ⟨.linkByName name, .ok (some i)⟩ ∈ h) : K.index name = some i := by
  obtain ⟨u, v, rfl⟩ := List.append_of_mem hi
  have hindex : some i = K.index name := hE u ⟨.linkByName name, .ok (some i)⟩ ⟨v, by simp⟩
  exact hindex.symm

/-- Routes are listed for the interface that was asked for. -/
theorem Kernel.through_of_listed (hE : (K.env σ).ok h) {route : Route} (hr : route ∈ listed h) :
    ∃ i, ⟨.routeGet i, ()⟩ ∈ h ∧ route.outputInterface = some i := by
  obtain ⟨e, he, hr⟩ := List.mem_flatMap.1 hr
  split at hr
  · obtain rfl := List.mem_singleton.1 hr
    obtain ⟨u, v, rfl⟩ := List.append_of_mem he
    have hnext : K.Truthful σ u ⟨.routeNext, .ok (some route)⟩ := hE u _ ⟨v, by simp⟩
    obtain ⟨i, hi, hthrough⟩ := hnext
    exact ⟨i, List.mem_append_left _ hi, hthrough⟩
  · cases hr

theorem Kernel.dumpsAll (hE : (K.unfiltered σ).ok h) : DumpsAll (σ .routes) h := by
  rintro u i v rfl hget
  have hnext : K.Unfiltered σ u ⟨.routeNext, .ok none⟩ := hE u _ ⟨v, by simp⟩
  exact hnext i hget

end

/-! ## What a setup wants -/

namespace CliEnclave
variable (cfg : CliEnclave) (bootstrap : Record) (a : Ipv4Network) (i : Nat)

/-- The interface, as the requests of an `ioctl` name it. -/
def ifrName : Bytes := newIfreq cfg.interface.toUTF8.toList

/-- The routes that stay. -/
def kept (R : Set Route) : Set Route :=
  {route ∈ R | ¬ (route.isMainDefault = true ∧ route.outputInterface = some i)}

/-- What is wanted of each component, for the address `a` and an interface with index `i`. -/
def wanted : (c : Component) → c.State α → c.State α
  | .flags, flags => Function.update flags cfg.ifrName (flags cfg.ifrName ||| IFF_UP)
  | .addresses, addresses => insert (i, a) addresses
  | .routes, R => insert (defaultRoute i a) (kept i R)
  | .mtu, mtu => Function.update mtu cfg.ifrName bootstrap.interface.mtu
  | .portRange, _ => bootstrap.ports.ephemeral.pair
  | .ruleset, rs => withSinks rs cfg.egressNetfilterQueueNum (cfg.chain bootstrap a)

variable {cfg bootstrap a i}

/-- The new route is among those that the next setup deletes. -/
theorem kept_insert_kept {R : Set Route} : kept i (insert (defaultRoute i a) (kept i R)) = kept i R := by
  ext route
  constructor
  · rintro ⟨rfl | hr, hnot⟩
    · exact absurd ⟨isMainDefault_defaultRoute, rfl⟩ hnot
    · exact hr
  · exact fun hr => ⟨.inr hr, hr.2⟩

/-- Wanted twice is wanted once. -/
theorem wanted_idem (c : Component) (x : c.State α) :
    cfg.wanted bootstrap a i c (cfg.wanted bootstrap a i c x) = cfg.wanted bootstrap a i c x := by
  cases c with
  | flags =>
    simp only [wanted, Function.update_self, Function.update_idem, UInt16.or_assoc, UInt16.or_self]
  | addresses => simp [wanted]
  | routes => simp only [wanted, kept_insert_kept]
  | mtu => simp [wanted]
  | portRange => rfl
  | ruleset =>
    simp only [wanted, withSinks]
    rw [Function.update_comm (tcpTable_ne_udpTable _ _), Function.update_idem,
      Function.update_comm (tcpTable_ne_udpTable _ _),
      Function.update_idem]

end CliEnclave
end Glycerine
