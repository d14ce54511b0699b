import Glycerine.Bootstrap.Transfer
import Glycerine.Process.Startup
import Glycerine.Proxy.Reconnect
/-
# The host and the enclave together

A deployment is a process on the host and one in the enclave, and its runs are interleavings of what their threads do.
Three connections pass between them.

| from | to | transport |
| --- | --- | --- |
| the host's bootstrap service | the enclave's main thread (`get`) | `Link` |
| the host's ingress           | the enclave's ingress             | `Network` |
| the enclave's egress         | the host's egress                 | `Network` |
-/

namespace Glycerine
open Interact

inductive Side where
  | host | enclave
deriving DecidableEq, Repr

/-- What the threads of both processes have done. -/
abbrev DeployTrace := JointTrace (Side × Thread) procSig

/-- The system calls of two threads, the first one's on the left. -/
def between (i j : Side × Thread) : DeployTrace → List JointEvent :=
  List.flatMap fun x =>
    if x.1 = i then (sysPart [x.2]).map .inl
    else if x.1 = j then (sysPart [x.2]).map .inr
    else []

section
variable {i j : Side × Thread} {d d' : DeployTrace} {h : History}

theorem between_append : between i j (d ++ d') = between i j d ++ between i j d' := List.flatMap_append

@[simp] theorem senderPart_inl : senderPart (h.map .inl) = h := by
  induction h with
  | nil => rfl
  | cons e h ih => exact congrArg (e :: ·) ih

@[simp] theorem senderPart_inr : senderPart (h.map .inr) = [] := by
  induction h with
  | nil => rfl
  | cons e h ih => exact ih

@[simp] theorem receiverPart_inl : receiverPart (h.map .inl) = [] := by
  induction h with
  | nil => rfl
  | cons e h ih => exact ih

@[simp] theorem receiverPart_inr : receiverPart (h.map .inr) = h := by
  induction h with
  | nil => rfl
  | cons e h ih => exact congrArg (e :: ·) ih

theorem senderPart_between : senderPart (between i j d) = sysPart (part i d) := by
  induction d with
  | nil => rfl
  | cons x d ih =>
    obtain ⟨k, e⟩ := x
    show senderPart ((if k = i then _ else _) ++ between i j d) = _
    rw [senderPart_append, ih]
    by_cases hi : k = i
    · subst hi
      rw [if_pos rfl, senderPart_inl, part_cons_self, ← sysPart_append, List.singleton_append]
    · rw [if_neg hi, part_cons_other hi]
      split
      · rw [senderPart_inr, List.nil_append]
      · rfl

theorem receiverPart_between (hij : i ≠ j) : receiverPart (between i j d) = sysPart (part j d) := by
  induction d with
  | nil => rfl
  | cons x d ih =>
    obtain ⟨k, e⟩ := x
    show receiverPart ((if k = i then _ else _) ++ between i j d) = _
    rw [receiverPart_append, ih]
    by_cases hj : k = j
    · subst hj
      rw [if_neg hij.symm, if_pos rfl, receiverPart_inr, part_cons_self, ← sysPart_append, List.singleton_append]
    · rw [if_neg hj, part_cons_other hj]
      split
      · rw [receiverPart_inl, List.nil_append]
      · rfl

end

/-! ## What a transport lets happen, up to any earlier moment -/

section
variable {cid : Nat} {peer : Fd → Fd} {g g' : List JointEvent}

theorem Link.run_left {orderly : Bool} (h : (Link.empty.run cid peer orderly (g ++ g')).isSome) :
    (Link.empty.run cid peer orderly g).isSome := by
  unfold Link.run at h ⊢
  rw [List.foldlM_append] at h
  obtain ⟨w, hw⟩ := Option.isSome_iff_exists.1 h
  obtain ⟨w₁, hw₁, -⟩ := Option.bind_eq_some_iff.1 hw
  exact Option.isSome_iff_exists.2 ⟨w₁, hw₁⟩

theorem Network.run_left : ∀ {g : List JointEvent} {w : Network}, (w.run cid peer (g ++ g')).isSome →
    (w.run cid peer g).isSome
  | [], _, _ => rfl
  | e :: g, w, h => by
    rw [List.cons_append] at h
    unfold Network.run at h ⊢
    split at h
    · cases h
    · exact Network.run_left h

end

/-! ## Runs -/

/-- The CID of a vsock address; the parsers of the command line accept no other address. -/
def SockAddr.cid (addr : SockAddr) : Nat := addr.asVsockAddress.elim 0 Prod.fst

/-- The two commands, and what they run on. -/
structure Deployment where
  kernel : Interfaces
  host : HostArgs
  fromSlice : Bytes → Option Record
  parseNetwork : String → Option Ipv4Network
  enclave : EnclaveArgs
  backoff : ExponentialBackoff

namespace Deployment

abbrev hostRun (D : Deployment) : Proc Error (List Service) := D.host.run D.kernel D.backoff
abbrev enclaveRun (D : Deployment) : Proc Error (List Service) := D.enclave.run D.fromSlice D.parseNetwork D.backoff

/-- A run of both processes up to some moment. -/
structure Run (D : Deployment) (d : DeployTrace) : Prop where
  host : ProcessRun D.hostRun (within .host d)
  enclave : ProcessRun D.enclaveRun (within .enclave d)
  bootstrap : ∃ peer orderly, (Link.empty.run D.host.ingressVsockAddress.cid peer orderly
    (between (.host, .service .bootstrap) (.enclave, .main) d)).isSome
  ingress : ∃ peer, (Network.empty.run D.enclave.egressVsockAddress.cid peer
    (between (.host, .service .ingress) (.enclave, .service .ingress) d)).isSome
  egress : ∃ peer, (Network.empty.run D.host.ingressVsockAddress.cid peer
    (between (.enclave, .service .egress) (.host, .service .egress) d)).isSome
  datagrams : ∀ x ∈ d, ∀ e ∈ sysPart [x.2], WholeDatagram e

/-- `from_slice` undoes what the host did to the record, and accepts only documents. -/
structure Decodes (D : Deployment) : Prop where
  record : ∀ r, Record.new D.kernel D.host.toCliHost = .ok r → D.fromSlice r.encode = some r
  document : ∀ bs r, D.fromSlice bs = some r → Json.Document bs

theorem Run.left {D : Deployment} {d d' : DeployTrace} (h : D.Run (d ++ d')) : D.Run d := by
  obtain ⟨hh, he, ⟨peer₁, orderly, h₁⟩, ⟨peer₂, h₂⟩, ⟨peer₃, h₃⟩, hw⟩ := h
  rw [within_append] at hh he
  rw [between_append] at h₁ h₂ h₃
  exact ⟨hh.left, he.left, ⟨peer₁, orderly, Link.run_left h₁⟩, ⟨peer₂, Network.run_left h₂⟩,
    ⟨peer₃, Network.run_left h₃⟩, fun x hx => hw x (List.mem_append_left _ hx)⟩

end Deployment
end Glycerine
