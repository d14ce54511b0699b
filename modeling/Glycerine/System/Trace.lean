import Glycerine.System.Vsock
/-
# What a history says

The byte streams and packet lists that the claims about whole runs speak of, read off the history of a worker.
All of them are lists collected event by event, so they only grow.
-/

namespace Glycerine
open Interact

/-- The payloads that were received from a netfilter queue. -/
def recvd : History → List Bytes :=
  List.flatMap fun
    | ⟨.recv _, .ok m⟩ => [m.payload]
    | _ => []

/-- The connections that may have been opened: the other end can have accepted one whose `connect` failed. -/
def opened : History → List Fd :=
  List.flatMap fun
    | ⟨.connect s _, _⟩ => [s]
    | _ => []

/-- The connections that were accepted from `peerCid`. -/
def accepted (peerCid : Nat) : History → List Fd :=
  List.flatMap fun
    | ⟨.accept _, .ok (s, .vsock cid _)⟩ => if cid = peerCid then [s] else []
    | _ => []

/-- The bytes that may have gone out on connection `c`. How much a send took that failed is not known, so all of
its bytes count. -/
def sentOn (c : Fd) : History → Bytes :=
  List.flatMap fun
    | ⟨.send s bs, .ok n⟩ => if s = c then bs.take n.val else []
    | ⟨.send s bs, .error _⟩ => if s = c then bs else []
    | _ => []

/-- The bytes that were read from connection `c`. -/
def readOn (c : Fd) : History → Bytes :=
  List.flatMap fun
    | ⟨.read s _, .ok bs⟩ => if s = c then bs.1 else []
    | _ => []

/-- What raw sockets were asked to send, whether or not they did. -/
def offered : History → List Bytes :=
  List.flatMap fun
    | ⟨.sendTo _ bs _, _⟩ => [bs]
    | _ => []

/-- A raw socket takes a whole datagram or nothing of it. -/
def WholeDatagram : SysEvent → Prop
  | ⟨.sendTo _ bs _, .ok n⟩ => n.val = 0 ∨ n.val = bs.length
  | _ => True

instance : DecidablePred WholeDatagram := fun e =>
  decidable_of_bool (match e with
    | ⟨.sendTo _ bs _, .ok n⟩ => decide (n.val = 0 ∨ n.val = bs.length)
    | _ => true) (by unfold WholeDatagram; split <;> simp)

@[simp] theorem recvd_append (h t : History) : recvd (h ++ t) = recvd h ++ recvd t := List.flatMap_append
@[simp] theorem opened_append (h t : History) : opened (h ++ t) = opened h ++ opened t := List.flatMap_append
@[simp] theorem accepted_append (cid : Nat) (h t : History) :
    accepted cid (h ++ t) = accepted cid h ++ accepted cid t := List.flatMap_append
@[simp] theorem sentOn_append (c : Fd) (h t : History) : sentOn c (h ++ t) = sentOn c h ++ sentOn c t :=
  List.flatMap_append
@[simp] theorem readOn_append (c : Fd) (h t : History) : readOn c (h ++ t) = readOn c h ++ readOn c t :=
  List.flatMap_append
@[simp] theorem offered_append (h t : History) : offered (h ++ t) = offered h ++ offered t :=
  List.flatMap_append

/-! Lists of handles and what is attached to them -/

/-- The last of several handles is not among the earlier ones. -/
theorem not_mem_of_nodup {cs : List Fd} {c : Fd} (hn : (cs ++ [c]).Nodup) : c ∉ cs :=
  fun hmem => (List.nodup_append.1 hn).2.2 c hmem c (by simp) rfl

theorem flatMap_update {β : Type} {c : Fd} {cs : List Fd} (hc : c ∉ cs) (f : Fd → List β) (l : List β) :
    cs.flatMap (fun x => if x = c then l else f x) = cs.flatMap f := by
  rw [List.flatMap_def, List.flatMap_def]
  refine congrArg List.flatten (List.map_congr_left fun x hx => if_neg ?_)
  rintro rfl
  exact hc hx

end Glycerine
