import Glycerine.System.Trace
/-
# The vsock transport between the two workers

Two workers run at the same time, each with a history of its own; a joint run is an interleaving of the two.
`Network.step` is what the transport lets happen between them: every connection that the sender opens has a new
handle and waits to be accepted, even if its `connect` failed, connections are accepted in the order they were
opened (some perhaps never), and a read gets the next of the bytes that were sent and not read yet. It may stop
anywhere: a read of no bytes, or one that fails, is always possible, and then the rest of the stream was lost.

The two ends of a connection have different handles; `peer c` is the sender's handle for what the receiver
accepted as `c`.
-/

namespace Glycerine
open Interact

/-- A step of the sender or a step of the receiver. -/
abbrev JointEvent := SysEvent ⊕ SysEvent

def senderPart : List JointEvent → History :=
  List.flatMap fun
    | .inl e => [e]
    | .inr _ => []

def receiverPart : List JointEvent → History :=
  List.flatMap fun
    | .inl _ => []
    | .inr e => [e]

@[simp] theorem senderPart_append (g g' : List JointEvent) :
    senderPart (g ++ g') = senderPart g ++ senderPart g' := List.flatMap_append
@[simp] theorem receiverPart_append (g g' : List JointEvent) :
    receiverPart (g ++ g') = receiverPart g ++ receiverPart g' := List.flatMap_append

/-- Where the receiver's last event is in a joint run. -/
theorem exists_of_receiverPart : ∀ {g : List JointEvent} {u v : History} {e : SysEvent},
    receiverPart g = u ++ e :: v → ∃ g₁ g₂, g = g₁ ++ .inr e :: g₂ ∧ receiverPart g₁ = u
  | [], u, v, e, h => by simp [receiverPart] at h
  | .inl x :: g, u, v, e, h => by
    obtain ⟨g₁, g₂, rfl, hu⟩ := exists_of_receiverPart (g := g) h
    exact ⟨.inl x :: g₁, g₂, rfl, hu⟩
  | .inr x :: g, [], v, e, h => by
    obtain ⟨rfl, -⟩ := List.cons_eq_cons.1 (h : x :: receiverPart g = e :: v)
    exact ⟨[], g, rfl, rfl⟩
  | .inr x :: g, y :: u, v, e, h => by
    obtain ⟨rfl, hg⟩ := List.cons_eq_cons.1 (h : x :: receiverPart g = y :: (u ++ e :: v))
    obtain ⟨g₁, g₂, rfl, hu⟩ := exists_of_receiverPart hg
    exact ⟨.inr x :: g₁, g₂, rfl, congrArg (x :: ·) hu⟩

structure Network where
  /-- the sender's connections -/
  opened : List Fd
  /-- those of them that can still be accepted, oldest first -/
  pending : List Fd
  /-- the receiver's connections -/
  accepted : List Fd
  /-- what was sent to the receiver's connection and was not read from it -/
  wire : Fd → Bytes

namespace Network
variable (peerCid : Nat) (peer : Fd → Fd)

def empty : Network := ⟨[], [], [], fun _ => []⟩

/-- A read gets what is on the wire of an accepted connection. -/
def Delivers (w : Network) : SysEvent → Prop
  | ⟨.read c _, .ok bs⟩ => c ∈ w.accepted ∧ bs.1 <+: w.wire c
  | _ => True

instance (w : Network) : DecidablePred w.Delivers := fun e =>
  decidable_of_bool (match e with
    | ⟨.read c _, .ok bs⟩ => decide (c ∈ w.accepted ∧ bs.1 <+: w.wire c)
    | _ => true) (by unfold Delivers; split <;> simp)

/-- The sender opens a connection under a new handle, or sends. -/
def stepSender (w : Network) (e : SysEvent) : Option Network :=
  if (w.opened ++ Glycerine.opened [e]).Nodup then
    some { w with
      opened := w.opened ++ Glycerine.opened [e]
      pending := w.pending ++ Glycerine.opened [e]
      wire := fun c => w.wire c ++ sentOn (peer c) [e] }
  else none

/-- The receiver accepts the next connection that is not lost, or reads. Connections of other CIDs do not come
from the sender. -/
def stepReceiver (w : Network) (e : SysEvent) : Option Network :=
  match Glycerine.accepted peerCid [e] with
  | [] => if w.Delivers e then some { w with wire := fun c => (w.wire c).drop (readOn c [e]).length } else none
  | c :: _ =>
    if peer c ∈ w.pending then
      some { w with pending := (w.pending.dropWhile (· ≠ peer c)).tail, accepted := w.accepted ++ [c] }
    else none

/-- What becomes of the transport, if it lets the event happen. -/
def step (w : Network) : JointEvent → Option Network
  | .inl e => w.stepSender peer e
  | .inr e => w.stepReceiver peerCid peer e

def run (w : Network) : List JointEvent → Option Network
  | [] => some w
  | e :: g =>
    match w.step peerCid peer e with
    | none => none
    | some w' => w'.run g

/-- The transport after the joint run `g`. -/
structure Inv (w : Network) (g : List JointEvent) : Prop where
  opened : w.opened = Glycerine.opened (senderPart g)
  accepted : w.accepted = Glycerine.accepted peerCid (receiverPart g)
  nodup : w.opened.Nodup
  order : (w.accepted.map peer ++ w.pending).Sublist w.opened
  wire : ∀ c, readOn c (receiverPart g) ++ w.wire c = sentOn (peer c) (senderPart g)

variable {peerCid peer}

theorem readOn_of_delivers {w : Network} {e : SysEvent} (h : w.Delivers e) (c : Fd) :
    readOn c [e] <+: w.wire c := by
  obtain ⟨op, r⟩ := e
  cases op with
  | read c' n =>
    cases r with
    | ok bs =>
      obtain ⟨-, hbs⟩ := h
      by_cases hc : c' = c
      · subst hc
        simpa [readOn] using hbs
      · simp [readOn, hc]
    | error e => exact List.nil_prefix
  | _ => exact List.nil_prefix

/-- Accepting takes a connection off the queue, and those before it. -/
theorem exists_append_of_mem {c : Fd} : ∀ {l : List Fd}, c ∈ l → ∃ pre, l = pre ++ c :: (l.dropWhile (· ≠ c)).tail
  | d :: l, h => by
    by_cases hd : d = c
    · exact ⟨[], by simp [hd]⟩
    · obtain ⟨pre, hpre⟩ := exists_append_of_mem ((List.mem_cons.1 h).resolve_left fun h => hd h.symm)
      refine ⟨d :: pre, ?_⟩
      rw [List.dropWhile_cons_of_pos (by simpa using hd), List.cons_append, ← hpre]

/-- An event accepts one connection at most, and then it reads nothing. -/
theorem accepted_cases (peerCid : Nat) (e : SysEvent) : Glycerine.accepted peerCid [e] = [] ∨
    ∃ c, Glycerine.accepted peerCid [e] = [c] ∧ ∀ x, readOn x [e] = [] := by
  obtain ⟨op, r⟩ := e
  cases op with
  | accept l =>
    match r with
    | .error _ => exact .inl rfl
    | .ok (_, .inet _ _) => exact .inl rfl
    | .ok (c, .vsock cid _) =>
      by_cases hcid : cid = peerCid
      · exact .inr ⟨c, by simp [Glycerine.accepted, hcid], fun _ => rfl⟩
      · exact .inl (by simp [Glycerine.accepted, hcid])
  | _ => exact .inl rfl

section
variable {w w' : Network} {g : List JointEvent}

theorem inv_step_sender {e : SysEvent} (hw : w.Inv peerCid peer g)
    (hs : w.stepSender peer e = some w') : w'.Inv peerCid peer (g ++ [.inl e]) := by
  have hsnd : senderPart (g ++ [.inl e]) = senderPart g ++ [e] := senderPart_append g _
  have hrcv : receiverPart (g ++ [.inl e]) = receiverPart g := by simp [receiverPart]
  unfold stepSender at hs
  split at hs
  · rename_i hn
    cases hs
    refine ⟨?_, ?_, hn, ?_, fun c => ?_⟩
    · rw [hsnd, opened_append, ← hw.opened]
    · rw [hrcv, ← hw.accepted]
    · rw [← List.append_assoc]
      exact hw.order.append (List.Sublist.refl _)
    · rw [hsnd, hrcv, sentOn_append, ← List.append_assoc, hw.wire]
  · cases hs

theorem inv_step_receiver {e : SysEvent} (hw : w.Inv peerCid peer g)
    (hs : w.stepReceiver peerCid peer e = some w') : w'.Inv peerCid peer (g ++ [.inr e]) := by
  have hsnd : senderPart (g ++ [.inr e]) = senderPart g := by simp [senderPart]
  have hrcv : receiverPart (g ++ [.inr e]) = receiverPart g ++ [e] := receiverPart_append g _
  unfold stepReceiver at hs
  rcases accepted_cases peerCid e with hacc | ⟨c, hacc, hread⟩
  · simp only [hacc] at hs
    split at hs
    · rename_i hd
      cases hs
      refine ⟨?_, ?_, hw.nodup, hw.order, fun c => ?_⟩
      · rw [hsnd, ← hw.opened]
      · rw [hrcv, accepted_append, hacc, List.append_nil, ← hw.accepted]
      · obtain ⟨rest, hrest⟩ := readOn_of_delivers hd c
        rw [hsnd, hrcv, readOn_append, List.append_assoc, ← hw.wire c]
        show _ ++ (_ ++ (w.wire c).drop _) = _
        rw [← hrest, List.drop_left]
    · cases hs
  · simp only [hacc] at hs
    split at hs
    · rename_i hmem
      cases hs
      refine ⟨?_, ?_, hw.nodup, ?_, fun x => ?_⟩
      · rw [hsnd, ← hw.opened]
      · rw [hrcv, accepted_append, hacc, ← hw.accepted]
      · obtain ⟨pre, hpre⟩ := exists_append_of_mem hmem
        refine List.Sublist.trans ?_ hw.order
        rw [List.map_append, List.append_assoc]
        have hsub := List.sublist_append_right pre (peer c :: (w.pending.dropWhile (· ≠ peer c)).tail)
        rw [← hpre] at hsub
        exact List.Sublist.append (List.Sublist.refl _) hsub
      · rw [hsnd, hrcv, readOn_append, hread, List.append_nil, hw.wire]
    · cases hs

theorem inv_step : ∀ {e : JointEvent}, w.Inv peerCid peer g → w.step peerCid peer e = some w' →
    w'.Inv peerCid peer (g ++ [e])
  | .inl _, hw, hs => inv_step_sender hw hs
  | .inr _, hw, hs => inv_step_receiver hw hs

end

theorem inv_run : ∀ {g' g : List JointEvent} {w w' : Network}, w.Inv peerCid peer g →
    w.run peerCid peer g' = some w' → w'.Inv peerCid peer (g ++ g')
  | [], g, w, w', hw, hr => by
    cases hr
    rwa [List.append_nil]
  | e :: g', g, w, w', hw, hr => by
    unfold run at hr
    split at hr
    · cases hr
    · rename_i w₁ hs
      have := inv_run (inv_step hw hs) hr
      rwa [List.append_assoc] at this

theorem inv_empty : empty.Inv peerCid peer [] :=
  ⟨rfl, rfl, List.nodup_nil, List.Sublist.refl _, fun _ => rfl⟩

/-- What the workers can rely on, at any moment of a joint run. -/
theorem run_spec {g : List JointEvent} (h : (empty.run peerCid peer g).isSome) :
    (Glycerine.opened (senderPart g)).Nodup ∧
      ((Glycerine.accepted peerCid (receiverPart g)).map peer).Sublist (Glycerine.opened (senderPart g)) ∧
      ∀ c, readOn c (receiverPart g) <+: sentOn (peer c) (senderPart g) := by
  obtain ⟨w, hw⟩ := Option.isSome_iff_exists.1 h
  have hinv : w.Inv peerCid peer g := inv_run inv_empty hw
  refine ⟨hinv.opened ▸ hinv.nodup, ?_, fun c => ⟨_, hinv.wire c⟩⟩
  rw [← hinv.opened, ← hinv.accepted]
  exact (List.sublist_append_left _ _).trans hinv.order

end Network
end Glycerine
