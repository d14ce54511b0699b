import Glycerine.Bootstrap.Written
import Glycerine.System.Transport
/-
# The vsock transport between the bootstrap service and `get`

The service and a client run at the same time, and a joint run is an interleaving of their events, the service's
on the left. What a connection carries goes the other way than in `Network`: who accepted it writes. A read gets
the next of the bytes that were written and not read yet, split anywhere, and `peer s` is the service's handle for
the connection that the client has as `s`.

An orderly transport reports the end of a stream only where it is: the service has closed the connection and
everything was read. One that is not orderly may do so anywhere.
-/

namespace Glycerine
open Interact

structure Link where
  /-- the connections that the service accepted -/
  conns : List Fd
  /-- those of them that it closed -/
  closed : List Fd
  /-- what was written to the client's connection and was not read from it -/
  wire : Fd → Bytes

namespace Link
variable (peerCid : Nat) (peer : Fd → Fd)

def empty : Link := ⟨[], [], fun _ => []⟩

/-- A connection that the event closes. -/
def closes (w : Link) : SysEvent → List Fd
  | ⟨.dropSocket c, _⟩ => if c ∈ w.conns then [c] else []
  | _ => []

/-- A read gets what is on the wire. -/
def Delivers (w : Link) : SysEvent → Prop
  | ⟨.read s _, .ok bs⟩ => bs.1 <+: w.wire s
  | _ => True

/-- A read that gets nothing has found the end of the stream. -/
def EndsInOrder (w : Link) : SysEvent → Prop
  | ⟨.read s _, .ok bs⟩ => bs.1 = [] → peer s ∈ w.closed ∧ w.wire s = []
  | _ => True

instance (w : Link) : DecidablePred w.Delivers := fun e =>
  decidable_of_bool (match e with
    | ⟨.read s _, .ok bs⟩ => decide (bs.1 <+: w.wire s)
    | _ => true) (by unfold Delivers; split <;> simp)

instance (w : Link) : DecidablePred (w.EndsInOrder peer) := fun e =>
  decidable_of_bool (match e with
    | ⟨.read s _, .ok bs⟩ => decide (bs.1 = [] → peer s ∈ w.closed ∧ w.wire s = [])
    | _ => true) (by unfold EndsInOrder; split; exact decide_eq_true_iff; exact iff_of_true rfl trivial)

/-- The service accepts a connection under a new handle, writes to one or closes one. -/
def stepServer (w : Link) (e : SysEvent) : Option Link :=
  if (w.conns ++ accepted peerCid [e]).Nodup then
    some {
      conns := w.conns ++ accepted peerCid [e]
      closed := w.closed ++ w.closes e
      wire := fun s => w.wire s ++ writtenOn (peer s) [e] }
  else none

def stepClient (orderly : Bool) (w : Link) (e : SysEvent) : Option Link :=
  if w.Delivers e ∧ (orderly = true → w.EndsInOrder peer e) then
    some { w with wire := fun s => (w.wire s).drop (readOn s [e]).length }
  else none

/-- What becomes of the transport, if it lets the event happen. -/
def step (orderly : Bool) (w : Link) : JointEvent → Option Link
  | .inl e => w.stepServer peerCid peer e
  | .inr e => w.stepClient peer orderly e

def run (orderly : Bool) (w : Link) (g : List JointEvent) : Option Link := g.foldlM (step peerCid peer orderly) w

/-- The transport after the joint run `g`. -/
structure Inv (w : Link) (g : List JointEvent) : Prop where
  conns : w.conns = accepted peerCid (senderPart g)
  nodup : w.conns.Nodup
  wire : ∀ s, readOn s (receiverPart g) ++ w.wire s = writtenOn (peer s) (senderPart g)
  closed : ∀ c ∈ w.closed, ∃ u, u ++ [⟨.dropSocket c, ()⟩] <+: senderPart g ∧ c ∈ accepted peerCid u

variable {peerCid peer} {orderly : Bool} {w w' : Link} {g g' : List JointEvent}

theorem readOn_of_delivers {e : SysEvent} (h : w.Delivers e) (s : Fd) : readOn s [e] <+: w.wire s := by
  obtain ⟨op, r⟩ := e
  cases op with
  | read s' n =>
    cases r with
    | ok bs =>
      by_cases hs : s' = s
      · subst hs
        simpa [readOn, Delivers] using h
      · simp [readOn, hs]
    | error e => exact List.nil_prefix
  | _ => exact List.nil_prefix

theorem mem_closes {e : SysEvent} {c : Fd} (h : c ∈ w.closes e) : e = ⟨.dropSocket c, ()⟩ ∧ c ∈ w.conns := by
  obtain ⟨op, r⟩ := e
  cases op with
  | dropSocket c' =>
    by_cases hc : c' ∈ w.conns
    · rw [closes, if_pos hc] at h
      rw [List.mem_singleton.1 h]
      exact ⟨rfl, hc⟩
    · rw [closes, if_neg hc] at h
      cases h
  | _ => cases h

theorem inv_step_server {e : SysEvent} (hw : w.Inv peerCid peer g) (hs : w.stepServer peerCid peer e = some w') :
    w'.Inv peerCid peer (g ++ [.inl e]) := by
  have hsnd : senderPart (g ++ [.inl e]) = senderPart g ++ [e] := senderPart_append g _
  have hrcv : receiverPart (g ++ [.inl e]) = receiverPart g := by simp [receiverPart]
  unfold stepServer at hs
  split at hs
  · rename_i hn
    cases hs
    refine ⟨?_, hn, fun s => ?_, fun c hc => ?_⟩
    · rw [hsnd, accepted_append, ← hw.conns]
    · rw [hsnd, hrcv, writtenOn_append, ← List.append_assoc, hw.wire]
    · rw [hsnd]
      rcases List.mem_append.1 hc with hc | hc
      · obtain ⟨u, hu, hmem⟩ := hw.closed c hc
        exact ⟨u, hu.trans (List.prefix_append _ _), hmem⟩
      · obtain ⟨rfl, hmem⟩ := mem_closes hc
        exact ⟨senderPart g, List.prefix_refl _, hw.conns ▸ hmem⟩
  · cases hs

theorem inv_step_client {e : SysEvent} (hw : w.Inv peerCid peer g) (hs : w.stepClient peer orderly e = some w') :
    w'.Inv peerCid peer (g ++ [.inr e]) := by
  have hsnd : senderPart (g ++ [.inr e]) = senderPart g := by simp [senderPart]
  have hrcv : receiverPart (g ++ [.inr e]) = receiverPart g ++ [e] := receiverPart_append g _
  unfold stepClient at hs
  split at hs
  · rename_i hd
    cases hs
    refine ⟨?_, hw.nodup, fun s => ?_, fun c hc => ?_⟩
    · rw [hsnd, ← hw.conns]
    · obtain ⟨rest, hrest⟩ := readOn_of_delivers hd.1 s
      rw [hsnd, hrcv, readOn_append, List.append_assoc, ← hw.wire s]
      show _ ++ (_ ++ (w.wire s).drop _) = _
      rw [← hrest, List.drop_left]
    · rw [hsnd]
      exact hw.closed c hc
  · cases hs

theorem inv_step : ∀ {e : JointEvent}, w.Inv peerCid peer g → w.step peerCid peer orderly e = some w' →
    w'.Inv peerCid peer (g ++ [e])
  | .inl _, hw, hs => inv_step_server hw hs
  | .inr _, hw, hs => inv_step_client hw hs

theorem inv_run : ∀ {g' g : List JointEvent} {w w' : Link}, w.Inv peerCid peer g →
    w.run peerCid peer orderly g' = some w' → w'.Inv peerCid peer (g ++ g')
  | [], g, w, w', hw, hr => by
    cases hr
    rwa [List.append_nil]
  | e :: g', g, w, w', hw, hr => by
    obtain ⟨w₁, hs, hr⟩ := Option.bind_eq_some_iff.1 hr
    have hw' := inv_run (inv_step hw hs) hr
    rwa [List.append_assoc] at hw'

theorem inv_empty : empty.Inv peerCid peer [] := ⟨rfl, List.nodup_nil, fun _ => rfl, nofun⟩

/-- What the service and its client can rely on, at any moment of a joint run. -/
theorem run_spec (h : (empty.run peerCid peer orderly g).isSome) :
    (accepted peerCid (senderPart g)).Nodup ∧
      ∀ s, readOn s (receiverPart g) <+: writtenOn (peer s) (senderPart g) := by
  obtain ⟨w, hw⟩ := Option.isSome_iff_exists.1 h
  have hinv : w.Inv peerCid peer g := inv_run inv_empty hw
  exact ⟨hinv.conns ▸ hinv.nodup, fun s => ⟨_, hinv.wire s⟩⟩

/-- Where an orderly transport reports the end of a stream, everything was read, and the service had closed the
connection. -/
theorem run_orderly {s : Fd} {n : Nat} {x : ([] : Bytes).length ≤ n}
    (h : (empty.run peerCid peer true (g ++ .inr ⟨.read s n, .ok ⟨[], x⟩⟩ :: g')).isSome) :
    readOn s (receiverPart g) = writtenOn (peer s) (senderPart g) ∧
      ∃ u, u ++ [⟨.dropSocket (peer s), ()⟩] <+: senderPart g ∧ peer s ∈ accepted peerCid u := by
  obtain ⟨w, hw⟩ := Option.isSome_iff_exists.1 h
  unfold run at hw
  rw [List.foldlM_append] at hw
  obtain ⟨w₁, hw₁, hw⟩ := Option.bind_eq_some_iff.1 hw
  obtain ⟨w₂, hs, -⟩ := Option.bind_eq_some_iff.1 hw
  have hinv : w₁.Inv peerCid peer g := inv_run inv_empty hw₁
  have hend : peer s ∈ w₁.closed ∧ w₁.wire s = [] := by
    by_contra hne
    have hstep : w₁.stepClient peer true ⟨.read s n, .ok ⟨[], x⟩⟩ = none := if_neg fun hd => hne (hd.2 rfl rfl)
    rw [step, hstep] at hs
    cases hs
  have hwire := hinv.wire s
  rw [hend.2, List.append_nil] at hwire
  exact ⟨hwire, hinv.closed _ hend.1⟩

end Link
end Glycerine
