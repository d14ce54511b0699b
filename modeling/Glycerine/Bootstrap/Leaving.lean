import Glycerine.Bootstrap.Get
import Glycerine.Services.Reactive
/-
# `get` returns after the shutdown

Wherever the shutdown is raised, `get` performs at most eight more operations (`get_length_le`): it may be about to
connect, and then it prepares the connection before it looks at the token again, or it may be about to read. It waits
for nothing else, so it returns.
-/

namespace Glycerine
open Interact
open Interact.Outcome (ofExcept_ne_panic)

/-- How many operations of `get` are left where it is retried; what follows the connecting counts too. -/
def RetryPhase.left : RetryPhase → Nat
  | .begin | .sleeping _ _ => 2
  | .attempt _ => 1
  | .running _ => 8
  | .failed _ _ => 4
  | .asking _ _ _ => 3
  | .gaveUp _ => 0

namespace Bootstrap

section
variable {u h : History} {e : SysEvent} {α ε : Type} {n : Nat}

/-- The shutdown is raised after `u`: no later look at the token finds it not cancelled. -/
def raisedAfter (u : History) : Env sysSig where
  ok h := ∀ v, h = u ++ v → ⟨.isCancelled, false⟩ ∉ v
  ok_of_append := by
    rintro h t hok v rfl hmem
    exact hok (v ++ t) (List.append_assoc ..) (List.mem_append_left t hmem)

/-- At most `n` are left of the eight operations after `u`. -/
def Left (u : History) (n : Nat) (h : History) : Prop := ∀ v, h = u ++ v → v.length + n ≤ 8

abbrev Leaving (u : History) (P : History → Prop) (p : Sys ε α) (Q : Outcome ε α → History → Prop) : Prop :=
  Triple (raisedAfter u) (Left u 0) P p Q

theorem Left.mono {m : Nat} (hl : Left u n h) (hle : m ≤ n) : Left u m h :=
  fun v hv => Nat.le_trans (Nat.add_le_add_left hle _) (hl v hv)

/-- An event is after `u`, or it is the last one of `u` at most. -/
theorem append_singleton_cases {v : History} (hv : h ++ [e] = u ++ v) : v = [] ∨ ∃ v', h = u ++ v' ∧ v = v' ++ [e] := by
  rcases List.eq_nil_or_concat v with rfl | ⟨v, x, rfl⟩
  · exact .inl rfl
  · rw [List.concat_eq_append, ← List.append_assoc] at hv
    obtain ⟨hu, hx⟩ := List.append_inj' hv rfl
    cases hx
    exact .inr ⟨v, hu, List.concat_eq_append⟩

theorem Left.snoc (hl : Left u (n + 1) h) (hn : n ≤ 8) : Left u n (h ++ [e]) := by
  intro v hv
  obtain rfl | ⟨v, hu, rfl⟩ := append_singleton_cases hv
  · simpa using hn
  · have hle := hl v hu
    rw [List.length_append, List.length_singleton]
    omega

/-- The token is not found not cancelled after `u`. -/
theorem left_of_notCancelled (hE : (raisedAfter u).ok (h ++ [⟨.isCancelled, false⟩])) (hn : n ≤ 8) :
    Left u n (h ++ [⟨.isCancelled, false⟩]) := by
  intro v hv
  obtain rfl | ⟨v, -, rfl⟩ := append_singleton_cases hv
  · simpa using hn
  · exact absurd (by simp) (hE _ hv)

/-! ## One operation after the other -/

theorem triple_left {op : SysOp} {k : op.Res → Outcome ε α} {Q : Outcome ε α → History → Prop} (hn : n ≤ 8)
    (hQ : ∀ a h, Left u n h → Q (k a) h) : Leaving u (Left u (n + 1)) (Task.call op k) Q :=
  Task.triple_call (fun _ hl _ => hl.mono (Nat.zero_le _)) fun _ a hl _ => hQ a _ (hl.snoc hn)

/-- A part of `get` leaves `n` operations, and if it fails `m`. -/
abbrev Leaves (u : History) (m n : Nat) : Outcome ε α → History → Prop :=
  Outcome.post (fun _ => Left u n) (fun _ => Left u m) fun _ => False

/-- An operation on a socket. -/
theorem triple_spend {m : Nat} {op : SysOp} {k : op.Res → Outcome IoError α} (hn : n ≤ 8) (hm : m ≤ n)
    (hk : ∀ a, k a ≠ .panic) :
    Leaving u (Left u (n + 1)) (Task.mapErr Error.ioVsock (Task.call op k)) (Leaves u m n) := by
  refine Task.triple_mapErr (triple_left hn fun a h hl => ?_)
  cases hka : k a with
  | ok x => exact hl
  | err e => exact hl.mono hm
  | panic => exact absurd hka (hk a)

theorem left_step {b : ExponentialBackoff} {p p' : RetryPhase} (hs : RetryStep b p e p') (hl : Left u p.left h)
    (hE : (raisedAfter u).ok (h ++ [e])) : Left u p'.left (h ++ [e]) := by
  cases hs with
  | attempt => exact left_of_notCancelled hE (Nat.le_refl 8)
  | giveUp => exact (Left.snoc (n := 2) hl (by decide)).mono (Nat.zero_le _)
  | start | cancelled | clock | again | sleep => exact Left.snoc hl (Nat.le_of_ble_eq_true rfl)

/-- Connecting fails within the three operations, and then there is time to look at the token. -/
theorem triple_connecting {addr : SockAddr} {b : ExponentialBackoff} :
    Leaving u (Left u 2) (Vsock.newClientSocketWithBackoff addr b) (Leaves u 0 5) := by
  refine triple_withBackoff (J := fun p => Left u p.left) (fun _ _ h hl _ => hl.mono (Nat.zero_le _)) left_step
    (fun start => ?_) fun _ _ hl => hl
  refine Task.triple_seq (fun _ => Left u 7)
    (triple_spend (m := 4) (by decide) (by decide) ofExcept_ne_panic) fun s => ?_
  refine Task.triple_seq (fun _ => Left u 6)
    (triple_spend (m := 4) (by decide) (by decide) ofExcept_ne_panic) fun _ => ?_
  refine Task.triple_seq (fun _ => Left u 5)
    (triple_spend (m := 4) (by decide) (by decide) ofExcept_ne_panic) fun _ => ?_
  exact Task.triple_ret fun _ hl _ => hl

/-- One round of the loop: it looks at the token before it reads. -/
theorem triple_round {s : Fd} {buf : RecvBuffer} :
    Leaving u (Left u 1) (receiveStep s buf) (Outcome.post (Ctl.post (fun _ => Left u 1) fun _ => Left u 0)
      (fun _ => Left u 0) fun _ => False) := by
  refine Task.triple_seq (fun stop => Left u (if stop then 0 else 8))
    (Task.triple_call (fun _ hl _ => hl.mono (Nat.zero_le _)) fun h stop hl hE => ?_) fun stop => ?_
  · cases stop with
    | true => exact hl.snoc (Nat.zero_le _)
    | false => exact left_of_notCancelled hE (Nat.le_refl 8)
  cases stop with
  | true => exact Task.triple_ret fun _ hl _ => hl
  | false =>
    refine Task.triple_seq (fun _ => Left u 8) (Task.triple_ofExcept fun h hl _ => ?_) fun buf => ?_
    · cases buf.room with
      | ok _ => exact hl
      | error _ => exact hl.mono (Nat.zero_le _)
    refine Task.triple_seq (fun _ => Left u 7) (triple_spend (by decide) (by decide) ofExcept_ne_panic) fun bs => ?_
    split
    · exact Task.triple_ret fun _ hl _ => hl.mono (Nat.zero_le _)
    · exact Task.triple_ret fun _ hl _ => hl.mono (by decide)

theorem triple_leaves {fromSlice : Bytes → Option Record} {addr : SockAddr} {b : ExponentialBackoff} :
    Leaving u (Left u 2) (get fromSlice addr b) (Leaves u 0 0) := by
  refine Task.triple_seq (fun _ => Left u 5) triple_connecting fun s => ?_
  refine Task.triple_seq (fun _ => Left u 3) (Task.triple_seq (fun _ => Left u 4)
    (triple_spend (by decide) (by decide) ofExcept_ne_panic) fun _ =>
      triple_spend (by decide) (by decide) ofExcept_ne_panic) fun _ => ?_
  refine Task.triple_seq (fun _ => Left u 2) (triple_spend (by decide) (by decide) ofExcept_ne_panic) fun _ => ?_
  refine Task.triple_seq (fun _ => Left u 1) (triple_spend (by decide) (by decide) ofExcept_ne_panic) fun _ => ?_
  refine Task.triple_seq (fun _ => Left u 0) (Task.triple_loop (Q := Leaves u 0 0) (fun _ => triple_round) _)
    fun bs => ?_
  split
  · exact Task.triple_ret fun _ hl _ => hl
  · exact Task.triple_fail fun _ hl _ => hl

end

/-- **After the shutdown `get` is nearly done.** -/
theorem get_length_le {fromSlice : Bytes → Option Record} {addr : SockAddr} {b : ExponentialBackoff} {u v : History}
    {o : Status sysSig (Outcome Error Record)} (hx : Exec (get fromSlice addr b) (u ++ v) o)
    (hc : ⟨.isCancelled, false⟩ ∉ v) : v.length ≤ 8 := by
  have hstart : Left u 2 [] := by
    intro v hv
    obtain ⟨-, rfl⟩ := List.append_eq_nil_iff.1 hv.symm
    decide
  refine (triple_leaves (u := u)).always hstart (fun r h hl => ?_) hx (fun v' hv => ?_) v rfl
  · cases r with
    | ok _ => exact hl
    | err _ => exact hl
    | panic => exact hl.elim
  · rwa [← List.append_cancel_left hv]

end Bootstrap
end Glycerine
