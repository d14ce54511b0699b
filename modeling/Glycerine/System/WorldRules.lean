import Glycerine.System.World
/-
# Rules for a world that keeps its connections

`backoff::retry` returns what the first attempt that succeeds returns; vsock sockets are created, connected and
accepted at the first attempt; and a loop of partial writes puts all its bytes on the wire (`halts_writeLoop`).
-/

namespace Glycerine
open Interact

section
variable {o : Oracle} {w w₁ w' : World}

/-! ## `backoff::retry` -/

theorem halts_unlessCancelled_ok {α : Type} {op : Sys Error α} {a : α}
    (h : Halts (World.answer o) op w (.done (.ok a)) w') :
    Halts (World.answer o) (unlessCancelled op) w (.done (.ok a)) w' := by
  unfold unlessCancelled
  refine Task.halts_andThen (Task.halts_call rfl rfl) ?_
  rw [if_neg Bool.false_ne_true]
  exact Task.halts_mapErr_ok h

theorem halts_unlessCancelled_err {α : Type} {op : Sys Error α} {e : Error}
    (h : Halts (World.answer o) op w (.done (.err e)) w') :
    Halts (World.answer o) (unlessCancelled op) w (.done (.err (.transient e))) w' := by
  unfold unlessCancelled
  refine Task.halts_andThen (Task.halts_call rfl rfl) ?_
  rw [if_neg Bool.false_ne_true]
  exact Task.halts_mapErr_err h

theorem halts_retryLoop_ok {α : Type} {b : ExponentialBackoff} {op : Sys BackoffError α} {a : α} (start : Nat)
    (h : Halts (World.answer o) op w (.done (.ok a)) w') :
    Halts (World.answer o) (Task.loop (fun _ => retryStep b op start) ()) w (.done (.ok a)) w' := by
  refine Task.halts_loop_stop ?_
  unfold retryStep
  exact Task.halts_andThen (Task.halts_attempt_ok h) Task.halts_ret

/-- An attempt that fails is followed by the next one. -/
theorem halts_retryLoop_err {α : Type} {b : ExponentialBackoff} {op : Sys BackoffError α} {e : Error}
    {start : Nat} {s : Status sysSig (Outcome BackoffError α)}
    (h : Halts (World.answer o) op w (.done (.err (.transient e))) w₁)
    (hl : Halts (World.answer o) (Task.loop (fun _ => retryStep b op start) ()) w₁ s w') :
    Halts (World.answer o) (Task.loop (fun _ => retryStep b op start) ()) w s w' := by
  refine Task.halts_loop_next ?_ hl
  unfold retryStep
  refine Task.halts_andThen (Task.halts_attempt_err h) ?_
  refine Task.halts_andThen (Task.halts_call rfl rfl) ?_
  refine Task.halts_andThen (Task.halts_call rfl rfl) ?_
  exact Task.halts_andThen (Task.halts_call rfl rfl) Task.halts_ret

theorem halts_withBackoff {α : Type} {b : ExponentialBackoff} {op : Sys Error α} {a : α}
    (h : Halts (World.answer o) (Task.loop (fun _ => retryStep b (unlessCancelled op) 0) ()) w
      (.done (.ok a)) w') :
    Halts (World.answer o) (withBackoff b op) w (.done (.ok a)) w' := by
  unfold withBackoff retry
  exact Task.halts_mapErr_ok (Task.halts_andThen (Task.halts_call rfl rfl) h)

/-! ## vsock sockets -/

/-- The world after a vsock socket was created. -/
def World.withFd (w : World) : World := { w with nextFd := w.nextFd + 1 }

/-- The world after a vsock socket was created that is the connection: it was accepted, or connected. -/
def World.withConn (w : World) : World := { w with nextFd := w.nextFd + 1, conn := .up w.nextFd }

theorem halts_newListenerSocket (addr : SockAddr) (b : ExponentialBackoff) (w : World) :
    Halts (World.answer o) (Vsock.newListenerSocketWithBackoff addr b) w (.done (.ok w.nextFd)) w.withFd := by
  refine halts_withBackoff (halts_retryLoop_ok 0 (halts_unlessCancelled_ok ?_))
  unfold Vsock.newListenerSocket
  refine Task.halts_andThen (Task.halts_mapErr_ok (Task.halts_call rfl rfl)) ?_
  refine Task.halts_andThen (Task.halts_mapErr_ok (Task.halts_call rfl rfl)) ?_
  exact Task.halts_andThen (Task.halts_mapErr_ok (Task.halts_call rfl rfl)) Task.halts_ret

theorem halts_newClientSocketWithBackoff (addr : SockAddr) (b : ExponentialBackoff) (hw : w.conn = .waiting) :
    Halts (World.answer o) (Vsock.newClientSocketWithBackoff addr b) w (.done (.ok w.nextFd)) w.withConn := by
  have hans : World.answer o w.withFd (.connect w.nextFd addr) = some (.ok (), w.withConn) := if_pos hw
  refine halts_withBackoff (halts_retryLoop_ok 0 (halts_unlessCancelled_ok ?_))
  unfold Vsock.newClientSocket
  refine Task.halts_andThen (Task.halts_mapErr_ok (Task.halts_call rfl rfl)) ?_
  refine Task.halts_andThen (Task.halts_mapErr_ok (Task.halts_call hans rfl)) ?_
  exact Task.halts_andThen (Task.halts_mapErr_ok (Task.halts_call rfl rfl)) Task.halts_ret

/-- The peer is the expected one, so the first connection is accepted. -/
theorem halts_acceptConnectionWithBackoff {peerCid : Nat} (hcid : o.peerCid = peerCid) (listener : Fd)
    (b : ExponentialBackoff) (hw : w.conn = .waiting) :
    Halts (World.answer o) (Vsock.acceptConnectionWithBackoff listener peerCid b) w
      (.done (.ok (w.nextFd, .vsock o.peerCid 0))) w.withConn := by
  have hans : World.answer o w (.accept listener) = some (.ok (w.nextFd, .vsock o.peerCid 0), w.withConn) :=
    if_pos hw
  refine halts_withBackoff (halts_retryLoop_ok 0 (halts_unlessCancelled_ok ?_))
  unfold Vsock.acceptConnection
  refine Task.halts_andThen (Task.halts_mapErr_ok (Task.halts_call rfl rfl)) ?_
  refine Task.halts_andThen (Task.halts_mapErr_ok (Task.halts_call hans rfl)) ?_
  simp only [SockAddr.asVsockAddress, hcid, ne_eq, not_true_eq_false, if_false]
  exact Task.halts_ret

theorem halts_shutdown (s : Fd) (how : Shutdown) (w : World) :
    Halts (World.answer o) (Vsock.shutdown s how) w (.done (.ok ())) w := by
  unfold Vsock.shutdown
  refine Task.halts_andThen (Task.halts_mapErr_ok (Task.halts_call rfl rfl)) ?_
  exact Task.halts_mapErr_ok (Task.halts_call rfl rfl)

/-! ## Partial writes -/

/-- The world after a write that was offered `bs`. -/
def World.sent (o : Oracle) (w : World) (bs : Bytes) : World :=
  { w with wire := w.wire ++ bs.take (World.clamp (o.accepted w.sends) bs.length), sends := w.sends + 1 }

theorem halts_nonZero {msg : String} {op : SysOp} {k : op.Res → Outcome IoError Nat} {r : op.Res} {n : Nat}
    (h : World.answer o w op = some (r, w')) (hk : k r = .ok n) (hn : 0 < n) :
    Halts (World.answer o) (nonZero msg (Task.call op k)) w (.done (.ok n)) w' := by
  unfold nonZero
  refine Task.halts_andThen (Task.halts_call h hk) ?_
  rw [if_pos hn]
  exact Task.halts_ret

/-- The writes from offset `pos` on, if each is offered what is left: the induction is on the number of bytes that
are left. -/
theorem halts_writeLoop {c : Fd} (bs : Bytes) {body : Nat → Sys Error (Ctl Nat Unit)}
    (hnext : ∀ pos w, w.conn = .up c → pos < bs.length → Halts (World.answer o) (body pos) w
      (.done (.ok (.next (pos + World.clamp (o.accepted w.sends) (bs.drop pos).length))))
      (w.sent o (bs.drop pos)))
    (hstop : ∀ pos w, bs.length ≤ pos → Halts (World.answer o) (body pos) w (.done (.ok (.stop ()))) w) :
    ∀ (n pos : Nat) (w : World), w.conn = .up c → bs.length - pos = n →
      ∃ k, Halts (World.answer o) (Task.loop body pos) w (.done (.ok ()))
        { w with wire := w.wire ++ bs.drop pos, sends := w.sends + k } := by
  intro n
  induction n using Nat.strongRecOn with
  | ind n ih =>
    intro pos w hc hn
    by_cases hlt : pos < bs.length
    · have hbody := hnext pos w hc hlt
      unfold World.sent at hbody
      have hlen : 0 < (bs.drop pos).length := by
        rw [List.length_drop]
        omega
      have hk := World.clamp_pos (k := o.accepted w.sends) hlen
      generalize World.clamp (o.accepted w.sends) (bs.drop pos).length = k at hbody hk
      obtain ⟨m, hrest⟩ := ih (bs.length - (pos + k)) (by omega) (pos + k)
        { w with wire := w.wire ++ (bs.drop pos).take k, sends := w.sends + 1 } hc rfl
      have hwire : w.wire ++ (bs.drop pos).take k ++ bs.drop (pos + k) = w.wire ++ bs.drop pos := by
        rw [List.append_assoc, ← List.drop_drop, List.take_append_drop]
      simp only [hwire] at hrest
      rw [show w.sends + 1 + m = w.sends + (m + 1) by omega] at hrest
      exact ⟨m + 1, Task.halts_loop_next hbody hrest⟩
    · refine ⟨0, Task.halts_loop_stop ?_⟩
      rw [List.drop_of_length_le (Nat.le_of_not_lt hlt), List.append_nil]
      exact hstop pos w (Nat.le_of_not_lt hlt)

end
end Glycerine
