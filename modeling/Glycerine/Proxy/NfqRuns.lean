import Glycerine.Proxy.Nfq
import Glycerine.System.WorldRules
/-
# The sending worker against a connection that holds

However the sends split a payload, its bytes go out whole and in order, and the message gets its verdict after
them (`halts_forward`); so `pump` puts the payloads of the queue on the wire one after another
(`halts_pump`).
-/

namespace Glycerine
open Interact

namespace NfqToVsock
variable {o : Oracle}

theorem halts_sendLoop {dst : Fd} (payload : Bytes) {w : World} (hc : w.conn = .up dst) :
    ∃ k, Halts (World.answer o) (Task.loop (sendStep dst payload) 0) w (.done (.ok ()))
      { w with wire := w.wire ++ payload, sends := w.sends + k } := by
  refine halts_writeLoop payload (fun pos w hc hlt => ?_) (fun pos w hle => ?_) _ 0 w hc rfl
  · unfold sendStep
    rw [if_pos hlt]
    have hlen : 0 < (payload.drop pos).length := by
      rw [List.length_drop]
      omega
    exact Task.halts_andThen (Task.halts_mapErr_ok (halts_nonZero (if_pos hc) rfl (World.clamp_pos hlen)))
      Task.halts_ret
  · unfold sendStep
    rw [if_neg (Nat.not_lt.2 hle)]
    exact Task.halts_ret

theorem halts_forward {q dst : Fd} (m : Message) {w : World} (hc : w.conn = .up dst) (hq : w.nfq = some q) :
    ∃ k, Halts (World.answer o) (forward q dst m) w (.done (.ok ()))
      { w with
        wire := w.wire ++ m.payload, sends := w.sends + k,
        settled := w.settled ++ [(m.payload, .drop)] } := by
  obtain ⟨k, hsend⟩ := halts_sendLoop (o := o) m.payload hc
  refine ⟨k, ?_⟩
  unfold forward
  exact Task.halts_andThen hsend (Task.halts_mapErr_ok (Task.halts_call (if_pos hq) rfl))

/-- **`pump` forwards the whole queue**: when it waits for the next message, the payloads are on the wire,
whole and in order, and each has its verdict. -/
theorem halts_pump {q dst : Fd} : ∀ (ms : List Bytes) (w : World), w.conn = .up dst → w.nfq = some q →
    w.queue = ms →
      ∃ w', Halts (World.answer o) (pump q dst) w (.asks (.recv q)) w' ∧ w'.queue = [] ∧
        w'.wire = w.wire ++ ms.flatten ∧ w'.settled = w.settled ++ ms.map (·, .drop)
  | [], w, hc, hnfq, hq => by
    have hans : World.answer o w (.recv q) = none := by
      simp only [World.answer, if_pos hnfq, hq]
    refine ⟨w, Task.halts_loop_blocked ?_, hq, by simp, by simp⟩
    unfold pumpStep
    refine Task.halts_andThen (Task.halts_call rfl rfl) ?_
    exact Task.halts_andThen_blocked (Task.halts_attempt_blocked (Task.halts_call_blocked hans))
  | m :: ms, w, hc, hnfq, hq => by
    let w₁ : World := { w with queue := ms, received := w.received + 1 }
    obtain ⟨k, hfwd⟩ := halts_forward (o := o) ⟨w.received, m, .accept⟩ (w := w₁) hc hnfq
    obtain ⟨w', hrest, h₁, h₂, h₃⟩ := halts_pump ms
      { w₁ with wire := w₁.wire ++ m, sends := w₁.sends + k, settled := w₁.settled ++ [(m, .drop)] } hc hnfq rfl
    refine ⟨w', Task.halts_loop_next ?_ hrest, h₁, ?_, ?_⟩
    · have hans : World.answer o w (.recv q) = some (.ok ⟨w.received, m, .accept⟩, w₁) := by
        simp only [World.answer, if_pos hnfq, hq, w₁]
      have hrecv : Halts (World.answer o) (Queue.recv q) w
          (.done (.ok ⟨w.received, m, .accept⟩)) w₁ := Task.halts_call hans rfl
      unfold pumpStep
      refine Task.halts_andThen (Task.halts_call rfl rfl) ?_
      exact Task.halts_andThen (Task.halts_attempt_ok hrecv) (Task.halts_andThen hfwd Task.halts_ret)
    · rw [h₂, List.flatten_cons, List.append_assoc]
    · rw [h₃, List.map_cons, List.append_assoc]
      rfl

end NfqToVsock
end Glycerine
