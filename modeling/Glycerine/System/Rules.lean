import Glycerine.System.Vsock
/-
# Rules for the operations that every worker uses

`RetryStep` is `backoff::retry` around an operation as a state machine, and `triple_withBackoff` the rule for
programs that contain it: a family of assertions, one for each phase, that the steps preserve, and that the
operation itself takes from `running` to a result or to `failed`.
-/

namespace Glycerine
open Interact

variable {E : Env sysSig} {I P : History → Prop} {α : Type}

/-- Where `retry` is; the operation that is retried does its work in `running`. -/
inductive RetryPhase where
  | begin
  | attempt (start : Nat)
  | running (start : Nat)
  | failed (start : Nat) (e : Error)
  | asking (start t : Nat) (e : Error)
  | sleeping (start d : Nat)
  | gaveUp (e : Error)

inductive RetryStep (b : ExponentialBackoff) : RetryPhase → SysEvent → RetryPhase → Prop where
  | start {t} : RetryStep b .begin ⟨.now, t⟩ (.attempt t)
  | attempt {start} : RetryStep b (.attempt start) ⟨.isCancelled, false⟩ (.running start)
  | cancelled {start} : RetryStep b (.attempt start) ⟨.isCancelled, true⟩ (.gaveUp .glycerineShutdown)
  | clock {start t e} : RetryStep b (.failed start e) ⟨.now, t⟩ (.asking start t e)
  | again {start t e d} : RetryStep b (.asking start t e) ⟨.nextBackoff b (t - start), some d⟩ (.sleeping start d)
  | giveUp {start t e} : RetryStep b (.asking start t e) ⟨.nextBackoff b (t - start), none⟩ (.gaveUp e)
  | sleep {start d} : RetryStep b (.sleeping start d) ⟨.sleep d, ()⟩ (.attempt start)

/-- `retry` has returned an error. -/
def RetryPhase.Ended : RetryPhase → Prop
  | .gaveUp _ => True
  | _ => False

theorem RetryStep.not_ended {b : ExponentialBackoff} {p p' : RetryPhase} {e : SysEvent}
    (hs : RetryStep b p e p') :
    ¬ p.Ended := by
  cases hs <;> exact not_false

/-- The operation that is retried fails with errors in `A` only. -/
def RetryPhase.Errors (A : Error → Prop) : RetryPhase → Prop
  | .failed _ e | .asking _ _ e | .gaveUp e => A e
  | _ => True

theorem RetryStep.errors {b : ExponentialBackoff} {A : Error → Prop} {p p' : RetryPhase} {e : SysEvent}
    (hs : RetryStep b p e p') (hA : A .glycerineShutdown) (hp : p.Errors A) : p'.Errors A := by
  cases hs with
  | cancelled => exact hA
  | clock | giveUp => exact hp
  | start | attempt | again | sleep => trivial

theorem triple_nonZero {msg : String} {p : Sys IoError Nat} {Q : Outcome IoError Nat → History → Prop}
    (hp : Triple E I P p (Outcome.post
      (fun n h => if n > 0 then Q (.ok n) h else Q (.err (.custom .writeZero msg)) h)
      (fun e => Q (.err e)) (Q .panic))) : Triple E I P (nonZero msg p) Q := by
  refine Task.triple_seq _ hp fun n => ?_
  by_cases hn : n > 0
  · simp only [if_pos hn]
    exact Task.triple_ret fun _ h _ => h
  · simp only [if_neg hn]
    exact Task.triple_fail fun _ h _ => h

section
variable {b : ExponentialBackoff} {J : RetryPhase → History → Prop}

theorem triple_unlessCancelled {op : Sys Error α} {start : Nat} {Q : Outcome BackoffError α → History → Prop}
    (hI : ∀ p, ¬ p.Ended → ∀ h, J p h → E.ok h → I h)
    (hJ : ∀ {p e p' h}, RetryStep b p e p' → J p h → E.ok (h ++ [e]) → J p' (h ++ [e]))
    (hop : Triple E I (J (.running start)) op fun o h => Q (o.mapErr .transient) h)
    (hgave : ∀ e h, J (.gaveUp e) h → Q (.err (.permanent e)) h) :
    Triple E I (J (.attempt start)) (unlessCancelled op) Q := by
  refine Task.triple_seq (fun c => J (if c then .gaveUp .glycerineShutdown else .running start))
    (Task.triple_call (hI _ nofun) fun h c hj hE => ?_) (fun c => ?_)
  · cases c with
    | true => exact hJ .cancelled hj hE
    | false => exact hJ .attempt hj hE
  · cases c with
    | true => exact Task.triple_fail fun h hj _ => hgave _ h hj
    | false => exact Task.triple_mapErr hop

/-- Where a round of `retry` is when the operation has answered. -/
def Retried (J : RetryPhase → History → Prop) (Q : Outcome BackoffError α → History → Prop) (start : Nat) :
    Except BackoffError α → History → Prop
  | .ok a => Q (.ok a)
  | .error (.permanent e) => Q (.err (.permanent e))
  | .error (.transient e) => J (.failed start e)

/-- One round of `retry`. -/
theorem triple_retryStep {op : Sys BackoffError α} {start : Nat} {Q : Outcome BackoffError α → History → Prop}
    (hI : ∀ p, ¬ p.Ended → ∀ h, J p h → E.ok h → I h)
    (hJ : ∀ {p e p' h}, RetryStep b p e p' → J p h → E.ok (h ++ [e]) → J p' (h ++ [e]))
    (hop : Triple E I (J (.attempt start)) op (Outcome.post (fun a => Q (.ok a))
      (fun e => match e with
        | .permanent e => Q (.err (.permanent e))
        | .transient e => J (.failed start e)) (Q .panic)))
    (hgave : ∀ e h, J (.gaveUp e) h → Q (.err (.transient e)) h) :
    Triple E I (J (.attempt start)) (retryStep b op start)
      (Outcome.post (Ctl.post (fun _ => J (.attempt start)) fun a => Q (.ok a)) (fun e => Q (.err e))
        (Q .panic)) := by
  refine Task.triple_seq (Retried J Q start) (Task.triple_attempt (hop.post fun o h hq => ?_)) (fun r => ?_)
  · cases o with
    | ok _ => exact hq
    | err e => cases e <;> exact hq
    | panic => exact hq
  cases r with
  | ok a => exact Task.triple_ret fun _ h _ => h
  | error e =>
    cases e with
    | permanent e => exact Task.triple_fail fun _ h _ => h
    | transient e =>
      refine Task.triple_seq (fun t => J (.asking start t e))
        (Task.triple_call (hI _ nofun) fun h _ hj hE => hJ .clock hj hE) fun t => ?_
      refine Task.triple_seq (fun d => J (d.elim (.gaveUp e) (.sleeping start)))
        (Task.triple_call (hI _ nofun) fun h d hj hE => ?_) fun d => ?_
      · cases d with
        | some d => exact hJ .again hj hE
        | none => exact hJ .giveUp hj hE
      · cases d with
        | some d =>
          exact Task.triple_seq (fun _ => J (.attempt start))
            (Task.triple_call (hI _ nofun) fun h _ hj hE => hJ .sleep hj hE) fun _ =>
            Task.triple_ret fun h hj _ => hj
        | none => exact Task.triple_fail fun h hj _ => hgave _ h hj

/-- `backoff::retry` around an operation. -/
theorem triple_withBackoff {op : Sys Error α} {Q : Outcome Error α → History → Prop}
    (hI : ∀ p, ¬ p.Ended → ∀ h, J p h → E.ok h → I h)
    (hJ : ∀ {p e p' h}, RetryStep b p e p' → J p h → E.ok (h ++ [e]) → J p' (h ++ [e]))
    (hop : ∀ start, Triple E I (J (.running start)) op
      (Outcome.post (fun a => Q (.ok a)) (fun e => J (.failed start e)) (Q .panic)))
    (hgave : ∀ e h, J (.gaveUp e) h → Q (.err e) h) :
    Triple E I (J .begin) (withBackoff b op) Q := by
  refine Task.triple_mapErr (Task.triple_seq (fun start => J (.attempt start))
    (Task.triple_call (hI _ nofun) fun h _ hj hE => hJ .start hj hE) fun start => ?_)
  refine Task.triple_loop (J := fun _ => J (.attempt start)) (fun _ => ?_) ()
  refine triple_retryStep (Q := fun o h => Q (o.mapErr unwrapBackoff) h) hI hJ ?_ hgave
  refine triple_unlessCancelled hI hJ ((hop start).post fun o h hq => ?_) hgave
  match o with
  | .ok _ => exact hq
  | .err _ => exact hq
  | .panic => exact hq

end

end Glycerine
