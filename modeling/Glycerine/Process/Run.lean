import Mathlib.Data.List.Forall2
import Glycerine.Interact.Drive
import Glycerine.Interact.Joint
import Glycerine.Process.Threads
/-
# Runs of a process

A run is an interleaving of what the threads do. They share the token, and the main thread sees the ends of the
services. A service runs from where it is spawned; what the threads do after `main` has returned is not excluded.
-/

namespace Glycerine
open Interact

inductive Thread where
  | main | signal
  | service (s : Service)
deriving DecidableEq, Repr

abbrev ProcTrace := JointTrace Thread procSig

/-! ## What the threads share -/

def isCancel : ProcEvent → Bool
  | ⟨.cancel, _⟩ => true
  | _ => false

/-- The token after a joint history. -/
def cancelled (g : ProcTrace) : Bool := g.any fun x => isCancel x.2

abbrev Spawned (s : Service) (w : Worker) (g : ProcTrace) : Prop := (.main, ⟨.spawnBlocking s w, ()⟩) ∈ g

/-- The service has returned `r`. -/
def Ended (g : ProcTrace) (s : Service) (r : Outcome Error Unit) : Prop :=
  ∃ w, Spawned s w g ∧ Exec (service w) (part (.service s) g) (.done r)

def Running (g : ProcTrace) : Thread → Prop
  | .service s => ∃ w, Spawned s w g
  | _ => True

/-- An answer that depends on what other threads have done. -/
def Shares (g : ProcTrace) : ProcEvent → Prop
  | ⟨.sys .isCancelled, b⟩ => b = cancelled g
  | ⟨.select _, none⟩ => cancelled g = true
  | ⟨.select tasks, some rs⟩ | ⟨.timeout _ tasks, some rs⟩ => List.Forall₂ (Ended g) tasks rs
  | _ => True

def Permits (g : ProcTrace) (x : Thread × ProcEvent) : Prop := Running g x.1 ∧ Shares g x.2

/-- A run of the process up to some moment. -/
structure ProcessRun (run : Proc Error (List Service)) (g : ProcTrace) : Prop where
  main : ∃ o, Exec (Glycerine.main run) (part .main g) o
  signal : ∃ o, Exec waitForShutdownSignal (part .signal g) o
  services : ∀ s w, Spawned s w g → ∃ o, Exec (service w) (part (.service s) g) o
  shared : Always Permits g

/-- Enough for `Permits` as long as the main thread has not seen the services end, and computed. -/
def permitted (g : ProcTrace) (x : Thread × ProcEvent) : Bool :=
  (match x.1 with
    | .service s => g.any fun
      | (.main, ⟨.spawnBlocking s' _, _⟩) => s' = s
      | _ => false
    | _ => true) &&
  match x.2 with
    | ⟨.sys .isCancelled, b⟩ => b = cancelled g
    | ⟨.select _, none⟩ => cancelled g
    | ⟨.select _, some _⟩ | ⟨.timeout _ _, some _⟩ => false
    | _ => true

theorem permits_of_permitted {g : ProcTrace} {x : Thread × ProcEvent} (h : permitted g x = true) : Permits g x := by
  obtain ⟨i, e⟩ := x
  obtain ⟨hi, he⟩ := Bool.and_eq_true_iff.1 h
  constructor
  · cases i with
    | service s =>
      obtain ⟨y, hy, hs⟩ := List.any_eq_true.1 hi
      split at hs
      · cases of_decide_eq_true hs
        exact ⟨_, hy⟩
      · cases hs
    | _ => trivial
  · dsimp only at he
    unfold Shares
    split at he
    · exact of_decide_eq_true he
    · exact he
    · cases he
    · cases he
    · trivial

theorem always_of_permitted {g : ProcTrace} (h : Always (fun u x => permitted u x = true) g) : Always Permits g :=
  h.mono fun _ _ => permits_of_permitted

/-! ## Histories -/

section
variable {h : History} {t t' : Trace procSig} {g u v : ProcTrace}

@[simp] theorem sysPart_append : sysPart (t ++ t') = sysPart t ++ sysPart t' := List.flatMap_append
@[simp] theorem kernelPart_append : kernelPart (t ++ t') = kernelPart t ++ kernelPart t' := List.flatMap_append

@[simp] theorem sysPart_map : sysPart (h.map sysOps.event) = h := by
  induction h with
  | nil => rfl
  | cons e h ih => exact congrArg (e :: ·) ih

@[simp] theorem kernelPart_map {h : SetupHistory} : kernelPart (h.map kernelOps.event) = h := by
  induction h with
  | nil => rfl
  | cons e h ih => exact congrArg (e :: ·) ih

@[simp] theorem kernelPart_sys : kernelPart (h.map sysOps.event) = [] := by
  induction h with
  | nil => rfl
  | cons e h ih => exact ih

@[simp] theorem sysPart_kernel {h : SetupHistory} : sysPart (h.map kernelOps.event) = [] := by
  induction h with
  | nil => rfl
  | cons e h ih => exact ih

theorem mem_of_mem_sysPart {e : SysEvent} (he : e ∈ sysPart t) : sysOps.event e ∈ t := by
  obtain ⟨x, hx, hmem⟩ := List.mem_flatMap.1 he
  split at hmem
  · obtain rfl := List.mem_singleton.1 hmem
    exact hx
  · cases hmem

theorem mem_sysPart {op : SysOp} {r : op.Res} (he : ⟨.sys op, r⟩ ∈ t) : ⟨op, r⟩ ∈ sysPart t :=
  List.mem_flatMap.2 ⟨_, he, by simp⟩

theorem cancelled_append : cancelled (u ++ v) = (cancelled u || cancelled v) := List.any_append

theorem cancelled_iff : cancelled g = true ↔ ∃ t, (t, (⟨.cancel, ()⟩ : ProcEvent)) ∈ g := by
  unfold cancelled
  rw [List.any_eq_true]
  constructor
  · rintro ⟨⟨t, op, r⟩, hmem, hx⟩
    cases op with
    | cancel => exact ⟨t, hmem⟩
    | _ => cases hx
  · rintro ⟨t, hmem⟩
    exact ⟨_, hmem, rfl⟩

/-- What was a run is one up to any earlier moment. -/
theorem ProcessRun.left {run : Proc Error (List Service)} (hrun : ProcessRun run (u ++ v)) : ProcessRun run u := by
  obtain ⟨o, hmain⟩ := hrun.main
  obtain ⟨os, hsignal⟩ := hrun.signal
  rw [part_append] at hmain hsignal
  refine ⟨exec_append hmain, exec_append hsignal, fun s w hsp => ?_, hrun.shared.left⟩
  obtain ⟨o, hx⟩ := hrun.services s w (List.mem_append_left _ hsp)
  rw [part_append] at hx
  exact exec_append hx

/-- A token that is cancelled stays so. -/
theorem look_of_cancelled (hs : Always Permits (u ++ v)) (hc : cancelled u = true) {t : Thread} {b : Bool}
    (hmem : (t, (⟨.sys .isCancelled, b⟩ : ProcEvent)) ∈ v) : b = true := by
  obtain ⟨v₁, v₂, rfl⟩ := List.append_of_mem hmem
  have hshared := (hs (u ++ v₁) (t, ⟨.sys .isCancelled, b⟩) v₂ (by simp)).2
  have hb : b = cancelled (u ++ v₁) := hshared
  rw [hb, cancelled_append, hc, Bool.true_or]

/-- A token that is not cancelled is found so. -/
theorem look_of_not_cancelled (hs : Always Permits g) (hc : cancelled g = false) {t : Thread} {b : Bool}
    (hmem : (t, (⟨.sys .isCancelled, b⟩ : ProcEvent)) ∈ g) : b = false := by
  obtain ⟨g₁, g₂, rfl⟩ := List.append_of_mem hmem
  have hb : b = cancelled g₁ := (hs g₁ _ g₂ rfl).2
  rw [cancelled_append, Bool.or_eq_false_iff] at hc
  rw [hb, hc.1]

end

/-! ## What each thread does -/

section
variable {run : Proc Error (List Service)} {w : Worker} {t : Trace procSig}

/-- A service does what its worker does, and cancels the token if that fails. -/
theorem exec_service {o : Status procSig (Outcome Error Unit)} (hx : Exec (service w) t o) :
    ∃ h o', Exec w.run h o' ∧
      ((t = h.map sysOps.event ∧ ∀ r, o = .done r → o' = .done r ∧ ∀ e, r ≠ .err e) ∨
        ∃ e, o' = .done (.err e) ∧ t = h.map sysOps.event ++ [⟨.cancel, ()⟩] ∧ o = .done (.err e)) := by
  obtain ⟨op, rfl, hp⟩ | ⟨rfl, hp⟩ | ⟨r, t₁, t₂, rfl, hp, hf⟩ := Task.exec_attempt hx
  · obtain ⟨h, o', rfl, -, hw⟩ := exec_embed.1 hp
    exact ⟨h, o', hw, .inl ⟨rfl, fun r hr => nomatch hr⟩⟩
  · obtain ⟨h, rfl, hw⟩ := exec_embed_done.1 hp
    refine ⟨h, _, hw, .inl ⟨rfl, fun r hr => ?_⟩⟩
    cases hr
    exact ⟨rfl, nofun⟩
  obtain ⟨h, rfl, hw⟩ := exec_embed_done.1 hp
  refine ⟨h, _, hw, ?_⟩
  cases r with
  | ok _ =>
    obtain ⟨rfl, rfl⟩ := Task.exec_ret hf
    refine .inl ⟨List.append_nil _, fun r hr => ?_⟩
    cases hr
    exact ⟨rfl, nofun⟩
  | error e =>
    obtain ⟨op, rfl, hc⟩ | ⟨r, t₃, t₄, rfl, hc, hd⟩ := exec_bind.1 hf
    · obtain ⟨rfl, -⟩ | ⟨_, -, ho⟩ := exec_call.1 hc
      · exact .inl ⟨List.append_nil _, fun r hr => nomatch hr⟩
      · cases ho
    · obtain ⟨-, ho⟩ | ⟨_, rfl, hr⟩ := exec_call.1 hc
      · cases ho
      · cases hr
        obtain ⟨rfl, rfl⟩ := Task.exec_fail hd
        exact .inr ⟨e, rfl, rfl, rfl⟩

/-- The main thread is in `run`, or `run` has failed, or the tasks are supervised. -/
theorem exec_main {o : Status procSig (Outcome Error Nat)} (hx : Exec (main run) t o) :
    (∃ op, o = .asks op ∧ Exec run t (.asks op)) ∨ (o = .done .panic ∧ Exec run t (.done .panic)) ∨
      (∃ e, o = .done (.ok (failureExitCode e)) ∧ Exec run t (.done (.err e))) ∨
      ∃ tasks t₁ t₂, t = t₁ ++ t₂ ∧ Exec run t₁ (.done (.ok tasks)) ∧ Exec (supervise tasks) t₂ o := by
  obtain ⟨op, rfl, hp⟩ | ⟨rfl, hp⟩ | ⟨r, t₁, t₂, rfl, hp, hf⟩ := Task.exec_attempt hx
  · exact .inl ⟨op, rfl, hp⟩
  · exact .inr (.inl ⟨rfl, hp⟩)
  cases r with
  | ok tasks => exact .inr (.inr (.inr ⟨tasks, t₁, t₂, rfl, hp, hf⟩))
  | error e =>
    obtain ⟨rfl, rfl⟩ := Task.exec_ret hf
    exact .inr (.inr (.inl ⟨e, rfl, (List.append_nil t₁).symm ▸ hp⟩))

/-- How far `supervise` is. -/
theorem exec_supervise {tasks : List Service} {o : Status procSig (Outcome Error Nat)}
    (hx : Exec (supervise tasks) t o) :
    (t = [] ∧ o = .asks (.select tasks)) ∨
      (∃ rs, t = [⟨.select tasks, some rs⟩] ∧ o = .asks .cancel) ∨
      (∃ rs, t = [⟨.select tasks, some rs⟩, ⟨.cancel, ()⟩] ∧ o = .done (.ok 0)) ∨
      (t = [⟨.select tasks, none⟩] ∧ o = .asks (.timeout 5000 tasks)) ∨
      (t = [⟨.select tasks, none⟩, ⟨.timeout 5000 tasks, none⟩] ∧ o = .done (.ok 1)) ∨
      ∃ rs, t = [⟨.select tasks, none⟩, ⟨.timeout 5000 tasks, some rs⟩] ∧ o = .done (.ok 0) := by
  obtain ⟨op, rfl, hp⟩ | ⟨r, t₁, t₂, rfl, hp, hf⟩ := exec_bind.1 hx
  · obtain ⟨rfl, ho⟩ | ⟨_, -, ho⟩ := exec_call.1 hp
    · cases ho
      exact .inl ⟨rfl, rfl⟩
    · cases ho
  obtain ⟨-, ho⟩ | ⟨rs, rfl, hr⟩ := exec_call.1 hp
  · cases ho
  cases hr
  cases rs with
  | some rs =>
    obtain ⟨op, rfl, hc⟩ | ⟨r, t₃, t₄, rfl, hc, hd⟩ := exec_bind.1 hf
    · obtain ⟨rfl, ho⟩ | ⟨_, -, ho⟩ := exec_call.1 hc
      · cases ho
        exact .inr (.inl ⟨rs, rfl, rfl⟩)
      · cases ho
    · obtain ⟨-, ho⟩ | ⟨_, rfl, hr⟩ := exec_call.1 hc
      · cases ho
      · cases hr
        obtain ⟨rfl, rfl⟩ := Task.exec_ret hd
        exact .inr (.inr (.inl ⟨rs, rfl, rfl⟩))
  | none =>
    obtain ⟨op, rfl, hc⟩ | ⟨r, t₃, t₄, rfl, hc, hd⟩ := exec_bind.1 hf
    · obtain ⟨rfl, ho⟩ | ⟨_, -, ho⟩ := exec_call.1 hc
      · cases ho
        exact .inr (.inr (.inr (.inl ⟨rfl, rfl⟩)))
      · cases ho
    · obtain ⟨-, ho⟩ | ⟨rs, rfl, hr⟩ := exec_call.1 hc
      · cases ho
      · cases hr
        cases rs with
        | none =>
          obtain ⟨rfl, rfl⟩ := Task.exec_ret hd
          exact .inr (.inr (.inr (.inr (.inl ⟨rfl, rfl⟩))))
        | some rs =>
          obtain ⟨rfl, rfl⟩ := Task.exec_ret hd
          exact .inr (.inr (.inr (.inr (.inr ⟨rs, rfl, rfl⟩))))

/-- The task that waits for the signal has not got it, or panics, or cancels the token. -/
theorem exec_waitForShutdownSignal {o : Status procSig (Outcome Error Unit)}
    (hx : Exec waitForShutdownSignal t o) :
    (t = [] ∧ o = .asks .awaitSignal) ∨ (∃ e, t = [⟨.awaitSignal, .error e⟩] ∧ o = .done .panic) ∨
      (t = [⟨.awaitSignal, .ok ()⟩] ∧ o = .asks .cancel) ∨
      (t = [⟨.awaitSignal, .ok ()⟩, ⟨.cancel, ()⟩] ∧ o = .done (.ok ())) := by
  obtain ⟨op, rfl, hp⟩ | ⟨e, rfl, hp⟩ | ⟨rfl, hp⟩ | ⟨_, t₁, t₂, rfl, hp, hf⟩ := Task.exec_andThen hx
  · obtain ⟨rfl, ho⟩ | ⟨_, -, ho⟩ := exec_call.1 hp
    · cases ho
      exact .inl ⟨rfl, rfl⟩
    · cases ho
  · obtain ⟨-, ho⟩ | ⟨r, -, hr⟩ := exec_call.1 hp
    · cases ho
    · cases r <;> cases hr
  · obtain ⟨-, ho⟩ | ⟨r, rfl, hr⟩ := exec_call.1 hp
    · cases ho
    · cases r with
      | ok _ => cases hr
      | error e => exact .inr (.inl ⟨e, rfl, rfl⟩)
  · obtain ⟨-, ho⟩ | ⟨r, rfl, hr⟩ := exec_call.1 hp
    · cases ho
    cases r with
    | error e => cases hr
    | ok _ =>
      obtain ⟨rfl, rfl⟩ | ⟨_, rfl, hr⟩ := exec_call.1 hf
      · exact .inr (.inr (.inl ⟨rfl, rfl⟩))
      · cases hr
        exact .inr (.inr (.inr ⟨rfl, rfl⟩))

end
end Glycerine
