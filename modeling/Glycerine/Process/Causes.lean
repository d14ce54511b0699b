import Glycerine.Process.Shutdown
import Glycerine.Services.Faults
/-
# No process ends by itself

Without a signal and without a service that has failed, no service returns, the token stays as it is, and the main
thread does not return (`ends_have_causes`). The services return `GlycerineShutdown` too when they are told to end, but
then something else was first.
-/

namespace Glycerine
open Interact

/-- A reason to end: a signal, or a service that failed with an error of its own. -/
def Cause (g : ProcTrace) : Prop :=
  (.signal, ⟨.cancel, ()⟩) ∈ g ∨ ∃ s e, Own e ∧ Ended g s (.err e)

/-- The process is ending: the token is cancelled, a service has returned, or the main thread has, past `run`. -/
def Finishing (run : Proc Error (List Service)) (Ready : Trace procSig → Roster → Prop) (g : ProcTrace) : Prop :=
  cancelled g = true ∨ (∃ s r, r ≠ .panic ∧ Ended g s r) ∨
    ∃ ws t₂ r, Launched run Ready ws (part .main g) t₂ ∧ Exec (main run) (part .main g) (.done r)

section
variable {run : Proc Error (List Service)} {Ready : Trace procSig → Roster → Prop} {g u v : ProcTrace}
  {s : Service} {w : Worker}

theorem Cause.later (hrun : ProcessRun run (u ++ v)) (hc : Cause u) : Cause (u ++ v) := by
  obtain hs | ⟨s, e, he, hend⟩ := hc
  · exact .inl (List.mem_append_left _ hs)
  · exact .inr ⟨s, e, he, hend.later hrun⟩

/-- Before the token is cancelled a service finds it so. -/
theorem uncancelled_of_part (hrun : ProcessRun run g) (hc : cancelled g = false) {h : History}
    (hh : part (.service s) g = h.map sysOps.event) : ⟨.isCancelled, true⟩ ∉ h := by
  intro hmem
  have hev : (⟨.sys .isCancelled, true⟩ : ProcEvent) ∈ part (.service s) g := by
    rw [hh]
    exact List.mem_map.2 ⟨_, hmem, rfl⟩
  have hlook := look_of_not_cancelled hrun.shared hc (mem_part.1 hev)
  cases hlook

theorem Worker.run_faulty {h : History} {r : Outcome Error Unit} (hx : Exec w.run h (.done r))
    (hc : ⟨.isCancelled, true⟩ ∉ h) : Faulty r := by
  match w with
  | .bootstrap _ => exact Bootstrap.run_faulty hx hc
  | .nfqToVsock _ =>
    obtain ⟨e, rfl, he⟩ := NfqToVsock.run_faulty hx hc
    exact he
  | .vsockToIpv4 _ => exact VsockToIpv4.run_faulty hx hc

/-- Before the token is cancelled only a panic ends a service. -/
theorem panics_of_ended (hrun : ProcessRun run g) (hc : cancelled g = false) {r : Outcome Error Unit}
    (hx : Exec (service w) (part (.service s) g) (.done r)) :
    r = .panic ∧ ∃ h, Exec w.run h (.done .panic) ∧ ⟨.isCancelled, true⟩ ∉ h := by
  obtain ⟨h, o', hw, ⟨heq, hdone⟩ | ⟨e, -, heq, -⟩⟩ := exec_service hx
  · obtain ⟨rfl, hne⟩ := hdone r rfl
    have hlooks := uncancelled_of_part hrun hc heq
    have hf := Worker.run_faulty hw hlooks
    match r with
    | .ok () => exact hf.elim
    | .err e => exact absurd rfl (hne e)
    | .panic => exact ⟨rfl, h, hw, hlooks⟩
  · have hmem : (.service s, (⟨.cancel, ()⟩ : ProcEvent)) ∈ g := by
      rw [← mem_part, heq]
      simp
    rw [cancelled_iff.2 ⟨_, hmem⟩] at hc
    cases hc

/-- A service is the first to cancel the token only with an error of its own. -/
theorem own_of_first_cancel (hrun : ProcessRun run (u ++ [(.service s, ⟨.cancel, ()⟩)])) (hc : cancelled u = false) :
    ∃ e, Own e ∧ Ended (u ++ [(.service s, ⟨.cancel, ()⟩)]) s (.err e) := by
  obtain ⟨w, hsp⟩ := (always_snoc.1 hrun.shared).2.1
  have hsp' : Spawned s w (u ++ [(.service s, ⟨.cancel, ()⟩)]) := List.mem_append_left _ hsp
  obtain ⟨o, hx⟩ := hrun.services s w hsp'
  have hpart : part (.service s) (u ++ [(.service s, ⟨.cancel, ()⟩)]) = part (.service s) u ++ [⟨.cancel, ()⟩] :=
    part_snoc_self
  obtain ⟨h, o', hw, ⟨heq, -⟩ | ⟨e, rfl, heq, rfl⟩⟩ := exec_service hx
  · -- what the worker does is no cancellation
    have hmem : (⟨.cancel, ()⟩ : ProcEvent) ∈ h.map sysOps.event := by
      rw [← heq, hpart]
      simp
    obtain ⟨x, -, hx⟩ := List.mem_map.1 hmem
    cases hx
  · rw [hpart] at heq
    have hold := (List.append_inj' heq rfl).1
    exact ⟨e, Worker.run_faulty hw (uncancelled_of_part hrun.left hc hold), w, hsp', hx⟩

/-- The main thread is never the first to cancel it: it waits for the sender, which does not panic. -/
theorem not_first_cancel (hcmd : Command run Ready) (hrun : ProcessRun run (u ++ [(.main, ⟨.cancel, ()⟩)]))
    (hc : cancelled u = false) : False := by
  obtain ⟨o, hmain⟩ := hrun.main
  rw [part_snoc_self] at hmain
  have hin : (⟨.cancel, ()⟩ : ProcEvent) ∈ part .main u ++ [⟨.cancel, ()⟩] := by simp
  have hnot : ∀ {o'}, ¬ Exec run (part .main u ++ [⟨.cancel, ()⟩]) o' := fun hx => (exec_only hcmd.only hx).1 _ hin
  obtain ⟨op, -, hx⟩ | ⟨-, hx⟩ | ⟨e, -, hx⟩ | ⟨ws, t₂, hl, hs⟩ := hcmd.main_cases hmain
  · exact hnot hx
  · exact hnot hx
  · exact hnot hx
  obtain ⟨t₁, hready, hprep, heq, -⟩ := hl.prepared
  have hcancel : (⟨.cancel, ()⟩ : ProcEvent) ∈ t₂ := by
    rw [heq] at hin
    rcases List.mem_append.1 hin with hin | hin
    · rcases List.mem_append.1 hin with hin | hin
      · exact (hprep _ hin).elim
      · obtain ⟨x, -, hx⟩ := List.mem_map.1 hin
        cases hx
    · exact hin
  -- so it has seen all services end
  obtain ⟨rs, hseen⟩ : ∃ rs, (⟨.select (ws.map Prod.fst), some rs⟩ : ProcEvent) ∈ part .main u := by
    have hsel : ∃ rs, (⟨.select (ws.map Prod.fst), some rs⟩ : ProcEvent) ∈ t₂ := by
      obtain ⟨rfl, -⟩ | ⟨rs, rfl, -⟩ | ⟨rs, rfl, -⟩ | ⟨rfl, -⟩ | ⟨rfl, -⟩ | ⟨rs, rfl, -⟩ := exec_supervise hs
      · simp at hcancel
      · exact ⟨rs, by simp⟩
      · exact ⟨rs, by simp⟩
      · simp at hcancel
      · simp at hcancel
      · simp at hcancel
    obtain ⟨rs, hrs⟩ := hsel
    have hmem : (⟨.select (ws.map Prod.fst), some rs⟩ : ProcEvent) ∈ part .main u ++ [⟨.cancel, ()⟩] := by
      rw [heq]
      exact List.mem_append_right _ hrs
    rcases List.mem_append.1 hmem with hmem | hmem
    · exact ⟨rs, hmem⟩
    · cases List.mem_singleton.1 hmem
  obtain ⟨s, proxy, hsender⟩ := hcmd.sender hready
  obtain ⟨r, w, hsp, hx⟩ := ended_of_seen hrun.left (mem_part.1 hseen) (fun g₁ h => ⟨rs, h⟩)
    (List.mem_map_of_mem hsender : s ∈ ws.map Prod.fst)
  obtain ⟨-, h, hw, hlooks⟩ := panics_of_ended hrun.left hc hx
  obtain rfl : w = .nfqToVsock proxy := by
    refine hcmd.spawned_unique hmain (List.mem_append_left _ (mem_part.2 hsp)) ?_
    rw [heq]
    exact List.mem_append_left _ (List.mem_append_right _ (List.mem_map_of_mem hsender))
  obtain ⟨e, he, -⟩ := NfqToVsock.run_faulty hw hlooks
  cases he

/-- A cancelled token has a cause. -/
theorem cause_of_cancelled (hcmd : Command run Ready) (hrun : ProcessRun run g) (hc : cancelled g = true) :
    Cause g := by
  obtain ⟨u, x, v, rfl, hx, hu⟩ := exists_first (P := fun x : Thread × ProcEvent => isCancel x.2 = true)
    (List.any_eq_true.1 hc)
  have hfirst : cancelled u = false := by
    rw [Bool.eq_false_iff]
    intro hu'
    obtain ⟨y, hy, hcancel⟩ := List.any_eq_true.1 hu'
    exact hu y hy hcancel
  have hsplit : u ++ x :: v = (u ++ [x]) ++ v := by simp
  rw [hsplit] at hrun ⊢
  have hupto := hrun.left
  refine Cause.later hrun ?_
  obtain ⟨i, op, r⟩ := x
  cases op with
  | cancel =>
    cases i with
    | main => exact (not_first_cancel hcmd hupto hfirst).elim
    | signal => exact .inl (by simp)
    | service s =>
      obtain ⟨e, he, hend⟩ := own_of_first_cancel hupto hfirst
      exact .inr ⟨s, e, he, hend⟩
  | _ => cases hx

/-- **Every end has a cause.** -/
theorem cause_of_finishing (hcmd : Command run Ready) (hrun : ProcessRun run g) (he : Finishing run Ready g) :
    Cause g := by
  refine cause_of_cancelled hcmd hrun ?_
  obtain hc | ⟨s, r, hr, w, -, hx⟩ | ⟨ws, t₂, r, hl, hx⟩ := he
  · exact hc
  · by_contra hc
    exact hr (panics_of_ended hrun (Bool.eq_false_iff.2 hc) hx).1
  · obtain ⟨code, rfl⟩ := supervise_ok (hl.later hcmd (u := []) (by simpa using hx)).2
    have hgo : ProcessRun run (g ++ []) := by rwa [List.append_nil]
    cases exits hcmd hgo hx with
    | failed e hfails _ =>
      obtain ⟨t₁, -, -, heq, hdone⟩ := hl.prepared
      rw [heq] at hfails
      cases (exec_returned hdone hfails).2
    | clean _ hc _ _ => exact hc
    | late _ hc _ => exact hc

end

/-- **No process ends by itself.** -/
theorem ends_have_causes :
    (∀ kernel (cfg : HostArgs) b g, ProcessRun (cfg.run kernel b) g →
      Finishing (cfg.run kernel b) (HostArgs.Ready kernel cfg b) g → Cause g) ∧
    ∀ fromSlice parseNetwork (cfg : EnclaveArgs) b g, ProcessRun (cfg.run fromSlice parseNetwork b) g →
      Finishing (cfg.run fromSlice parseNetwork b) (EnclaveArgs.Ready fromSlice parseNetwork cfg b) g → Cause g :=
  ⟨fun _ _ _ _ hrun he => cause_of_finishing HostArgs.command hrun he,
    fun _ _ _ _ _ hrun he => cause_of_finishing EnclaveArgs.command hrun he⟩

/-- The host that was told to stop. -/
theorem Demo.hostRun_cause : Cause (Demo.untilSignal ++ Demo.afterSignal) :=
  ends_have_causes.1 _ _ _ _ Demo.hostRun_process (.inl (by decide +kernel))

end Glycerine
