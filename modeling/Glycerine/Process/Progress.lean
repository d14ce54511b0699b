import Mathlib.Data.List.Nodup
import Glycerine.Interact.Drive
import Glycerine.Process.Command
/-
# A process goes on until its main thread returns

No thread waits for one that waits for it. A thread that waits for an operation goes on with every answer that the
shared token permits; only the main thread waits for others, for the services, and these do not wait for it
(`goes_on`). Neither a signal nor the five seconds are needed for it.
-/

namespace Glycerine
open Interact

/-! ## The main thread -/

/-- What `supervise` does. -/
def Supervises : ProcOp → Prop
  | .cancel | .select _ | .timeout _ _ => True
  | _ => False

theorem only_supervise {tasks : List Service} : Only Supervises (supervise tasks) := by
  unfold supervise
  refine Task.only_bind.2 ⟨trivial, fun r => ?_⟩
  cases r with
  | some rs => exact Task.only_bind.2 ⟨trivial, fun _ => trivial⟩
  | none =>
    refine Task.only_bind.2 ⟨trivial, fun r => ?_⟩
    cases r <;> trivial

/-- After `t` the services `ws` run, and the main thread has since done `t₂`. -/
structure Launched (run : Proc Error (List Service)) (Ready : Trace procSig → Roster → Prop) (ws : Roster)
    (t t₂ : Trace procSig) : Prop where
  prepared : ∃ t₁, Ready t₁ ws ∧ (∀ e ∈ t₁, Prepares e.1) ∧ t = t₁ ++ ws.map spawnEvent ++ t₂ ∧
    Exec run (t₁ ++ ws.map spawnEvent) (.done (.ok (ws.map Prod.fst)))
  supervises : ∃ o, Exec (supervise (ws.map Prod.fst)) t₂ o

section
variable {run : Proc Error (List Service)} {Ready : Trace procSig → Roster → Prop} {t : Trace procSig}
  {o : Status procSig (Outcome Error Nat)} {s : Service} {w w' : Worker}

/-- The main thread is in `run`, or `run` has failed, or the services run. -/
theorem Command.main_cases (hcmd : Command run Ready) (hx : Exec (main run) t o) :
    (∃ op, o = .asks op ∧ Exec run t (.asks op)) ∨ (o = .done .panic ∧ Exec run t (.done .panic)) ∨
      (∃ e, o = .done (.ok (failureExitCode e)) ∧ Exec run t (.done (.err e))) ∨
      ∃ ws t₂, Launched run Ready ws t t₂ ∧ Exec (supervise (ws.map Prod.fst)) t₂ o := by
  obtain h | h | h | ⟨tasks, t₁, t₂, rfl, hrun, hs⟩ := exec_main hx
  · exact .inl h
  · exact .inr (.inl h)
  · exact .inr (.inr (.inl h))
  obtain ⟨-, hnot⟩ | ⟨t₀, ws, n, hready, hprep, rfl, hdone⟩ := hcmd.exec hrun
  · exact absurd rfl (hnot tasks)
  obtain ⟨hn, htasks⟩ := hdone _ rfl
  cases htasks
  rw [List.take_of_length_le (by simpa using hn)] at hrun ⊢
  exact .inr (.inr (.inr ⟨ws, t₂, ⟨⟨t₀, hready, hprep, rfl, hrun⟩, o, hs⟩, hs⟩))

/-- The services that are spawned are those that `Ready` says, after what it says. -/
theorem Command.spawned (hcmd : Command run Ready) (hx : Exec (main run) t o)
    (hmem : ⟨.spawnBlocking s w, ()⟩ ∈ t) :
    ∃ t₁ ws n t₂, Ready t₁ ws ∧ (∀ e ∈ t₁, Prepares e.1) ∧ t = t₁ ++ (ws.map spawnEvent).take n ++ t₂ ∧
      (∀ e ∈ t₂, Supervises e.1) ∧ ∀ s w, ⟨.spawnBlocking s w, ()⟩ ∈ t → (s, w) ∈ ws := by
  have hrun : ∃ t₁ t₂ o', t = t₁ ++ t₂ ∧ Exec run t₁ o' ∧ ∀ e ∈ t₂, Supervises e.1 := by
    obtain ⟨op, -, hrun⟩ | ⟨-, hrun⟩ | ⟨e, -, hrun⟩ | ⟨tasks, t₁, t₂, rfl, hrun, hs⟩ := exec_main hx
    · exact ⟨t, [], _, by simp, hrun, fun e he => absurd he List.not_mem_nil⟩
    · exact ⟨t, [], _, by simp, hrun, fun e he => absurd he List.not_mem_nil⟩
    · exact ⟨t, [], _, by simp, hrun, fun e he => absurd he List.not_mem_nil⟩
    · exact ⟨t₁, t₂, _, rfl, hrun, (exec_only only_supervise hs).1⟩
  obtain ⟨t₁, t₂, o', rfl, hrun, hsup⟩ := hrun
  obtain ⟨hprep, -⟩ | ⟨t₀, ws, n, hready, hprep, rfl, -⟩ := hcmd.exec hrun
  · exact (List.mem_append.1 hmem).elim (fun h => (hprep _ h).elim) fun h => (hsup _ h).elim
  refine ⟨t₀, ws, n, t₂, hready, hprep, rfl, hsup, fun s w hx => ?_⟩
  rcases List.mem_append.1 hx with hx | hx
  · rcases List.mem_append.1 hx with hx | hx
    · exact (hprep _ hx).elim
    · obtain ⟨x, hmem, he⟩ := List.mem_map.1 (List.mem_of_mem_take hx)
      cases he
      exact hmem
  · exact (hsup _ hx).elim

/-- No service is spawned twice. -/
theorem Command.spawned_unique (hcmd : Command run Ready) (hx : Exec (main run) t o)
    (hmem : ⟨.spawnBlocking s w, ()⟩ ∈ t) (hmem' : ⟨.spawnBlocking s w', ()⟩ ∈ t) : w = w' := by
  obtain ⟨t₁, ws, n, t₂, hready, -, -, -, hin⟩ := hcmd.spawned hx hmem
  have key := List.inj_on_of_nodup_map (hcmd.nodup hready) (hin s w hmem) (hin s w' hmem') rfl
  cases key
  rfl

theorem Command.reactive_main (hcmd : Command run Ready) : Reactive (main run) := by
  refine Task.reactive_andThen (Task.reactive_attempt hcmd.reactive) fun r => ?_
  cases r with
  | error e => exact Task.reactive_ret
  | ok tasks =>
    refine Task.reactive_andThen Task.reactive_call fun r => ?_
    cases r with
    | some rs => exact Task.reactive_andThen Task.reactive_call fun _ => Task.reactive_ret
    | none =>
      refine Task.reactive_andThen Task.reactive_call fun r => ?_
      cases r <;> exact Task.reactive_ret

end

/-! ## The services -/

theorem Worker.reactive : ∀ w : Worker, Reactive w.run
  | .bootstrap _ => Bootstrap.run_reactive
  | .nfqToVsock _ => NfqToVsock.run_reactive
  | .vsockToIpv4 _ => VsockToIpv4.run_reactive

theorem reactive_service (w : Worker) : Reactive (service w) := by
  refine Task.reactive_andThen (Task.reactive_attempt w.reactive.embed) fun r => ?_
  cases r with
  | ok _ => exact Task.reactive_ret
  | error e => exact Task.reactive_andThen Task.reactive_call fun _ => Task.reactive_fail

/-- What a service does. -/
def Serves : ProcOp → Prop
  | .sys _ | .cancel => True
  | _ => False

theorem only_service (w : Worker) : Only Serves (service w) := by
  refine Task.only_bind.2 ⟨Task.only_attempt.2 (only_ofSys (fun _ => trivial) _), fun r => ?_⟩
  cases r with
  | ok _ => trivial
  | error e => exact Task.only_bind.2 ⟨trivial, fun _ => trivial⟩

/-! ## Answers -/

section
variable {g : ProcTrace}

theorem KernelOp.answers : ∀ op : KernelOp, Nonempty op.Res
  | .readLocalPortRange => ⟨.ok ""⟩
  | .writeLocalPortRange _ | .sendBatch _ | .newConnection => ⟨.ok ()⟩
  | .linkByName _ => ⟨.ok none⟩
  | .addressAdd _ _ | .routeDel _ | .routeAdd _ => ⟨.ok ()⟩
  | .routeGet _ => ⟨()⟩
  | .routeNext => ⟨.ok none⟩
  | .socket | .setFlags _ _ | .setMtu _ _ => ⟨.ok ()⟩
  | .getFlags _ => ⟨.ok 0⟩
  | .getMtu _ => ⟨.ok 0⟩

/-- There is an answer that the token permits. -/
theorem exists_shares (op : SysOp) : ∃ r : procSig.Res (.sys op), Shares g ⟨.sys op, r⟩ := by
  by_cases hc : op = .isCancelled
  · subst hc
    exact ⟨cancelled g, rfl⟩
  · obtain ⟨r⟩ := op.answers
    refine ⟨r, ?_⟩
    cases op with
    | isCancelled => exact absurd rfl hc
    | _ => trivial

end

/-! ## Going on -/

/-- What the process does not need to go on: a signal, or that five seconds pass. -/
def External : Thread × ProcEvent → Prop
  | (.signal, _) => True
  | (_, ⟨.timeout _ _, none⟩) => True
  | _ => False

section
variable {run : Proc Error (List Service)} {Ready : Trace procSig → Roster → Prop} {g : ProcTrace}

theorem spawned_append {s : Service} {w : Worker} {x : Thread × ProcEvent} (hx : x.1 ≠ .main)
    (h : Spawned s w (g ++ [x])) : Spawned s w g := by
  rcases List.mem_append.1 h with h | h
  · exact h
  · rw [← List.mem_singleton.1 h] at hx
    exact absurd rfl hx

theorem part_snoc_self {i : Thread} {e : ProcEvent} : part i (g ++ [(i, e)]) = part i g ++ [e] := by
  simp

theorem part_snoc_other {i j : Thread} {e : ProcEvent} (h : j ≠ i) : part i (g ++ [(j, e)]) = part i g := by
  rw [part_append, part_cons_other h]
  simp

/-- A service that waits for `op` goes on with every answer that the token permits. -/
theorem extend_service (hcmd : Command run Ready) (hrun : ProcessRun run g) {s : Service} {w : Worker}
    {op : procSig.Op} {r : procSig.Res op} (hsp : Spawned s w g)
    (hx : Exec (service w) (part (.service s) g) (.asks op))
    (hsh : Shares g ⟨op, r⟩) : ProcessRun run (g ++ [(.service s, ⟨op, r⟩)]) := by
  refine ⟨?_, ?_, fun s' w' hsp' => ?_, always_snoc.2 ⟨hrun.shared, ⟨w, hsp⟩, hsh⟩⟩
  · rw [part_snoc_other (i := .main) (j := .service s) nofun]
    exact hrun.main
  · rw [part_snoc_other (i := .signal) (j := .service s) nofun]
    exact hrun.signal
  · have hsp' := spawned_append (x := (.service s, ⟨op, r⟩)) nofun hsp'
    by_cases hs : s = s'
    · subst hs
      obtain ⟨o, hmain⟩ := hrun.main
      obtain rfl := hcmd.spawned_unique hmain (mem_part.2 hsp) (mem_part.2 hsp')
      rw [part_snoc_self]
      exact (reactive_service w).next hx r
    · rw [part_snoc_other fun h => hs (Thread.service.inj h)]
      exact hrun.services s' w' hsp'

/-- So does the main thread; a service that it spawns is at its beginning. -/
theorem extend_main (hcmd : Command run Ready) (hrun : ProcessRun run g) {op : procSig.Op}
    {r : procSig.Res op} (hx : Exec (main run) (part .main g) (.asks op)) (hsh : Shares g ⟨op, r⟩) :
    ProcessRun run (g ++ [(.main, ⟨op, r⟩)]) := by
  have hmain := hcmd.reactive_main.next hx r
  refine ⟨by rwa [part_snoc_self], ?_, fun s w hsp => ?_, always_snoc.2 ⟨hrun.shared, trivial, hsh⟩⟩
  · rw [part_snoc_other (i := .signal) (j := .main) nofun]
    exact hrun.signal
  rw [part_snoc_other (i := .service s) (j := .main) nofun]
  by_cases hold : ∃ w', Spawned s w' g
  · obtain ⟨w', hold⟩ := hold
    obtain ⟨o, hmain⟩ := hmain
    obtain rfl : w' = w := by
      refine hcmd.spawned_unique hmain (s := s) ?_ ?_
      · exact List.mem_append_left _ (mem_part.2 hold)
      · rw [← part_snoc_self]
        exact mem_part.2 hsp
    exact hrun.services s w' hold
  · have hnone : part (.service s) g = [] := by
      refine part_eq_nil fun e he => hold ?_
      obtain ⟨g₁, g₂, rfl⟩ := List.append_of_mem he
      obtain ⟨w', hw'⟩ := (hrun.shared g₁ _ g₂ rfl).1
      exact ⟨w', List.mem_append_left _ hw'⟩
    rw [hnone]
    exact (reactive_service w).start

/-- The end of all services, or one that is not at its end. -/
theorem ended_or_waits (hrun : ProcessRun run g) : ∀ {tasks : List Service}, (∀ s ∈ tasks, ∃ w, Spawned s w g) →
    (∃ rs, List.Forall₂ (Ended g) tasks rs) ∨
      ∃ s w op, Spawned s w g ∧ Exec (service w) (part (.service s) g) (.asks op)
  | [], _ => .inl ⟨[], .nil⟩
  | s :: tasks, hsp => by
    obtain ⟨w, hw⟩ := hsp s List.mem_cons_self
    obtain ⟨o, hx⟩ := hrun.services s w hw
    cases o with
    | asks op => exact .inr ⟨s, w, op, hw, hx⟩
    | done r =>
      rcases ended_or_waits hrun fun s' hs' => hsp s' (List.mem_cons_of_mem _ hs') with ⟨rs, hrs⟩ | h
      · exact .inl ⟨r :: rs, .cons ⟨w, hw, hx⟩ hrs⟩
      · exact .inr h

/-- As long as the main thread has not returned, the process goes on, without a signal and before the five seconds
are over. -/
theorem goes_on (hcmd : Command run Ready) (hrun : ProcessRun run g) :
    (∃ r, Exec (main run) (part .main g) (.done r)) ∨ ∃ x, ¬ External x ∧ ProcessRun run (g ++ [x]) := by
  obtain ⟨o, hx⟩ := hrun.main
  cases o with
  | done r => exact .inl ⟨r, hx⟩
  | asks op =>
    refine .inr ?_
    -- a service that is not at its end goes on
    have serve : ∀ {s w op}, Spawned s w g → Exec (service w) (part (.service s) g) (.asks op) →
        ∃ x, ¬ External x ∧ ProcessRun run (g ++ [x]) := by
      intro s w op hsp hs
      have hop : Serves op := (exec_only (only_service w) hs).2 op rfl
      cases op with
      | sys op =>
        obtain ⟨r, hr⟩ := exists_shares (g := g) op
        exact ⟨(.service s, ⟨.sys op, r⟩), not_false, extend_service hcmd hrun hsp hs hr⟩
      | cancel => exact ⟨(.service s, ⟨.cancel, ()⟩), not_false, extend_service hcmd hrun hsp hs trivial⟩
      | _ => exact hop.elim
    obtain ⟨op', ho, hr⟩ | ⟨ho, -⟩ | ⟨e, ho, -⟩ | ⟨ws, t₂, hl, hs⟩ := hcmd.main_cases hx
    · cases ho
      have hop : Launches op := (exec_only hcmd.only hr).2 op rfl
      cases op with
      | sys op =>
        obtain ⟨r, hr⟩ := exists_shares (g := g) op
        exact ⟨(.main, ⟨.sys op, r⟩), not_false, extend_main hcmd hrun hx hr⟩
      | kernel op =>
        obtain ⟨r⟩ := op.answers
        exact ⟨(.main, ⟨.kernel op, r⟩), not_false, extend_main hcmd hrun hx trivial⟩
      | spawnBlocking s w =>
        exact ⟨(.main, ⟨.spawnBlocking s w, ()⟩), not_false, extend_main hcmd hrun hx trivial⟩
      | _ => exact hop.elim
    · cases ho
    · cases ho
    · have hall : (∃ rs, List.Forall₂ (Ended g) (ws.map Prod.fst) rs) ∨
          ∃ s w op, Spawned s w g ∧ Exec (service w) (part (.service s) g) (.asks op) := by
        refine ended_or_waits hrun fun s hs => ?_
        obtain ⟨x, hx, rfl⟩ := List.mem_map.1 hs
        obtain ⟨t₁, -, -, ht, -⟩ := hl.prepared
        refine ⟨x.2, mem_part.1 ?_⟩
        rw [ht]
        simpa using .inr (.inl ⟨x.1, x.2, hx, rfl⟩)
      rcases hall with ⟨rs, hrs⟩ | ⟨s, w, op', hsp, hw⟩
      · obtain ⟨-, ho⟩ | ⟨_, -, ho⟩ | ⟨_, -, ho⟩ | ⟨-, ho⟩ | ⟨-, ho⟩ | ⟨_, -, ho⟩ := exec_supervise hs
        · cases ho
          exact ⟨(.main, ⟨.select _, some rs⟩), not_false, extend_main hcmd hrun hx hrs⟩
        · cases ho
          exact ⟨(.main, ⟨.cancel, ()⟩), not_false, extend_main hcmd hrun hx trivial⟩
        · cases ho
        · cases ho
          exact ⟨(.main, ⟨.timeout 5000 _, some rs⟩), not_false, extend_main hcmd hrun hx hrs⟩
        · cases ho
        · cases ho
      · exact serve hsp hw

end

/-- **No process deadlocks**, wherever it is. -/
theorem never_deadlocks :
    (∀ kernel (cfg : HostArgs) b g, ProcessRun (cfg.run kernel b) g →
      (∃ r, Exec (main (cfg.run kernel b)) (part .main g) (.done r)) ∨
        ∃ x, ¬ External x ∧ ProcessRun (cfg.run kernel b) (g ++ [x])) ∧
    ∀ fromSlice parseNetwork (cfg : EnclaveArgs) b g, ProcessRun (cfg.run fromSlice parseNetwork b) g →
      (∃ r, Exec (main (cfg.run fromSlice parseNetwork b)) (part .main g) (.done r)) ∨
        ∃ x, ¬ External x ∧ ProcessRun (cfg.run fromSlice parseNetwork b) (g ++ [x]) :=
  ⟨fun _ _ _ _ => goes_on HostArgs.command, fun _ _ _ _ _ => goes_on EnclaveArgs.command⟩

end Glycerine
