import Glycerine.Process.Progress
import Glycerine.Services.WindDown
import Glycerine.Setup.Flows
/-
# The end of a process

Once the services run, a cancellation ends the process: each service winds down, so the threads together do only as
much more as the services are in the middle of, and as `goes_on` says they do not wait for each other. In whatever order
they go on, the main thread returns (`processes_conclude`). The exit code 0 then means that all services have ended, or
that `run` returned `GlycerineShutdown` (`exits`).
-/

namespace Glycerine
open Interact Machine

/-! ## The main thread over time -/

section
variable {run : Proc Error (List Service)} {Ready : Trace procSig → Roster → Prop} {ws : Roster}
  {t t₂ u : Trace procSig} {o : Status procSig (Outcome Error Nat)}

/-- The services are those that were launched. -/
theorem Launched.later (hcmd : Command run Ready) (hl : Launched run Ready ws t t₂) (hx : Exec (main run) (t ++ u) o) :
    Launched run Ready ws (t ++ u) (t₂ ++ u) ∧ Exec (supervise (ws.map Prod.fst)) (t₂ ++ u) o := by
  obtain ⟨t₁, hready, hprep, rfl, hrun⟩ := hl.prepared
  have hlater : ∀ {o'}, Exec run (t₁ ++ ws.map spawnEvent ++ t₂ ++ u) o' → o' = .done (.ok (ws.map Prod.fst)) := by
    intro o' hx'
    rw [List.append_assoc] at hx'
    exact (exec_returned hrun hx').2
  obtain ⟨op, -, hx'⟩ | ⟨-, hx'⟩ | ⟨e, -, hx'⟩ | ⟨ws', t₂', hl', hs⟩ := hcmd.main_cases hx
  · cases hlater hx'
  · cases hlater hx'
  · cases hlater hx'
  obtain ⟨t₁', -, -, heq, hrun'⟩ := hl'.prepared
  rw [List.append_assoc _ t₂ u] at heq
  -- `run` has returned once
  have hboth : ws.map Prod.fst = ws'.map Prod.fst ∧ t₂ ++ u = t₂' := by
    rcases List.append_eq_append_iff.1 heq with ⟨a, ha, hb⟩ | ⟨a, ha, hb⟩
    · rw [ha] at hrun'
      obtain ⟨rfl, hd⟩ := exec_returned hrun hrun'
      injection hd with hd
      injection hd with hd
      exact ⟨hd.symm, by simpa using hb⟩
    · rw [ha] at hrun
      obtain ⟨rfl, hd⟩ := exec_returned hrun' hrun
      injection hd with hd
      injection hd with hd
      exact ⟨hd, by simpa using hb.symm⟩
  obtain ⟨htasks, rfl⟩ := hboth
  rw [htasks]
  refine ⟨⟨⟨t₁, hready, hprep, by simp, hrun⟩, o, htasks ▸ hs⟩, hs⟩

theorem length_supervise {tasks : List Service} (hx : Exec (supervise tasks) t o) : t.length ≤ 2 := by
  obtain ⟨rfl, -⟩ | ⟨_, rfl, -⟩ | ⟨_, rfl, -⟩ | ⟨rfl, -⟩ | ⟨rfl, -⟩ | ⟨_, rfl, -⟩ := exec_supervise hx <;>
    exact Nat.le_of_ble_eq_true rfl

theorem length_signal {o : Status procSig (Outcome Error Unit)} (hx : Exec waitForShutdownSignal t o) :
    t.length ≤ 2 := by
  obtain ⟨rfl, -⟩ | ⟨_, rfl, -⟩ | ⟨rfl, -⟩ | ⟨rfl, -⟩ := exec_waitForShutdownSignal hx <;>
    exact Nat.le_of_ble_eq_true rfl

end

/-! ## The services over time -/

def Worker.reads : Worker → Nat
  | .vsockToIpv4 _ => Ipv4.MAX_PACKET_SIZE
  | _ => 0

/-- What a service has done on the system boundary. -/
abbrev served (s : Service) (g : ProcTrace) : History := sysPart (part (.service s) g)

theorem Worker.run_windsDown : ∀ {w : Worker} {u v : History} {o : Status sysSig (Outcome Error Unit)},
    Exec w.run (u ++ v) o → ⟨.isCancelled, false⟩ ∉ v → WindsDown w.reads u v
  | .bootstrap _, _, _, _, hx, hc => Bootstrap.run_windsDown hx hc
  | .nfqToVsock _, _, _, _, hx, hc => NfqToVsock.run_windsDown hx hc
  | .vsockToIpv4 _, _, _, _, hx, hc => VsockToIpv4.run_windsDown hx hc

theorem length_sysPart_le (t : Trace procSig) : (sysPart t).length ≤ t.length := by
  induction t with
  | nil => exact Nat.le_refl _
  | cons e t ih =>
    have hone : (sysPart [e]).length ≤ 1 := by
      obtain ⟨op, r⟩ := e
      cases op <;> exact Nat.le_of_ble_eq_true rfl
    have hcons : sysPart (e :: t) = sysPart [e] ++ sysPart t := sysPart_append (t := [e])
    rw [hcons, List.length_append, List.length_cons]
    omega

section
variable {run : Proc Error (List Service)} {Ready : Trace procSig → Roster → Prop} {ws : Roster} {u v : ProcTrace}
  {s : Service} {w : Worker}

/-- What a service does is what its worker does, and at most the cancellation. -/
theorem served_spec {t : Trace procSig} {o : Status procSig (Outcome Error Unit)} (hx : Exec (service w) t o) :
    (∃ o', Exec w.run (sysPart t) o') ∧ t.length ≤ (sysPart t).length + 1 := by
  obtain ⟨h, o', hw, ⟨rfl, -⟩ | ⟨e, -, rfl, -⟩⟩ := exec_service hx
  · rw [sysPart_map]
    exact ⟨⟨o', hw⟩, by simp⟩
  · rw [sysPart_append, sysPart_map]
    exact ⟨⟨o', (List.append_nil h).symm ▸ hw⟩, by simp⟩

theorem service_windsDown (hrun : ProcessRun run (u ++ v)) (hc : cancelled u = true) (hsp : Spawned s w (u ++ v)) :
    WindsDown w.reads (served s u) (served s v) ∧
      (part (.service s) v).length ≤ (served s v).length + 1 := by
  obtain ⟨o, hx⟩ := hrun.services s w hsp
  obtain ⟨⟨o', hw⟩, hlen⟩ := served_spec hx
  rw [part_append] at hw hlen
  rw [sysPart_append] at hw hlen
  refine ⟨Worker.run_windsDown hw fun hmem => ?_, ?_⟩
  · have hlook := look_of_cancelled hrun.shared hc (mem_part.1 (mem_of_mem_sysPart hmem))
    cases hlook
  · have hle := length_sysPart_le (part (.service s) u)
    simp only [List.length_append] at hlen
    unfold served
    omega

/-- Every event belongs to a thread that there is. -/
theorem thread_mem (hcmd : Command run Ready) (hrun : ProcessRun run (u ++ v)) {t₂ : Trace procSig}
    (hl : Launched run Ready ws (part .main u) t₂) {x : Thread × ProcEvent} (hx : x ∈ u ++ v) :
    x.1 ∈ .main :: .signal :: ws.map fun y => Thread.service y.1 := by
  obtain ⟨i, e⟩ := x
  match i with
  | .main | .signal => simp
  | .service s =>
    obtain ⟨g₁, g₂, hg⟩ := List.append_of_mem hx
    obtain ⟨w, hw⟩ := (hrun.shared g₁ _ g₂ hg).1
    have hmem : ⟨.spawnBlocking s w, ()⟩ ∈ part .main u ++ part .main v := by
      rw [← part_append, hg]
      exact mem_part.2 (List.mem_append_left _ hw)
    obtain ⟨o, hmain⟩ := hrun.main
    rw [part_append] at hmain
    obtain ⟨⟨⟨t₁, -, hprep, heq, -⟩, o', hs⟩, -⟩ := hl.later hcmd hmain
    rw [heq] at hmem
    rcases List.mem_append.1 hmem with hmem | hmem
    · rcases List.mem_append.1 hmem with hmem | hmem
      · exact (hprep _ hmem).elim
      · obtain ⟨y, hy, heq⟩ := List.mem_map.1 hmem
        cases heq
        simpa using ⟨_, hy⟩
    · exact ((exec_only only_supervise hs).1 _ hmem).elim

/-- Of each service at most `k` reads are interrupted in `v`, and at most `m` bytes are left to send. -/
def Bounded (ws : Roster) (k m : Nat) (v : ProcTrace) : Prop :=
  ∀ x ∈ ws, total interrupted (served x.1 v) ≤ k ∧ (unsent (served x.1 v)).length ≤ m

/-- How much there is to do for all threads after a cancellation, at most. -/
def allowance (k m : Nat) : Roster → Nat
  | [] => 4
  | x :: ws => 10 + x.2.reads + k + m + allowance k m ws

theorem lengths_le {k m : Nat} (h : ∀ x ∈ ws, (part (.service x.1) v).length ≤ 10 + x.2.reads + k + m) :
    4 + lengths v (ws.map fun x => Thread.service x.1) ≤ allowance k m ws := by
  induction ws with
  | nil => exact Nat.le_refl 4
  | cons x ws ih =>
    have hx := h x List.mem_cons_self
    have hws := ih fun y hy => h y (List.mem_cons_of_mem _ hy)
    rw [List.map_cons]
    unfold lengths allowance
    omega

/-- What comes after a cancellation, which was after `u`. -/
structure Concludes (run : Proc Error (List Service)) (ws : Roster) (u : ProcTrace) : Prop where
  /-- each service only finishes what it is in the middle of -/
  services : ∀ v, ProcessRun run (u ++ v) → ∀ x ∈ ws, WindsDown x.2.reads (served x.1 u) (served x.1 v)
  /-- and whichever thread goes on, the main thread returns; it takes neither a signal nor the five seconds -/
  returns : ∀ k m, Inevitable (fun v => ProcessRun run (u ++ v)) (fun x => ¬ External x) (Bounded ws k m)
    (fun v => ∃ code, Exec (main run) (part .main (u ++ v)) (.done (.ok code))) (allowance k m ws + 1) []

theorem supervise_ok {tasks : List Service} {t : Trace procSig} {r : Outcome Error Nat}
    (hx : Exec (supervise tasks) t (.done r)) : ∃ code, r = .ok code := by
  obtain ⟨-, ho⟩ | ⟨_, -, ho⟩ | ⟨_, -, ho⟩ | ⟨-, ho⟩ | ⟨-, ho⟩ | ⟨_, -, ho⟩ := exec_supervise hx
  · cases ho
  · cases ho
  · cases ho
    exact ⟨_, rfl⟩
  · cases ho
  · cases ho
    exact ⟨_, rfl⟩
  · cases ho
    exact ⟨_, rfl⟩

theorem Launched.spawned {t₂ : Trace procSig} (hl : Launched run Ready ws (part .main u) t₂) {x : Service × Worker}
    (hx : x ∈ ws) : Spawned x.1 x.2 u := by
  obtain ⟨t₁, -, -, heq, -⟩ := hl.prepared
  refine mem_part.1 ?_
  rw [heq]
  exact List.mem_append_left _ (List.mem_append_right _ (List.mem_map_of_mem hx))

theorem length_le_allowance {k m : Nat} (hcmd : Command run Ready) {t₂ : Trace procSig}
    (hl : Launched run Ready ws (part .main u) t₂) (hc : cancelled u = true) (hrun : ProcessRun run (u ++ v))
    (hb : Bounded ws k m v) : v.length ≤ allowance k m ws := by
  obtain ⟨o, hmain⟩ := hrun.main
  obtain ⟨os, hsignal⟩ := hrun.signal
  rw [part_append] at hmain hsignal
  have hnodup : (.main :: .signal :: ws.map fun y => Thread.service y.1).Nodup := by
    obtain ⟨t₁, hready, -⟩ := hl.prepared
    have hserv : (ws.map fun y => Thread.service y.1).Nodup := by
      have hmap := (hcmd.nodup hready).map (f := Thread.service) fun a b h => Thread.service.inj h
      rwa [List.map_map] at hmap
    simp [hserv]
  rw [length_eq_lengths hnodup fun x hx => thread_mem hcmd hrun hl (List.mem_append_right _ hx)]
  have hserv : 4 + lengths v (ws.map fun x => Thread.service x.1) ≤ allowance k m ws := by
    refine lengths_le fun x hx => ?_
    obtain ⟨hw, hlen⟩ := service_windsDown hrun hc (List.mem_append_left _ (hl.spawned hx))
    obtain ⟨hk, hm⟩ := hb x hx
    have hreturns := hw.returns
    omega
  have hm : (part .main v).length ≤ 2 := by
    have hle := length_supervise (hl.later hcmd hmain).2
    rw [List.length_append] at hle
    omega
  have hsig : (part .signal v).length ≤ 2 := by
    have hle := length_signal hsignal
    rw [List.length_append] at hle
    omega
  unfold lengths
  unfold lengths
  omega

/-- The main thread has returned, or some thread goes on. -/
theorem returns_or_goes_on (hcmd : Command run Ready) {t₂ : Trace procSig}
    (hl : Launched run Ready ws (part .main u) t₂) (hrun : ProcessRun run (u ++ v)) :
    (∃ code, Exec (main run) (part .main (u ++ v)) (.done (.ok code))) ∨
      ∃ x, ¬ External x ∧ ProcessRun run (u ++ (v ++ [x])) := by
  rcases goes_on hcmd hrun with ⟨r, hr⟩ | h
  · rw [part_append] at hr ⊢
    obtain ⟨code, rfl⟩ := supervise_ok (hl.later hcmd hr).2
    exact .inl ⟨code, hr⟩
  · exact .inr (by simpa using h)

theorem concludes (hcmd : Command run Ready) {t₂ : Trace procSig} (hrun : ProcessRun run u)
    (hl : Launched run Ready ws (part .main u) t₂) (hc : cancelled u = true) : Concludes run ws u where
  services v hv x hx := (service_windsDown hv hc (List.mem_append_left _ (hl.spawned hx))).1
  returns k m := by
    refine inevitable_of_length (fun v hv hb => length_le_allowance hcmd hl hc hv hb)
      (fun v hv => returns_or_goes_on hcmd hl hv) ?_
    rwa [List.append_nil]

end

section
variable {run : Proc Error (List Service)} {Ready : Trace procSig → Roster → Prop} {u v : ProcTrace} {s : Service}

theorem ended_of_forall₂ {g : ProcTrace} {tasks : List Service} {rs : List (Outcome Error Unit)}
    (h : List.Forall₂ (Ended g) tasks rs) (hs : s ∈ tasks) : ∃ r, Ended g s r := by
  induction h with
  | nil => exact absurd hs List.not_mem_nil
  | cons hr _ ih =>
    rcases List.mem_cons.1 hs with rfl | hs
    · exact ⟨_, hr⟩
    · exact ih hs

/-- A service that has ended does nothing more. -/
theorem Ended.silent {r : Outcome Error Unit} (hrun : ProcessRun run (u ++ v)) (he : Ended u s r) :
    part (.service s) v = [] := by
  obtain ⟨w, hsp, hx⟩ := he
  obtain ⟨o, ho⟩ := hrun.services s w (List.mem_append_left _ hsp)
  rw [part_append] at ho
  exact (exec_returned hx ho).1

theorem Ended.later {r : Outcome Error Unit} (hrun : ProcessRun run (u ++ v)) (he : Ended u s r) :
    Ended (u ++ v) s r := by
  have hnil := he.silent hrun
  obtain ⟨w, hsp, hx⟩ := he
  exact ⟨w, List.mem_append_left _ hsp, by rwa [part_append, hnil, List.append_nil]⟩

/-- When the main thread sees the ends of `tasks`, they have ended. -/
theorem ended_of_seen {g : ProcTrace} (hrun : ProcessRun run g) {tasks : List Service} {e : ProcEvent}
    (he : (.main, e) ∈ g)
    (hseen : ∀ g₁, Shares g₁ e → ∃ rs, List.Forall₂ (Ended g₁) tasks rs) (hs : s ∈ tasks) : ∃ r, Ended g s r := by
  obtain ⟨g₁, g₂, rfl⟩ := List.append_of_mem he
  obtain ⟨rs, hrs⟩ := hseen g₁ (hrun.shared g₁ _ g₂ rfl).2
  obtain ⟨r, hr⟩ := ended_of_forall₂ hrs hs
  exact ⟨r, hr.later hrun⟩

/-- What the exit code says: the command has failed, and no service was ever launched or has done anything; or the token
is cancelled, and all services have ended or were too slow. -/
inductive Exits (run : Proc Error (List Service)) (Ready : Trace procSig → Roster → Prop) (u v : ProcTrace) :
    Nat → Prop where
  | failed (e : Error) (fails : Exec run (part .main u) (.done (.err e)))
    (unlaunched : ∀ s w, ¬ Spawned s w (u ++ v)) (alone : ∀ x ∈ u ++ v, ∀ s, x.1 ≠ .service s) :
    Exits run Ready u v (failureExitCode e)
  | clean {ws : Roster} {t₂ : Trace procSig} (launched : Launched run Ready ws (part .main u) t₂)
    (stopped : cancelled u = true) (ended : ∀ x ∈ ws, ∃ r, Ended u x.1 r)
    (alone : ∀ x ∈ v, x.1 = .signal) : Exits run Ready u v 0
  | late {ws : Roster} {t₂ : Trace procSig} (launched : Launched run Ready ws (part .main u) t₂)
    (stopped : cancelled u = true) (timeout : (.main, ⟨.timeout 5000 (ws.map Prod.fst), none⟩) ∈ u) :
    Exits run Ready u v 1

/-- **What the exit code tells.** -/
theorem exits (hcmd : Command run Ready) (hlater : ProcessRun run (u ++ v)) {code : Nat}
    (hx : Exec (main run) (part .main u) (.done (.ok code))) : Exits run Ready u v code := by
  have hrun := hlater.left
  have hquiet : ∀ e, (.main, e) ∉ v := by
    intro e he
    obtain ⟨o, ho⟩ := hlater.main
    rw [part_append] at ho
    have hnil := (exec_returned hx ho).1
    rw [← mem_part, hnil] at he
    cases he
  obtain ⟨op, ho, -⟩ | ⟨ho, -⟩ | ⟨e, ho, hfails⟩ | ⟨ws, t₂, hl, hs⟩ := hcmd.main_cases hx
  · cases ho
  · cases ho
  · cases ho
    have hunlaunched : ∀ s w, ¬ Spawned s w (u ++ v) := by
      intro s w hw
      obtain ⟨hprep, -⟩ | ⟨_, _, _, -, -, -, hdone⟩ := hcmd.exec hfails
      · rcases List.mem_append.1 hw with hw | hw
        · exact hprep _ (mem_part.2 hw)
        · exact hquiet _ hw
      · cases (hdone _ rfl).2
    refine .failed e hfails hunlaunched fun x hmem s hs => ?_
    obtain ⟨g₁, g₂, hg⟩ := List.append_of_mem hmem
    obtain ⟨w, hw⟩ : ∃ w, Spawned s w g₁ := by
      have hrunning := (hlater.shared g₁ x g₂ hg).1
      rwa [hs] at hrunning
    exact hunlaunched s w (hg ▸ List.mem_append_left _ hw)
  have hin : ∀ e ∈ t₂, (.main, e) ∈ u := by
    intro e he
    obtain ⟨t₁, -, -, heq, -⟩ := hl.prepared
    rw [← mem_part, heq]
    exact List.mem_append_right _ he
  have clean : cancelled u = true → (∀ s ∈ ws.map Prod.fst, ∃ r, Ended u s r) → Exits run Ready u v 0 := by
    intro hc hended
    refine .clean hl hc (fun x hx => hended x.1 (List.mem_map_of_mem hx)) fun x hx => ?_
    have hthread := thread_mem hcmd hlater hl (List.mem_append_right _ hx)
    rcases List.mem_cons.1 hthread with hmain | hthread
    · obtain ⟨i, e⟩ := x
      cases hmain
      exact absurd hx (hquiet e)
    rcases List.mem_cons.1 hthread with hsignal | hthread
    · exact hsignal
    · obtain ⟨y, hy, heq⟩ := List.mem_map.1 hthread
      obtain ⟨r, hr⟩ := hended y.1 (List.mem_map_of_mem hy)
      obtain ⟨i, e⟩ := x
      cases heq
      have hnil := hr.silent hlater
      rw [← mem_part, hnil] at hx
      cases hx
  have seen {e : ProcEvent} (he : e ∈ t₂)
      (hseen : ∀ g₁, Shares g₁ e → ∃ rs, List.Forall₂ (Ended g₁) (ws.map Prod.fst) rs) :
      ∀ s ∈ ws.map Prod.fst, ∃ r, Ended u s r := fun s hs => ended_of_seen hrun (hin e he) hseen hs
  have none_cancelled (he : ⟨.select (ws.map Prod.fst), none⟩ ∈ t₂) : cancelled u = true := by
    obtain ⟨g₁, g₂, rfl⟩ := List.append_of_mem (hin _ he)
    have hc : cancelled g₁ = true := (hrun.shared g₁ _ g₂ rfl).2
    rw [cancelled_append, hc, Bool.true_or]
  obtain ⟨-, ho⟩ | ⟨_, -, ho⟩ | ⟨rs, rfl, ho⟩ | ⟨-, ho⟩ | ⟨rfl, ho⟩ | ⟨rs, rfl, ho⟩ := exec_supervise hs
  · cases ho
  · cases ho
  · cases ho
    refine clean (cancelled_iff.2 ⟨.main, hin _ (by simp)⟩) (seen List.mem_cons_self fun g₁ h => ⟨rs, h⟩)
  · cases ho
  · cases ho
    exact .late hl (none_cancelled List.mem_cons_self) (hin _ (by simp))
  · cases ho
    refine clean (none_cancelled List.mem_cons_self) (seen (e := ⟨.timeout 5000 _, some rs⟩) (by simp)
      fun g₁ h => ⟨rs, h⟩)

end

/-- **What the exit code tells**, of both commands. -/
theorem exit_codes_tell :
    (∀ kernel (cfg : HostArgs) b u v code, ProcessRun (cfg.run kernel b) (u ++ v) →
      Exec (main (cfg.run kernel b)) (part .main u) (.done (.ok code)) →
        Exits (cfg.run kernel b) (HostArgs.Ready kernel cfg b) u v code) ∧
    ∀ fromSlice parseNetwork (cfg : EnclaveArgs) b u v code, ProcessRun (cfg.run fromSlice parseNetwork b) (u ++ v) →
      Exec (main (cfg.run fromSlice parseNetwork b)) (part .main u) (.done (.ok code)) →
        Exits (cfg.run fromSlice parseNetwork b) (EnclaveArgs.Ready fromSlice parseNetwork cfg b) u v code :=
  ⟨fun _ _ _ _ _ _ hrun hx => exits HostArgs.command hrun hx,
    fun _ _ _ _ _ _ _ hrun hx => exits EnclaveArgs.command hrun hx⟩

/-! ## A host that is told to stop while its services start -/

namespace Demo

def hostArgs : HostArgs where
  toCliHost := servingHost 443 0
  setupOnly := false
  ingressNetfilterQueueMaxLen := 1024
  egressVsockAddress := .vsock 3 9000
  egressIpv4SinkAddress := .inet [0, 0, 0, 0] 0

def backoff : ExponentialBackoff := ⟨none⟩

/-- The services of `hostArgs`. -/
def hostServices : Roster := hostArgs.roster backoff ⟨.vsock 3 4000, 4, backoff, record.encode⟩

abbrev hostRun : Proc Error (List Service) := hostArgs.run kernel backoff

/-- All services are there, and a signal comes. -/
def untilSignal : ProcTrace :=
  ((servingSetup 443 0).map kernelOps.event ++ hostServices.map spawnEvent).map (Prod.mk .main) ++
    [(.signal, ⟨.awaitSignal, .ok ()⟩), (.signal, ⟨.cancel, ()⟩)]

/-- A service finds it before its first attempt. -/
def stops (s : Service) : ProcTrace :=
  [(.service s, ⟨.sys .now, (0 : Nat)⟩), (.service s, ⟨.sys .isCancelled, true⟩), (.service s, ⟨.cancel, ()⟩)]

def afterSignal : ProcTrace :=
  (.main, ⟨.select [.bootstrap, .ingress, .egress], none⟩) :: (stops .bootstrap ++ stops .ingress ++ stops .egress)

theorem hostRun_spawns {s : Service} {w : Worker} (h : Spawned s w (untilSignal ++ afterSignal)) :
    (s, w) ∈ hostServices := by
  simpa [untilSignal, afterSignal, stops, servingSetup, spawnEvent, kernelOps, Embedding.event] using h

theorem hostRun_process : ProcessRun hostRun (untilSignal ++ afterSignal) where
  main := ⟨.asks (.timeout 5000 [.bootstrap, .ingress, .egress]), exec_of_script 100 (by decide +kernel)⟩
  signal := ⟨.done (.ok ()), exec_of_script 100 (by decide +kernel)⟩
  services s w hsp := by
    have hin := hostRun_spawns hsp
    simp only [hostServices, HostArgs.roster, List.mem_cons, List.not_mem_nil, or_false, Prod.mk.injEq] at hin
    obtain ⟨rfl, rfl⟩ | ⟨rfl, rfl⟩ | ⟨rfl, rfl⟩ := hin
    · exact ⟨.done (.err .glycerineShutdown), exec_of_script 100 (by decide +kernel)⟩
    · exact ⟨.done (.err .glycerineShutdown), exec_of_script 100 (by decide +kernel)⟩
    · exact ⟨.done (.err .glycerineShutdown), exec_of_script 100 (by decide +kernel)⟩
  shared := always_of_permitted (by decide +kernel)

theorem hostRun_goesOn :
    (∃ r, Exec (main hostRun) (part .main (untilSignal ++ afterSignal)) (.done r)) ∨
      ∃ x, ¬ External x ∧ ProcessRun hostRun (untilSignal ++ afterSignal ++ [x]) :=
  never_deadlocks.1 _ _ _ _ hostRun_process

theorem hostRun_launched :
    Launched hostRun (HostArgs.Ready kernel hostArgs backoff) hostServices (part .main untilSignal) [] where
  prepared := by
    refine ⟨(servingSetup 443 0).map kernelOps.event, ⟨rfl, ?_, by simp, _, rfl, rfl⟩, prepares_kernel, ?_, ?_⟩
    · rw [kernelPart_map]
      exact exec_of_script 100 (by decide +kernel)
    · rfl
    · exact exec_of_script 100 (by decide +kernel)
  supervises := ⟨.asks (.select [.bootstrap, .ingress, .egress]), exec_of_script 100 (by decide +kernel)⟩

/-- Then the main thread sees that all services have ended. -/
def seenEnds : Thread × ProcEvent :=
  (.main, ⟨.timeout 5000 [.bootstrap, .ingress, .egress],
    some [.err .glycerineShutdown, .err .glycerineShutdown, .err .glycerineShutdown]⟩)

theorem hostRun_ended {s : Service} (hs : s ∈ [Service.bootstrap, .ingress, .egress]) :
    Ended (untilSignal ++ afterSignal) s (.err .glycerineShutdown) := by
  simp only [List.mem_cons, List.not_mem_nil, or_false] at hs
  obtain rfl | rfl | rfl := hs
  · exact ⟨.bootstrap ⟨.vsock 3 4000, 4, backoff, record.encode⟩, by simp [untilSignal, hostServices, HostArgs.roster,
      spawnEvent], exec_of_script 100 (by decide +kernel)⟩
  · exact ⟨.nfqToVsock (hostArgs.ingress backoff), by simp [untilSignal, hostServices, HostArgs.roster, spawnEvent],
      exec_of_script 100 (by decide +kernel)⟩
  · exact ⟨.vsockToIpv4 (hostArgs.egress backoff 4), by simp [untilSignal, hostServices, HostArgs.roster, spawnEvent],
      exec_of_script 100 (by decide +kernel)⟩

theorem hostRun_returns : ProcessRun hostRun (untilSignal ++ afterSignal ++ [seenEnds]) :=
  extend_main HostArgs.command hostRun_process (exec_of_script 100 (by decide +kernel))
    (.cons (hostRun_ended (by simp)) (.cons (hostRun_ended (by simp)) (.cons (hostRun_ended (by simp)) .nil)))

theorem hostRun_exits : Exits hostRun (HostArgs.Ready kernel hostArgs backoff)
    (untilSignal ++ afterSignal ++ [seenEnds]) [] 0 := by
  refine exit_codes_tell.1 kernel hostArgs backoff _ [] 0 ?_ (exec_of_script 100 (by decide +kernel))
  rw [List.append_nil]
  exact hostRun_returns

end Demo

end Glycerine
