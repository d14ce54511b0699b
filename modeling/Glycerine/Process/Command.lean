import Glycerine.Process.Run
import Glycerine.Services.Reactive
/-
# The two commands

`run` of the host and of the enclave first prepare what the services need, and only then spawn them, one after the
other. `Ready t ws` says what the preparations `t` have to be for the services `ws` to be spawned.

| here | there |
| --- | --- |
| `HostArgs.Ready`, `EnclaveArgs.Ready` | `host.rs:31-39`, `enclave.rs:43-77` |
-/

namespace Glycerine
open Interact

/-- The services of a process, in the order in which they are spawned. -/
abbrev Roster := List (Service × Worker)

def spawnEvent (x : Service × Worker) : ProcEvent := ⟨.spawnBlocking x.1 x.2, ()⟩

/-- An operation of `get` or of a setup. -/
def Prepares : ProcOp → Prop
  | .sys _ | .kernel _ => True
  | _ => False

/-- An operation of `run`. -/
def Launches : ProcOp → Prop
  | .sys _ | .kernel _ | .spawnBlocking _ _ => True
  | _ => False

/-- What the commands have in common. -/
structure Command (run : Proc Error (List Service)) (Ready : Trace procSig → Roster → Prop) : Prop where
  only : Only Launches run
  /-- it is still preparing, or it has failed before it has spawned a service, or it spawns them all -/
  exec : ∀ {t o}, Exec run t o →
    ((∀ e ∈ t, Prepares e.1) ∧ ∀ tasks, o ≠ .done (.ok tasks)) ∨
      ∃ t₁ ws n, Ready t₁ ws ∧ (∀ e ∈ t₁, Prepares e.1) ∧ t = t₁ ++ (ws.map spawnEvent).take n ∧
        ∀ r, o = .done r → ws.length ≤ n ∧ r = .ok (ws.map Prod.fst)
  reactive : Reactive run
  nodup : ∀ {t ws}, Ready t ws → (ws.map Prod.fst).Nodup
  /-- one of the services is a sender -/
  sender : ∀ {t ws}, Ready t ws → ∃ s proxy, (s, .nfqToVsock proxy) ∈ ws

/-! ## Rules -/

section
variable {t : Trace procSig} {h : History} {k : SetupHistory}

theorem prepares_sys : ∀ e ∈ h.map sysOps.event, Prepares e.1 := by
  intro e he
  obtain ⟨x, -, rfl⟩ := List.mem_map.1 he
  trivial

theorem prepares_kernel : ∀ e ∈ k.map kernelOps.event, Prepares e.1 := by
  intro e he
  obtain ⟨x, -, rfl⟩ := List.mem_map.1 he
  trivial

/-- A value that is computed. -/
theorem exec_ofOutcome {ε α β : Type} {x : Outcome ε β} {f : β → Proc ε α} {o : Status procSig (Outcome ε α)}
    (hx : Exec (ofOutcome x >>= f : Proc ε α) t o) :
    (t = [] ∧ (∃ r, o = .done r ∧ ∀ a, r ≠ .ok a) ∧ ∀ b, x ≠ .ok b) ∨ ∃ b, x = .ok b ∧ Exec (f b) t o := by
  obtain ⟨op, rfl, hp⟩ | ⟨r, t₁, t₂, rfl, hp, hf⟩ := exec_bind.1 hx
  · cases (exec_pure.1 hp).2
  obtain ⟨rfl, hr⟩ := exec_pure.1 hp
  cases hr
  cases x with
  | ok b => exact .inr ⟨b, rfl, hf⟩
  | err e =>
    obtain ⟨rfl, rfl⟩ := exec_pure.1 hf
    exact .inl ⟨rfl, ⟨_, rfl, nofun⟩, nofun⟩
  | panic =>
    obtain ⟨rfl, rfl⟩ := exec_pure.1 hf
    exact .inl ⟨rfl, ⟨_, rfl, nofun⟩, nofun⟩

/-- Without a condition. -/
theorem only_true {S : Sig} {α : Type} {A : S.Op → Prop} (hA : ∀ op, A op) : ∀ p : Prog S α, Only A p := by
  intro p
  induction p with
  | pure a => trivial
  | call op k => exact hA op
  | bind p f ihp ihf => exact ⟨ihp, ihf⟩
  | loop body s ih => exact ih

theorem only_ofSys {ε α : Type} {A : ProcOp → Prop} (hA : ∀ op, A (.sys op)) (p : Sys ε α) : Only A (ofSys p) :=
  only_embed (only_true hA p)

theorem only_ofSetup {ε α : Type} {A : ProcOp → Prop} (hA : ∀ op, A (.kernel op)) (p : Setup ε α) :
    Only A (ofSetup p) := only_embed (only_true hA p)

/-- Some of the services `ws` have been spawned, and `tasks` is only returned when all have. -/
def Spawning (tasks : List Service) (ws : Roster) (t : Trace procSig)
    (o : Status procSig (Outcome Error (List Service))) : Prop :=
  ∃ n, t = (ws.map spawnEvent).take n ∧ ∀ r, o = .done r → ws.length ≤ n ∧ r = .ok tasks

theorem spawning_nil {tasks : List Service} {o : Status procSig (Outcome Error (List Service))}
    (hx : Exec (pure tasks : Proc Error (List Service)) t o) : Spawning tasks [] t o := by
  obtain ⟨rfl, rfl⟩ := Task.exec_ret hx
  refine ⟨0, rfl, fun r hr => ?_⟩
  cases hr
  exact ⟨Nat.le_refl _, rfl⟩

theorem spawning_cons {tasks : List Service} {s : Service} {w : Worker} {ws : Roster}
    {f : Unit → Proc Error (List Service)} {o : Status procSig (Outcome Error (List Service))}
    (hx : Exec (spawnBlocking s w >>= f : Proc Error (List Service)) t o)
    (hf : ∀ t', Exec (f ()) t' o → Spawning tasks ws t' o) : Spawning tasks ((s, w) :: ws) t o := by
  obtain ⟨op, rfl, hp⟩ | ⟨r, t₁, t₂, rfl, hp, hrest⟩ := exec_bind.1 hx
  · obtain ⟨rfl, -⟩ | ⟨_, -, ho⟩ := exec_call.1 hp
    · exact ⟨0, rfl, nofun⟩
    · cases ho
  · obtain ⟨-, ho⟩ | ⟨_, rfl, hr⟩ := exec_call.1 hp
    · cases ho
    cases hr
    obtain ⟨n, rfl, hdone⟩ := hf _ hrest
    refine ⟨n + 1, rfl, fun r hr => ?_⟩
    obtain ⟨hn, hr'⟩ := hdone r hr
    exact ⟨Nat.succ_le_succ hn, hr'⟩

end

/-! ## The host -/

namespace HostArgs
variable {kernel : Interfaces} {cfg : HostArgs} {b : ExponentialBackoff}

/-- The services of the host. -/
def roster (cfg : HostArgs) (b : ExponentialBackoff) (server : Bootstrap) : Roster :=
  [(.bootstrap, .bootstrap server), (.ingress, .nfqToVsock (cfg.ingress b)),
    (.egress, .vsockToIpv4 (cfg.egress b server.peerCid))]

/-- The setup has succeeded, and there is a record to serve. -/
structure Ready (kernel : Interfaces) (cfg : HostArgs) (b : ExponentialBackoff) (t : Trace procSig) (ws : Roster) :
    Prop where
  serves : cfg.setupOnly = false
  setup : Exec cfg.setup (kernelPart t) (.done (.ok ()))
  quiet : sysPart t = []
  roster : ∃ server, Bootstrap.new kernel cfg.toCliHost b = .ok server ∧ ws = cfg.roster b server

theorem expectCid_of_new {server : Bootstrap} (h : Bootstrap.new kernel cfg.toCliHost b = .ok server) :
    expectCid cfg.ingressVsockAddress = .ok server.peerCid := by
  unfold Bootstrap.new at h
  unfold expectCid
  split at h
  · cases h
  · split at h
    · cases h
    · rename_i hcid
      cases h
      rw [hcid]
      rfl

theorem exec_run {t : Trace procSig} {o : Status procSig (Outcome Error (List Service))}
    (hx : Exec (cfg.run kernel b) t o) :
    ((∀ e ∈ t, Prepares e.1) ∧ ∀ tasks, o ≠ .done (.ok tasks)) ∨
      ∃ t₁ ws n, Ready kernel cfg b t₁ ws ∧ (∀ e ∈ t₁, Prepares e.1) ∧ t = t₁ ++ (ws.map spawnEvent).take n ∧
        ∀ r, o = .done r → ws.length ≤ n ∧ r = .ok (ws.map Prod.fst) := by
  obtain ⟨h, rfl, ho⟩ | ⟨h, _, t₂, rfl, hsetup, hf⟩ := Task.exec_embed_andThen hx
  · exact .inl ⟨prepares_kernel, ho⟩
  cases hs : cfg.setupOnly with
  | true =>
    rw [hs] at hf
    obtain ⟨rfl, rfl⟩ := Task.exec_fail hf
    exact .inl ⟨by simpa using prepares_kernel, nofun⟩
  | false =>
    rw [hs] at hf
    obtain ⟨rfl, ⟨r, rfl, hr⟩, -⟩ | ⟨server, hnew, hf⟩ := exec_ofOutcome hf
    · refine .inl ⟨by simpa using prepares_kernel, fun tasks htasks => ?_⟩
      cases htasks
      exact hr _ rfl
    have hall : Spawning [.bootstrap, .ingress, .egress] (cfg.roster b server) t₂ o := by
      refine spawning_cons hf fun _ hf => spawning_cons hf fun _ hf => ?_
      obtain ⟨-, -, hbad⟩ | ⟨peerCid, hcid, hf⟩ := exec_ofOutcome hf
      · exact absurd (expectCid_of_new hnew) (hbad _)
      · rw [expectCid_of_new hnew] at hcid
        cases hcid
        exact spawning_cons hf fun _ hf => spawning_nil hf
    obtain ⟨n, rfl, hdone⟩ := hall
    have hready : Ready kernel cfg b (h.map kernelOps.event) (cfg.roster b server) :=
      ⟨hs, by simpa using hsetup, by simp, server, hnew, rfl⟩
    exact .inr ⟨_, _, n, hready, prepares_kernel, rfl, hdone⟩

theorem run_reactive : Reactive (cfg.run kernel b) := by
  refine Task.reactive_andThen CliHost.setup_reactive.embed fun _ => ?_
  split
  · exact Task.reactive_fail
  refine Task.reactive_andThen reactive_pure fun server => ?_
  refine Task.reactive_andThen Task.reactive_call fun _ => Task.reactive_andThen Task.reactive_call fun _ => ?_
  refine Task.reactive_andThen reactive_pure fun peerCid => ?_
  exact Task.reactive_andThen Task.reactive_call fun _ => Task.reactive_ret

theorem only_run : Only Launches (cfg.run kernel b) := by
  refine Task.only_bind.2 ⟨only_ofSetup (fun _ => trivial) _, fun _ => ?_⟩
  split
  · trivial
  refine Task.only_bind.2 ⟨trivial, fun server => Task.only_bind.2 ⟨trivial, fun _ => ?_⟩⟩
  refine Task.only_bind.2 ⟨trivial, fun _ => Task.only_bind.2 ⟨trivial, fun peerCid => ?_⟩⟩
  exact Task.only_bind.2 ⟨trivial, fun _ => trivial⟩

theorem command : Command (cfg.run kernel b) (Ready kernel cfg b) where
  only := only_run
  exec := exec_run
  reactive := run_reactive
  nodup := by
    rintro t ws ⟨-, -, -, server, -, rfl⟩
    show [Service.bootstrap, .ingress, .egress].Nodup
    decide
  sender := by
    rintro t ws ⟨-, -, -, server, -, rfl⟩
    exact ⟨.ingress, cfg.ingress b, by simp [roster]⟩

end HostArgs

/-! ## The enclave -/

namespace EnclaveArgs
variable {fromSlice : Bytes → Option Record} {parseNetwork : String → Option Ipv4Network} {cfg : EnclaveArgs}
  {b : ExponentialBackoff}

def roster (cfg : EnclaveArgs) (b : ExponentialBackoff) (address : Ipv4Network) (peerCid : Nat) : Roster :=
  [(.ingress, .vsockToIpv4 (cfg.ingress b address peerCid)), (.egress, .nfqToVsock (cfg.egress b))]

/-- The record of the host was fetched, and the setup has succeeded with it. -/
structure Ready (fromSlice : Bytes → Option Record) (parseNetwork : String → Option Ipv4Network) (cfg : EnclaveArgs)
    (b : ExponentialBackoff) (t : Trace procSig) (ws : Roster) : Prop where
  serves : cfg.setupOnly = false
  prepared : ∃ h k r a peerCid, t = h.map sysOps.event ++ k.map kernelOps.event ∧
    Exec (Bootstrap.get fromSlice cfg.bootstrapVsockAddress b) h (.done (.ok r)) ∧
    Exec (cfg.setup parseNetwork r) k (.done (.ok ())) ∧ parseNetwork r.interface.ipv4NetworkAddress = some a ∧
    expectCid cfg.egressVsockAddress = .ok peerCid ∧ ws = cfg.roster b a peerCid

theorem exec_run {t : Trace procSig} {o : Status procSig (Outcome Error (List Service))}
    (hx : Exec (cfg.run fromSlice parseNetwork b) t o) :
    ((∀ e ∈ t, Prepares e.1) ∧ ∀ tasks, o ≠ .done (.ok tasks)) ∨
      ∃ t₁ ws n, Ready fromSlice parseNetwork cfg b t₁ ws ∧ (∀ e ∈ t₁, Prepares e.1) ∧
        t = t₁ ++ (ws.map spawnEvent).take n ∧ ∀ r, o = .done r → ws.length ≤ n ∧ r = .ok (ws.map Prod.fst) := by
  obtain ⟨h, rfl, ho⟩ | ⟨h, r, t₂, rfl, hget, hf⟩ := Task.exec_embed_andThen hx
  · exact .inl ⟨prepares_sys, ho⟩
  have hprep {k : SetupHistory} : ∀ e ∈ h.map sysOps.event ++ k.map kernelOps.event, Prepares e.1 := by
    intro e he
    exact (List.mem_append.1 he).elim (prepares_sys e) (prepares_kernel e)
  obtain ⟨k, rfl, ho⟩ | ⟨k, _, t₄, rfl, hsetup, hrest⟩ := Task.exec_embed_andThen hf
  · exact .inl ⟨hprep, ho⟩
  cases hs : cfg.setupOnly with
  | true =>
    rw [hs] at hrest
    obtain ⟨rfl, rfl⟩ := Task.exec_fail hrest
    exact .inl ⟨by simpa using hprep (k := k), nofun⟩
  | false =>
    rw [hs] at hrest
    obtain ⟨a, ha⟩ := CliEnclave.parsed_of_setup hsetup
    rw [ha] at hrest
    obtain ⟨-, -, hbad⟩ | ⟨a', ha', hrest⟩ := exec_ofOutcome hrest
    · exact absurd rfl (hbad a)
    cases ha'
    obtain ⟨rfl, ⟨res, rfl, hres⟩, -⟩ | ⟨peerCid, hcid, hrest⟩ := exec_ofOutcome hrest
    · refine .inl ⟨by simpa using hprep (k := k), fun tasks htasks => ?_⟩
      cases htasks
      exact hres _ rfl
    obtain ⟨n, rfl, hdone⟩ : Spawning [.ingress, .egress] (cfg.roster b a peerCid) t₄ o :=
      spawning_cons hrest fun _ hf => spawning_cons hf fun _ hf => spawning_nil hf
    have hready : Ready fromSlice parseNetwork cfg b (h.map sysOps.event ++ k.map kernelOps.event)
        (cfg.roster b a peerCid) := ⟨hs, h, k, r, a, peerCid, rfl, hget, hsetup, ha, hcid, rfl⟩
    exact .inr ⟨_, _, n, hready, hprep, (List.append_assoc ..).symm, hdone⟩

theorem run_reactive : Reactive (cfg.run fromSlice parseNetwork b) := by
  refine Task.reactive_andThen Bootstrap.get_reactive.embed fun r => ?_
  refine Task.reactive_andThen CliEnclave.setup_reactive.embed fun _ => ?_
  split
  · exact Task.reactive_fail
  refine Task.reactive_andThen Task.reactive_ofExcept fun a => Task.reactive_andThen reactive_pure fun peerCid => ?_
  refine Task.reactive_andThen Task.reactive_call fun _ => ?_
  exact Task.reactive_andThen Task.reactive_call fun _ => Task.reactive_ret

theorem only_run : Only Launches (cfg.run fromSlice parseNetwork b) := by
  refine Task.only_bind.2 ⟨only_ofSys (fun _ => trivial) _, fun r => ?_⟩
  refine Task.only_bind.2 ⟨only_ofSetup (fun _ => trivial) _, fun _ => ?_⟩
  split
  · trivial
  refine Task.only_bind.2 ⟨trivial, fun a => Task.only_bind.2 ⟨trivial, fun peerCid => ?_⟩⟩
  exact Task.only_bind.2 ⟨trivial, fun _ => Task.only_bind.2 ⟨trivial, fun _ => trivial⟩⟩

theorem command : Command (cfg.run fromSlice parseNetwork b) (Ready fromSlice parseNetwork cfg b) where
  only := only_run
  exec := exec_run
  reactive := run_reactive
  nodup := by
    rintro t ws ⟨-, _, _, _, _, _, -, -, -, -, -, rfl⟩
    show [Service.ingress, .egress].Nodup
    decide
  sender := by
    rintro t ws ⟨-, _, _, _, _, _, -, -, -, -, -, rfl⟩
    exact ⟨.egress, cfg.egress b, by simp [roster]⟩

end EnclaveArgs
end Glycerine
