import Glycerine.Interact.Drive
import Glycerine.Setup.Converge
/-
# Setting up once more

What a kernel answers that does all it can do is `Kernel.Obliges`. Against it a setup that finds every component as
it wants it succeeds, and leaves it so (`CliEnclave.halts_setup`): of the operations that may change something it
only deletes and adds its route, and sends the batches of its sinks.
-/

namespace Glycerine
open Interact Nftables Machine

variable {α W : Type}

/-! ## Obliging kernels -/

/-- An answer where nothing stands against the operation; `dump` are the routes that are still to be listed. What
may have to be refused for other reasons is left open. -/
def Kernel.Obliges (K : Kernel) (σ : System α) (dump : List Route) : (op : KernelOp) → op.Res → Prop
  | .newConnection, r => r = .ok ()
  | .socket, r => r = .ok ()
  | .linkByName name, r => r = .ok (K.index name)
  | .getFlags name, r => r = .ok (σ .flags name)
  | .getMtu name, r => r = .ok (σ .mtu name)
  | .readLocalPortRange, r => ∃ contents, r = .ok contents ∧ rangeOfText contents = some (σ .portRange)
  | .addressAdd interface address, r =>
    (interface, address) ∈ σ .addresses → r = .error (.netlink (some (-EEXIST)))
  | .routeNext, r => r = .ok dump.head?
  | .routeDel route, r => route ∈ σ .routes → r = .ok ()
  | .routeAdd route, r => K.accepts (σ .routes) route → r = .ok ()
  | .sendBatch batch, r => (batch.apply (σ .ruleset)).isSome → r = .ok ()
  | .routeGet _, _ => True
  | .setFlags _ _, _ => True
  | .setMtu _ _, _ => True
  | .writeLocalPortRange _, _ => True

/-- The environment is an obliging kernel, whose states stand for systems. -/
structure Kernel.Serves (K : Kernel) (env : Handler kernelSig W) (state : W → System α)
    (dump : W → List Route) : Prop where
  answers : ∀ w op, ∃ r w', env w op = some (r, w') ∧ K.Obliges (state w) (dump w) op r ∧
    state w' = (state w).after [⟨op, r⟩]
  asked : ∀ w i r w', env w (.routeGet i) = some (r, w') → (dump w').Nodup ∧
    ∀ route, route ∈ dump w' ↔ route ∈ state w .routes ∧ route.outputInterface = some i
  next : ∀ w r w', env w .routeNext = some (r, w') → dump w' = (dump w).tail
  others : ∀ w op r w', env w op = some (r, w') → op ≠ .routeNext → (∀ i, op ≠ .routeGet i) → dump w' = dump w

/-- One operation on the system. -/
theorem System.after_none (σ : System α) {e : Event kernelSig} (he : e.1.component = none) : σ.after [e] = σ :=
  funext fun c => Component.step_other (σ c) (by simp [he])

theorem System.after_some (σ : System α) {e : Event kernelSig} {c : Component} (he : e.1.component = some c) :
    σ.after [e] = Function.update σ c (c.step (σ c) e) := by
  funext c'
  by_cases hc : c' = c
  · subst hc
    rw [Function.update_self]
    rfl
  · rw [Function.update_of_ne hc]
    exact Component.step_other (σ c') (by simpa [he] using fun h => hc h.symm)

/-- An operation that leaves its component as it is. -/
theorem System.after_unchanged (σ : System α) {e : Event kernelSig} {c : Component} (he : e.1.component = some c)
    (hstep : c.step (σ c) e = σ c) : σ.after [e] = σ := by rw [σ.after_some he, hstep, Function.update_eq_self]

/-- The task succeeds and leaves the system as it is. -/
def Repeats {β : Type} (env : Handler kernelSig W) (state : W → System α) (p : Setup Error β) (B : β → Prop)
    (w : W) : Prop :=
  ∃ b w', Halts env p w (.done (.ok b)) w' ∧ state w' = state w ∧ B b

section
variable {K : Kernel} {env : Handler kernelSig W} {state : W → System α} {dump : W → List Route}
    {β γ ε : Type} {w : W}

theorem Repeats.seq {p : Setup Error β} {f : β → Setup Error γ} {B : β → Prop} {C : γ → Prop}
    (hp : Repeats env state p B w)
    (hf : ∀ b w', B b → state w' = state w → Repeats env state (f b) C w') : Repeats env state (p >>= f) C w := by
  obtain ⟨b, w₁, hx, hsame, hb⟩ := hp
  obtain ⟨c, w', hy, hsame', hc⟩ := hf b w₁ hb hsame
  exact ⟨c, w', Task.halts_andThen hx hy, by rw [hsame', hsame], hc⟩

theorem repeats_ret {b : β} {B : β → Prop} (hb : B b) : Repeats env state (pure b) B w :=
  ⟨b, w, Task.halts_ret, rfl, hb⟩

theorem repeats_ofExcept {b : β} {x : Except Error β} (hx : x = .ok b) :
    Repeats env state (Task.ofExcept x) (b = ·) w := by
  subst hx
  exact ⟨b, w, halts_pure, rfl, rfl⟩

/-- An operation that succeeds and changes nothing. -/
theorem Kernel.Serves.repeats_call (hK : K.Serves env state dump) {op : kernelSig.Op}
    {k : kernelSig.Res op → Outcome ε β}
    {f : ε → Error} {B : β → Prop} (hk : ∀ r, K.Obliges (state w) (dump w) op r → ∃ b, k r = .ok b ∧ B b)
    (hsame : ∀ r, (state w).after [⟨op, r⟩] = state w) : Repeats env state ((Task.call op k).mapErr f) B w := by
  obtain ⟨r, w', henv, hr, hstate⟩ := hK.answers w op
  obtain ⟨b, hb, hB⟩ := hk r hr
  exact ⟨b, w', Task.halts_mapErr_ok (Task.halts_call henv hb), by rw [hstate, hsame], hB⟩

theorem repeats_interfaceIndex (hK : K.Serves env state dump) {interface : String} {i : Nat}
    (hi : K.index interface = some i) :
    Repeats env state (interfaceIndex interface) (i = ·) w := by
  refine Repeats.seq (B := (some i = ·))
    (hK.repeats_call (fun r hr => ⟨some i, ?_, rfl⟩) fun r => System.after_none _ rfl) ?_
  · rw [show r = .ok (K.index interface) from hr, hi]
    rfl
  · rintro _ w' rfl -
    exact repeats_ret rfl

theorem repeats_ifreqFor (hK : K.Serves env state dump) {interface : String} {b : Bytes}
    (hb : cString interface = .ok b) :
    Repeats env state (ifreqFor interface) (· = newIfreq interface.toUTF8.toList) w := by
  refine Repeats.seq (repeats_ofExcept (b := b) (by rw [hb]; rfl)) ?_
  rintro _ w₁ rfl -
  refine Repeats.seq (B := fun _ => True)
    (hK.repeats_call (fun r hr => ⟨(), ?_, trivial⟩) fun r => System.after_none _ rfl) ?_
  · rw [show r = .ok () from hr]
    rfl
  · rintro _ w₂ - -
    exact repeats_ret (by rw [cString_eq_ok hb])

/-- The interface is up. -/
theorem repeats_bringInterfaceUp (hK : K.Serves env state dump) {interface : String} {b : Bytes}
    (hb : cString interface = .ok b) (hup : state w .flags (newIfreq interface.toUTF8.toList) &&& IFF_UP ≠ 0) :
    Repeats env state (bringInterfaceUp interface) (fun _ => True) w := by
  refine Repeats.seq (repeats_ifreqFor hK hb) ?_
  rintro _ w₁ rfl hw₁
  refine Repeats.seq (B := fun flags => flags &&& IFF_UP ≠ 0)
    (hK.repeats_call (fun r hr => ⟨state w .flags (newIfreq interface.toUTF8.toList), ?_, hup⟩)
      fun r => System.after_unchanged _ rfl rfl) ?_
  · rw [show r = .ok (state w₁ .flags (newIfreq interface.toUTF8.toList)) from hr, hw₁]
    rfl
  · rintro flags w₂ hflags -
    rw [if_pos hflags]
    exact repeats_ret trivial

/-- The address is there. -/
theorem repeats_addIpv4InterfaceAddress (hK : K.Serves env state dump) {interface : String} {i : Nat}
    (hi : K.index interface = some i) {address : Ipv4Network} (hmem : (i, address) ∈ state w .addresses) :
    Repeats env state (addIpv4InterfaceAddress interface address) (fun _ => True) w := by
  refine Repeats.seq (B := fun _ => True)
    (hK.repeats_call (fun r hr => ⟨(), ?_, trivial⟩) fun r => System.after_none _ rfl) ?_
  · rw [show r = .ok () from hr]
    rfl
  rintro _ w₁ - hw₁
  refine Repeats.seq (repeats_interfaceIndex hK hi) ?_
  rintro _ w₂ rfl hw₂
  obtain ⟨r, w₃, henv, hr, hstate⟩ := hK.answers w₂ (.addressAdd i address)
  obtain rfl : r = .error (.netlink (some (-EEXIST))) := hr (by rw [hw₂, hw₁]; exact hmem)
  have hadd : Repeats env state (Task.attempt (addressAdd i address)) (· = .error (.netlink (some (-EEXIST))))
      w₂ := by
    refine ⟨_, w₃, Task.halts_attempt_err (Task.halts_call henv rfl), ?_, rfl⟩
    rw [hstate]
    exact System.after_unchanged _ rfl rfl
  refine Repeats.seq hadd ?_
  rintro _ w₄ rfl -
  exact repeats_ret trivial

/-- The MTU is the one that is wanted. -/
theorem repeats_setMtu (hK : K.Serves env state dump) {interface : String} {b : Bytes}
    (hb : cString interface = .ok b)
    {mtu : Int32} (hmtu : state w .mtu (newIfreq interface.toUTF8.toList) = mtu) :
    Repeats env state (setMtu interface mtu) (fun _ => True) w := by
  refine Repeats.seq (repeats_ifreqFor hK hb) ?_
  rintro _ w₁ rfl hw₁
  refine Repeats.seq (B := (mtu = ·))
    (hK.repeats_call (fun r hr => ⟨mtu, ?_, rfl⟩) fun r => System.after_unchanged _ rfl rfl) ?_
  · rw [show r = .ok (state w₁ .mtu (newIfreq interface.toUTF8.toList)) from hr, hw₁, hmtu]
    rfl
  · rintro _ w₂ rfl -
    rw [if_pos rfl]
    exact repeats_ret trivial

/-- So are the ephemeral ports. -/
theorem repeats_setEphemeralPorts (hK : K.Serves env state dump) (range : UInt16 × UInt16)
    (hrange : state w .portRange = range) :
    Repeats env state (setEphemeralPorts range.1 range.2) (fun _ => True) w := by
  refine Repeats.seq (B := fun contents => rangeOfText contents = some range)
    (hK.repeats_call (fun r hr => ?_) fun r => System.after_unchanged _ rfl rfl) ?_
  · obtain ⟨contents, rfl, hcontents⟩ := hr
    exact ⟨contents, rfl, by rw [hcontents, hrange]⟩
  rintro contents w₁ hcontents -
  obtain ⟨hfrom, hto⟩ := rangePart_of_rangeOfText hcontents "missing start port" "missing end port"
  refine Repeats.seq (repeats_ofExcept hfrom) ?_
  rintro _ w₂ rfl -
  refine Repeats.seq (repeats_ofExcept hto) ?_
  rintro _ w₃ rfl -
  rw [if_pos ⟨rfl, rfl⟩]
  exact repeats_ret trivial

/-- The loop deletes what it is to delete of the routes that are still to be listed. -/
theorem halts_deleteLoop (hK : K.Serves env state dump) {l : List Route} (hl : dump w = l) (hnodup : l.Nodup)
    (hthere : ∀ route ∈ l, route ∈ state w .routes) :
    ∃ w', Halts env (Task.loop (fun _ => deleteStep) ()) w (.done (.ok ())) w' ∧ state w' =
      Function.update (state w) .routes
        {route ∈ state w .routes | ¬ (route ∈ l ∧ route.isMainDefault = true)} := by
  induction l generalizing w with
  | nil =>
    obtain ⟨r, w₁, henv, hr, hstate⟩ := hK.answers w .routeNext
    obtain rfl : r = .ok none := by rw [show r = .ok (dump w).head? from hr, hl]; rfl
    refine ⟨w₁, Task.halts_loop_stop
      (Task.halts_andThen (Task.halts_mapErr_ok (Task.halts_call henv rfl)) Task.halts_ret), ?_⟩
    rw [hstate, System.after_unchanged _ rfl rfl]
    simp
  | cons route l ih =>
    obtain ⟨hnot, hnodup⟩ := List.nodup_cons.1 hnodup
    obtain ⟨r, w₁, henv, hr, hstate⟩ := hK.answers w .routeNext
    obtain rfl : r = .ok (some route) := by rw [show r = .ok (dump w).head? from hr, hl]; rfl
    have hl₁ : dump w₁ = l := by rw [hK.next w _ w₁ henv, hl, List.tail_cons]
    rw [System.after_unchanged _ rfl rfl] at hstate
    have hnext : Halts env (routeNext.mapErr Error.rtnetlink) w (.done (.ok (some route))) w₁ :=
      Task.halts_mapErr_ok (Task.halts_call henv rfl)
    by_cases hmain : route.isMainDefault = true
    · obtain ⟨r, w₂, henv₂, hr, hstate₂⟩ := hK.answers w₁ (.routeDel route)
      obtain rfl : r = .ok () := hr (by rw [hstate]; exact hthere route (by simp))
      rw [System.after_some _ rfl, hstate] at hstate₂
      have hroutes : state w₂ .routes = state w .routes \ {route} := by
        rw [hstate₂, Function.update_self]
        rfl
      have hl₂ : dump w₂ = l := by rw [hK.others w₁ _ _ w₂ henv₂ nofun nofun, hl₁]
      obtain ⟨w', hx, hw'⟩ := ih hl₂ hnodup fun r hr => by
        rw [hroutes]
        exact ⟨hthere r (by simp [hr]), fun h => hnot (h ▸ hr)⟩
      refine ⟨w', Task.halts_loop_next (Task.halts_andThen hnext ?_) hx, ?_⟩
      · simp only [hmain, Bool.not_true, Bool.false_eq_true, if_false]
        exact Task.halts_andThen (Task.halts_mapErr_ok (Task.halts_call henv₂ rfl)) Task.halts_ret
      · rw [hw', hroutes, hstate₂, Function.update_idem]
        congr 1
        ext r
        by_cases h : r = route <;> simp [h, hmain]
    · obtain ⟨w', hx, hw'⟩ := ih hl₁ hnodup fun r hr => by
        rw [hstate]
        exact hthere r (by simp [hr])
      refine ⟨w', Task.halts_loop_next (Task.halts_andThen hnext ?_) hx, ?_⟩
      · simp only [hmain, Bool.not_false, if_true]
        exact Task.halts_ret
      · rw [hw', hstate]
        congr 1
        ext r
        by_cases h : r = route <;> simp [h, hmain]

/-- The default route is deleted and added again. -/
theorem repeats_ensureDefaultIpv4Route (hK : K.Serves env state dump) {interface : String} {i : Nat}
    (hi : K.index interface = some i) {address : Ipv4Network}
    (hroutes : insert (defaultRoute i address) (CliEnclave.kept i (state w .routes)) = state w .routes)
    (haccepts : K.accepts (CliEnclave.kept i (state w .routes)) (defaultRoute i address)) :
    Repeats env state (ensureDefaultIpv4Route interface address) (fun _ => True) w := by
  refine Repeats.seq (B := fun _ => True)
    (hK.repeats_call (fun r hr => ⟨(), ?_, trivial⟩) fun r => System.after_none _ rfl) ?_
  · rw [show r = .ok () from hr]
    rfl
  rintro _ w₁ - hw₁
  refine Repeats.seq (repeats_interfaceIndex hK hi) ?_
  rintro _ w₂ rfl hw₂
  rw [← hw₁, ← hw₂] at hroutes haccepts
  obtain ⟨_, w₃, hget, -, hstate₃⟩ := hK.answers w₂ (.routeGet i)
  rw [System.after_unchanged _ rfl rfl] at hstate₃
  obtain ⟨hnodup, hdump⟩ := hK.asked w₂ i _ w₃ hget
  obtain ⟨w₄, hloop, hstate₄⟩ := halts_deleteLoop hK rfl hnodup fun route hr => by
    rw [hstate₃]
    exact ((hdump route).1 hr).1
  have hleft : state w₄ .routes = CliEnclave.kept i (state w₂ .routes) := by
    rw [hstate₄, Function.update_self, hstate₃]
    ext route
    simp only [Set.mem_ofPred_eq, hdump, CliEnclave.kept]
    tauto
  obtain ⟨r, w₅, hadd, hr, hstate₅⟩ := hK.answers w₄ (.routeAdd (defaultRoute i address))
  obtain rfl : r = .ok () := hr (by rw [hleft]; exact haccepts)
  refine ⟨(), w₅, Task.halts_andThen (Task.halts_call hget rfl) (Task.halts_andThen hloop
    (Task.halts_mapErr_ok (Task.halts_call hadd rfl))), ?_, trivial⟩
  rw [hstate₅, System.after_some _ rfl]
  show Function.update (state w₄) .routes (insert _ (state w₄ .routes)) = state w₂
  rw [hleft, hroutes, hstate₄, hstate₃, Function.update_idem, Function.update_eq_self]

/-- The sink is there. -/
theorem repeats_addEgress (hK : K.Serves env state dump) {queueNum : UInt16} {protocol : Protocol}
    {srcAddress : Ipv4Addr}
    {ranges : List (UInt16 × UInt16)} {table : String} {b : Bytes}
    (htable : tableName queueNum protocol = .ok table)
    (hb : cString table = .ok b)
    (hsame : Function.update (state w .ruleset) table
      (some (sinkTable (egressChain queueNum protocol srcAddress ranges))) =
      state w .ruleset) :
    Repeats env state (addEgressNetfilterPacketsSink queueNum protocol srcAddress ranges) (fun _ => True) w := by
  refine Repeats.seq (repeats_ofExcept htable) ?_
  rintro _ w₁ rfl hw₁
  refine Repeats.seq (repeats_ofExcept hb) ?_
  rintro _ w₂ rfl hw₂
  rw [← hw₁, ← hw₂] at hsame
  have hbatch : (egressBatch queueNum table protocol srcAddress ranges).apply (state w₂ .ruleset) =
      some (state w₂ .ruleset) := by
    rw [apply_egressBatch, hsame]
  have hsend : Repeats env state
    ((sendAndProcess (egressBatch queueNum table protocol srcAddress ranges)).mapErr .ioNftnl)
      (fun _ => True) w₂ := by
    refine hK.repeats_call (fun r hr => ⟨(), ?_, trivial⟩) fun r => System.after_unchanged _ rfl ?_
    · rw [show r = .ok () from hr (by rw [hbatch]; rfl)]
      rfl
    · cases r with
      | ok _ =>
        show (Batch.apply _ _).getD _ = _
        rw [hbatch, Option.getD_some]
      | error e => rfl
  refine Repeats.seq hsend ?_
  rintro _ w₄ - -
  exact repeats_ret trivial

end

/-! ## Whole setups -/

namespace CliEnclave

/-- What a setup computes without an operation succeeds. -/
structure Checked (parseNetwork : String → Option Ipv4Network) (cfg : CliEnclave) (bootstrap : Record)
    (a : Ipv4Network) :
    Prop where
  parsed : parseNetwork bootstrap.interface.ipv4NetworkAddress = some a
  interface : ∃ b, cString cfg.interface = .ok b
  tcp : ∃ b, cString (tcpTable cfg.egressNetfilterQueueNum) = .ok b
  udp : ∃ b, cString (udpTable cfg.egressNetfilterQueueNum) = .ok b

/-- Everything is as the setup wants it. -/
structure Settled (K : Kernel) (cfg : CliEnclave) (bootstrap : Record) (a : Ipv4Network) (i : Nat)
    (σ : System α) : Prop where
  wanted : ∀ c, cfg.wanted bootstrap a i c (σ c) = σ c
  accepts : K.accepts (kept i (σ .routes)) (defaultRoute i a)

section
variable {K : Kernel} {env : Handler kernelSig W} {state : W → System α} {dump : W → List Route} {w : W}
  {parseNetwork : String → Option Ipv4Network} {cfg : CliEnclave} {bootstrap : Record} {a : Ipv4Network} {i : Nat}

theorem checked_of_setup {h : SetupHistory} (hx : Exec (cfg.setup parseNetwork bootstrap) h (.done (.ok ()))) :
    ∃ a, Checked parseNetwork cfg bootstrap a := by
  obtain ⟨a, hparsed⟩ := parsed_of_setup hx
  obtain ⟨_, _, _, -, -, hx⟩ := Task.exec_andThen_ok hx
  obtain ⟨_, _, _, -, hup, hx⟩ := Task.exec_andThen_ok hx
  obtain ⟨_, _, _, -, -, hx⟩ := Task.exec_andThen_ok hx
  obtain ⟨_, _, _, -, -, hx⟩ := Task.exec_andThen_ok hx
  obtain ⟨_, _, _, -, -, hx⟩ := Task.exec_andThen_ok hx
  obtain ⟨_, _, _, -, -, hx⟩ := Task.exec_andThen_ok hx
  obtain ⟨_, _, _, -, htcp, hx⟩ := Task.exec_andThen_ok hx
  obtain ⟨_, _, _, -, hudp, -⟩ := Task.exec_andThen_ok hx
  refine ⟨a, hparsed, ?_, ?_, ?_⟩
  · obtain ⟨_, _, _, -, hreq, -⟩ := Task.exec_andThen_ok hup
    obtain ⟨b, _, _, -, hb, -⟩ := Task.exec_andThen_ok hreq
    have key := Task.exec_ofExcept_ok hb
    cases hs : cString cfg.interface with
    | ok b => exact ⟨b, rfl⟩
    | error e =>
      rw [hs] at key
      cases key
  · obtain ⟨table, _, _, -, ht, hx⟩ := Task.exec_andThen_ok htcp
    obtain ⟨b, _, _, -, hb, -⟩ := Task.exec_andThen_ok hx
    cases Task.exec_ofExcept_ok ht
    exact ⟨b, Task.exec_ofExcept_ok hb⟩
  · obtain ⟨table, _, _, -, ht, hx⟩ := Task.exec_andThen_ok hudp
    obtain ⟨b, _, _, -, hb, -⟩ := Task.exec_andThen_ok hx
    cases Task.exec_ofExcept_ok ht
    exact ⟨b, Task.exec_ofExcept_ok hb⟩

theorem Settled.up {σ : System α} (hσ : Settled K cfg bootstrap a i σ) : σ .flags cfg.ifrName &&& IFF_UP ≠ 0 := by
  have hflags : σ .flags cfg.ifrName ||| IFF_UP = σ .flags cfg.ifrName := by
    have key := congrFun (hσ.wanted .flags) cfg.ifrName
    simpa [CliEnclave.wanted] using key
  rw [← hflags]
  intro h0
  have hbit := congrArg (fun n => n.toNat.testBit 0) h0
  simp [IFF_UP] at hbit

theorem Settled.mtu {σ : System α} (hσ : Settled K cfg bootstrap a i σ) :
    σ .mtu cfg.ifrName = bootstrap.interface.mtu := by
  have key := congrFun (hσ.wanted .mtu) cfg.ifrName
  simpa [CliEnclave.wanted] using key.symm

theorem Settled.address {σ : System α} (hσ : Settled K cfg bootstrap a i σ) : (i, a) ∈ σ .addresses := by
  rw [← hσ.wanted .addresses]
  exact Set.mem_insert _ _

theorem Settled.tables {σ : System α} (hσ : Settled K cfg bootstrap a i σ) :
    σ .ruleset (tcpTable cfg.egressNetfilterQueueNum) = some (sinkTable (cfg.chain bootstrap a .TCP)) ∧
      σ .ruleset (udpTable cfg.egressNetfilterQueueNum) = some (sinkTable (cfg.chain bootstrap a .UDP)) := by
  have key := hσ.wanted .ruleset
  constructor
  · rw [← key]
    exact withSinks_tcp
  · rw [← key]
    exact withSinks_udp

/-- A system that is as the setup wants it stays so, and the setup succeeds. -/
theorem repeats_setup (hK : K.Serves env state dump) (hi : K.index cfg.interface = some i)
    (hc : Checked parseNetwork cfg bootstrap a) (hσ : Settled K cfg bootstrap a i (state w)) :
    Repeats env state (cfg.setup parseNetwork bootstrap) (fun _ => True) w := by
  obtain ⟨b, hb⟩ := hc.interface
  obtain ⟨btcp, htcp⟩ := hc.tcp
  obtain ⟨budp, hudp⟩ := hc.udp
  refine Repeats.seq (repeats_ofExcept (b := a) (by rw [hc.parsed]; rfl)) ?_
  rintro _ w₀ rfl h₀
  rw [← h₀] at hσ
  refine Repeats.seq (repeats_bringInterfaceUp hK hb hσ.up) ?_
  rintro _ w₁ - h₁
  rw [← h₁] at hσ
  refine Repeats.seq (repeats_addIpv4InterfaceAddress hK hi hσ.address) ?_
  rintro _ w₂ - h₂
  rw [← h₂] at hσ
  refine Repeats.seq (repeats_ensureDefaultIpv4Route hK hi (hσ.wanted .routes) hσ.accepts) ?_
  rintro _ w₃ - h₃
  rw [← h₃] at hσ
  refine Repeats.seq (repeats_setMtu hK hb hσ.mtu) ?_
  rintro _ w₄ - h₄
  rw [← h₄] at hσ
  refine Repeats.seq (repeats_setEphemeralPorts hK bootstrap.ports.ephemeral.pair (hσ.wanted .portRange).symm) ?_
  rintro _ w₅ - h₅
  rw [← h₅] at hσ
  have hsame {table : String} {chain : Chain} {rs : Ruleset α} (h : rs table = some (sinkTable chain)) :
      Function.update rs table (some (sinkTable chain)) = rs := by rw [← h, Function.update_eq_self]
  refine Repeats.seq (repeats_addEgress hK rfl htcp (hsame hσ.tables.1)) ?_
  rintro _ w₆ - h₆
  rw [← h₆] at hσ
  refine Repeats.seq (repeats_addEgress hK rfl hudp (hsame hσ.tables.2)) ?_
  rintro _ w₇ - -
  exact repeats_ret trivial

end

end CliEnclave
end Glycerine
