import Glycerine.Setup.System
/-
# Setups converge

What a part of the setup does to its component, as a triple about that component alone. The other parts do not
touch it (`CliEnclave.triple_component`).
-/

namespace Glycerine
open Interact Nftables Machine

variable {α : Type}

namespace CliEnclave

section
variable {parseNetwork : String → Option Ipv4Network} {cfg : CliEnclave} {bootstrap : Record} {a : Ipv4Network}
  {E : Env kernelSig} {I P Q : SetupHistory → Prop}

/-- Which part of the setup is about a component. -/
def stage : Component → Nat
  | .flags => 0
  | .addresses => 1
  | .routes => 2
  | .mtu => 3
  | .portRange => 4
  | .ruleset => 5

theorem stage_inj {c c' : Component} (h : stage c = stage c') : c = c' := by
  cases c <;> cases c' <;> first | rfl | cases h

/-- A part of the setup: before its turn comes the component is as it was, and it is as wanted afterwards. -/
theorem triple_stage {β : Type} {c c' : Component} {p : Setup Error β} (hp : Concerns c' p)
    (hP : ∀ c', c' ≠ c → Ignores c' P) (hQ : ∀ c', c' ≠ c → Ignores c' Q) (hI : ∀ h, P h → I h)
    (hI' : ∀ h, Q h → I h)
    (hpart : c' = c → Triple E I P p (Leaves I fun _ => Q)) :
    Triple E I (if stage c < stage c' then Q else P) p
      (Leaves I fun _ => if stage c < stage c' + 1 then Q else P) := by
  by_cases hc : c' = c
  · subst hc
    simpa using hpart rfl
  · have hne : stage c ≠ stage c' := fun h => hc (stage_inj h).symm
    by_cases hlt : stage c < stage c'
    · rw [if_pos hlt, if_pos (by omega)]
      exact hp.triple (hQ c' hc) hI'
    · rw [if_neg hlt, if_neg (by omega)]
      exact hp.triple (hP c' hc) hI

/-- A component other than the ruleset is changed by its part of the setup only. -/
theorem triple_component (c : Component) (hc : c ≠ .ruleset)
    (hparse : parseNetwork bootstrap.interface.ipv4NetworkAddress = some a)
    (hP : ∀ c', c' ≠ c → Ignores c' P) (hQ : ∀ c', c' ≠ c → Ignores c' Q) (hI : ∀ h, P h → I h)
    (hI' : ∀ h, Q h → I h)
    (hup : Component.flags = c → Triple E I P (bringInterfaceUp cfg.interface) (Leaves I fun _ => Q))
    (haddress : Component.addresses = c →
      Triple E I P (addIpv4InterfaceAddress cfg.interface a) (Leaves I fun _ => Q))
    (hroute : Component.routes = c → Triple E I P (ensureDefaultIpv4Route cfg.interface a) (Leaves I fun _ => Q))
    (hmtu : Component.mtu = c → Triple E I P (setMtu cfg.interface bootstrap.interface.mtu) (Leaves I fun _ => Q))
    (hports : Component.portRange = c → Triple E I P
      (setEphemeralPorts bootstrap.ports.ephemeral.from' bootstrap.ports.ephemeral.to') (Leaves I fun _ => Q)) :
    Triple E I P (cfg.setup parseNetwork bootstrap) (Leaves I fun _ => Q) := by
  have hlast : stage c < 5 := by cases c <;> first | decide | exact absurd rfl hc
  have hsink {protocol : Protocol} : Triple E I Q
      (addEgressNetfilterPacketsSink cfg.egressNetfilterQueueNum protocol a.ip bootstrap.ports.srcPorts)
        (Leaves I fun _ => Q) :=
    (concerns_addEgress _ _ _ _).triple (hQ .ruleset hc.symm) hI'
  have key : Triple E I _ (cfg.setup parseNetwork bootstrap) _ :=
    triple_setup (P := fun k => if stage c < k then Q else P)
    hparse (by simpa using hI)
    (triple_stage (concerns_bringInterfaceUp _) hP hQ hI hI' hup)
    (triple_stage (concerns_addIpv4InterfaceAddress _ _) hP hQ hI hI' haddress)
    (triple_stage (concerns_ensureDefaultIpv4Route _ _) hP hQ hI hI' hroute)
    (triple_stage (concerns_setMtu _ _) hP hQ hI hI' hmtu)
    (triple_stage (concerns_setEphemeralPorts _ _) hP hQ hI hI' hports)
    (by rw [if_pos hlast, if_pos (by omega)]; exact hsink)
      (by rw [if_pos (by omega), if_pos (by omega)]; exact hsink)
  rwa [if_neg (by omega), if_pos (by omega)] at key

end

end CliEnclave

/-! ## The interface -/

section
variable {K : Kernel} {σ : System α} {I P : SetupHistory → Prop} {c : Component}

/-- The request of an `ioctl` names the interface. -/
theorem triple_ifreqFor {E : Env kernelSig} {interface : String} (hP : Ignores c P) (hI : ∀ h, P h → I h) :
    Triple E I P (ifreqFor interface) (Leaves I fun req h => req = newIfreq interface.toUTF8.toList ∧ P h) := by
  refine Task.triple_seq _ (triple_check hI) fun b => triple_of_fact fun hb => ?_
  refine Task.triple_seq (fun _ => P) ((concerns_call (.inl rfl)).triple hP hI) fun _ => Task.triple_ret
    fun h hPh _ => ⟨?_, hPh⟩
  cases hs : cString interface with
  | ok b' =>
    rw [hs] at hb
    cases hb
    rw [cString_eq_ok hs]
  | error e =>
    rw [hs] at hb
    cases hb

/-- The index that netlink gives is that of the interface. -/
theorem triple_interfaceIndex {interface : String} (hP : Ignores c P) (hI : ∀ h, P h → I h) :
    Triple (K.unfiltered σ) I P (interfaceIndex interface) (Leaves I fun i h => K.index interface = some i ∧ P h) := by
  refine Task.triple_seq (fun r h => r = K.index interface ∧ P h)
    (Task.triple_mapErr (Task.triple_call (fun h hPh _ => hI h hPh) fun h r hPh hE => ?_)) fun r => ?_
  · have hP' : P (h ++ [⟨.linkByName interface, r⟩]) := hP h _ (.inl rfl) hPh
    cases r with
    | ok index => exact ⟨K.unfiltered_last hE, hP'⟩
    | error e => exact hI _ hP'
  · cases r with
    | some i => exact Task.triple_ret fun h hPh _ => ⟨hPh.1.symm, hPh.2⟩
    | none => exact Task.triple_fail fun h hPh _ => hI h hPh.2

/-- An operation that keeps the component. -/
theorem System.after_same {h : SetupHistory} {e : Event kernelSig} {x : c.State α} (hx : σ.after h c = x)
    (he : c.step x e = x) : σ.after (h ++ [e]) c = x := by rw [System.after_snoc, hx, he]

theorem or_IFF_UP {flags : UInt16} (h : flags &&& IFF_UP ≠ 0) : flags ||| IFF_UP = flags := by
  have hbit : flags.toNat % 2 = 1 := by
    have hne : (flags &&& IFF_UP).toNat ≠ 0 := fun h0 => h (UInt16.toNat_inj.1 h0)
    rw [UInt16.toNat_and, show IFF_UP.toNat = 1 from rfl, Nat.and_one_is_mod] at hne
    omega
  refine UInt16.toNat_inj.1 ?_
  rw [UInt16.toNat_or, show IFF_UP.toNat = 1 from rfl]
  refine Nat.eq_of_testBit_eq fun j => ?_
  rw [Nat.testBit_or]
  cases j with
  | zero => simp [Nat.testBit_zero, hbit]
  | succ j => simp [Nat.testBit_succ]

theorem triple_bringInterfaceUp {interface : String} (hI : ∀ h, σ.after h .flags = σ .flags → I h) :
    Triple (K.unfiltered σ) I (fun h => σ.after h .flags = σ .flags) (bringInterfaceUp interface)
      (Leaves I fun _ h => σ.after h .flags = Function.update (σ .flags) (newIfreq interface.toUTF8.toList)
        (σ .flags (newIfreq interface.toUTF8.toList) ||| IFF_UP)) := by
  have hign : Ignores .mtu fun h => σ.after h .flags = σ .flags := ignores_after (by decide) σ (· = σ .flags)
  refine Task.triple_seq _ (triple_ifreqFor hign hI) fun req => triple_of_fact fun hreq => ?_
  subst hreq
  refine Task.triple_seq
    (fun prev h => prev = σ .flags (newIfreq interface.toUTF8.toList) ∧ σ.after h .flags = σ .flags)
    (Task.triple_mapErr (Task.triple_call (fun h hP _ => hI h hP) fun h r hP hE => ?_)) fun prev => ?_
  · have hP' : σ.after (h ++ [⟨.getFlags (newIfreq interface.toUTF8.toList), r⟩]) .flags = σ .flags :=
      System.after_same hP rfl
    cases r with
    | ok flags =>
      have hflags : flags = σ.after h .flags (newIfreq interface.toUTF8.toList) := K.unfiltered_last hE
      exact ⟨by rw [hflags, hP], hP'⟩
    | error e => exact hI _ hP'
  refine triple_of_fact fun hprev => ?_
  subst hprev
  split
  · rename_i hup
    rw [or_IFF_UP hup, Function.update_eq_self]
    exact Task.triple_ret fun h hP _ => hP
  · refine Task.triple_seq (fun _ h => σ.after h .flags = _)
      (Task.triple_mapErr (Task.triple_call (fun h hP _ => hI h hP) fun h r hP _ => ?_))
        fun _ => Task.triple_ret fun h hP _ => hP
    cases r with
    | ok _ =>
      show σ.after _ .flags = _
      rw [System.after_snoc, hP]
      rfl
    | error e => exact hI _ (System.after_same hP rfl)

theorem triple_setMtu {interface : String} {mtu : Int32} (hI : ∀ h, σ.after h .mtu = σ .mtu → I h) :
    Triple (K.unfiltered σ) I (fun h => σ.after h .mtu = σ .mtu) (setMtu interface mtu)
      (Leaves I fun _ h => σ.after h .mtu = Function.update (σ .mtu) (newIfreq interface.toUTF8.toList) mtu) := by
  have hign : Ignores .flags fun h => σ.after h .mtu = σ .mtu := ignores_after (by decide) σ (· = σ .mtu)
  refine Task.triple_seq _ (triple_ifreqFor hign hI) fun req => triple_of_fact fun hreq => ?_
  subst hreq
  refine Task.triple_seq
    (fun prev h => prev = σ .mtu (newIfreq interface.toUTF8.toList) ∧ σ.after h .mtu = σ .mtu)
    (Task.triple_mapErr (Task.triple_call (fun h hP _ => hI h hP) fun h r hP hE => ?_)) fun prev => ?_
  · have hP' : σ.after (h ++ [⟨.getMtu (newIfreq interface.toUTF8.toList), r⟩]) .mtu = σ .mtu :=
      System.after_same hP rfl
    cases r with
    | ok n =>
      have hn : n = σ.after h .mtu (newIfreq interface.toUTF8.toList) := K.unfiltered_last hE
      exact ⟨by rw [hn, hP], hP'⟩
    | error e => exact hI _ hP'
  refine triple_of_fact fun hprev => ?_
  subst hprev
  split
  · rename_i hsame
    rw [hsame, Function.update_eq_self]
    exact Task.triple_ret fun h hP _ => hP
  · refine Task.triple_seq (fun _ h => σ.after h .mtu = _)
      (Task.triple_mapErr (Task.triple_call (fun h hP _ => hI h hP) fun h r hP _ => ?_))
        fun _ => Task.triple_ret fun h hP _ => hP
    cases r with
    | ok _ =>
      show σ.after _ .mtu = _
      rw [System.after_snoc, hP]
      rfl
    | error e => exact hI _ (System.after_same hP rfl)

theorem triple_addIpv4InterfaceAddress {interface : String} {address : Ipv4Network}
    (hI : ∀ h, σ.after h .addresses = σ .addresses → I h) :
    Triple (K.unfiltered σ) I (fun h => σ.after h .addresses = σ .addresses) (addIpv4InterfaceAddress interface address)
      (Leaves I fun _ h => ∃ i, K.index interface = some i ∧
        σ.after h .addresses = insert (i, address) (σ .addresses)) := by
  have hign : Ignores .flags fun h => σ.after h .addresses = σ .addresses :=
    ignores_after (by decide) σ (· = σ .addresses)
  refine Task.triple_seq (fun _ h => σ.after h .addresses = σ .addresses)
    ((concerns_call (.inl rfl)).triple hign hI) fun _ => ?_
  refine Task.triple_seq _ (triple_interfaceIndex hign hI) fun i => triple_of_fact fun hi => ?_
  refine Task.triple_seq (fun r h => (r = .ok () → σ.after h .addresses = insert (i, address) (σ .addresses)) ∧
      ∀ e, r = .error e → σ.after h .addresses = σ .addresses ∧
        (e = .netlink (some (-EEXIST)) → (i, address) ∈ σ .addresses))
    (Task.triple_attempt (Task.triple_call (fun h hP _ => hI h hP) fun h r hP hE => ?_)) fun r => ?_
  · cases r with
    | ok _ =>
      refine ⟨fun _ => ?_, nofun⟩
      rw [System.after_snoc, hP]
      rfl
    | error e =>
      refine ⟨nofun, fun e' he => ?_⟩
      cases he
      exact ⟨System.after_same hP rfl, fun he => hP ▸ K.unfiltered_last hE he⟩
  split
  · split
    · rename_i code hcode
      refine Task.triple_ret fun h hr _ => ⟨i, hi, ?_⟩
      obtain ⟨hsame, hmem⟩ := hr.2 _ rfl
      rw [hsame, Set.insert_eq_of_mem (hmem (by rw [hcode]))]
    · exact Task.triple_fail fun h hr _ => hI h (hr.2 _ rfl).1
  · exact Task.triple_fail fun h hr _ => hI h (hr.2 _ rfl).1
  · exact Task.triple_ret fun h hr _ => ⟨i, hi, hr.1 rfl⟩

theorem triple_setEphemeralPorts (range : UInt16 × UInt16) (hI : ∀ h, σ.after h .portRange = σ .portRange → I h) :
    Triple (K.unfiltered σ) I (fun h => σ.after h .portRange = σ .portRange) (setEphemeralPorts range.1 range.2)
      (Leaves I fun _ h => σ.after h .portRange = range) := by
  refine Task.triple_seq (fun s h => rangeOfText s = some (σ .portRange) ∧ σ.after h .portRange = σ .portRange)
    (Task.triple_mapErr (Task.triple_call (fun h hP _ => hI h hP) fun h r hP hE => ?_)) fun s => ?_
  · have hP' : σ.after (h ++ [⟨.readLocalPortRange, r⟩]) .portRange = σ .portRange := System.after_same hP rfl
    cases r with
    | ok contents => exact ⟨hP ▸ K.unfiltered_last hE, hP'⟩
    | error e => exact hI _ hP'
  refine triple_of_fact fun hs => ?_
  obtain ⟨hfrom, hto⟩ := rangePart_of_rangeOfText hs "missing start port" "missing end port"
  refine Task.triple_seq _ (triple_check hI) fun prevFrom => triple_of_fact fun h₁ => ?_
  refine Task.triple_seq _ (triple_check hI) fun prevTo => triple_of_fact fun h₂ => ?_
  rw [hfrom] at h₁
  rw [hto] at h₂
  cases h₁
  cases h₂
  split
  · rename_i hsame
    have hrange : σ .portRange = range := Prod.ext hsame.1.symm hsame.2.symm
    rw [hrange]
    exact Task.triple_ret fun h hP _ => hP
  · refine Task.triple_seq (fun _ h => σ.after h .portRange = range)
      (Task.triple_mapErr (Task.triple_call (fun h hP _ => hI h hP) fun h r hP _ => ?_))
        fun _ => Task.triple_ret fun h hP _ => hP
    cases r with
    | ok _ =>
      have htext : rangeOfText (toString range.1.toNat ++ " " ++ toString range.2.toNat ++ "\n") = some range :=
        rangeOfText_rangeText (c := ' ') rfl range
      show σ.after _ .portRange = range
      rw [System.after_snoc]
      show (rangeOfText _).getD _ = range
      rw [htext, Option.getD_some]
    | error e => exact hI _ (System.after_same hP rfl)

/-! ## Routes -/

/-- The loop deletes all default routes through the interface, and no other route. -/
theorem routes_of_deleted {interface : String} {i : Nat} {h : SetupHistory}
    (hd : Deleted interface (σ .routes) i h)
    (hE : (K.env σ).ok h) : routes (σ .routes) h = CliEnclave.kept i (σ .routes) := by
  ext route
  rw [hd.left]
  have hdoomed : route ∈ doomed h ↔ route ∈ listed h ∧ route.isMainDefault = true := by simp [doomed]
  constructor
  · rintro ⟨hr, hleft⟩
    exact ⟨hr, fun hboth => hleft (hdoomed.2 ⟨hd.whole route hr hboth.2, hboth.1⟩)⟩
  · rintro ⟨hr, hnot⟩
    refine ⟨hr, fun hmem => hnot ⟨(hdoomed.1 hmem).2, ?_⟩⟩
    obtain ⟨j, hj, hthrough⟩ := K.through_of_listed hE (hdoomed.1 hmem).1
    rwa [hd.once j hj] at hthrough

/-- At any time the setup wants the same of the routes as before. -/
theorem kept_of_spared {interface : String} {address : Ipv4Network} {i : Nat} {h : SetupHistory}
    (hi : K.index interface = some i) (hs : Spared interface address (σ .routes) h) (hE : (K.env σ).ok h) :
    insert (defaultRoute i address) (CliEnclave.kept i (σ.after h .routes)) =
      insert (defaultRoute i address) (CliEnclave.kept i (σ .routes)) := by
  have hindex : ∀ j, ⟨.linkByName interface, .ok (some j)⟩ ∈ h → j = i := by
    intro j hj
    have hindex := K.index_of_link (K.unfiltered_of_env hE) hj
    rw [hi] at hindex
    exact (Option.some.inj hindex).symm
  ext route
  by_cases hnew : route = defaultRoute i address
  · simp [hnew]
  by_cases hboth : route.isMainDefault = true ∧ route.outputInterface = some i
  · simp [CliEnclave.kept, hboth]
  have hspared : route ∉ doomed h := by
    intro hmem
    obtain ⟨hl, hmain⟩ : route ∈ listed h ∧ route.isMainDefault = true := by simpa [doomed] using hmem
    obtain ⟨j, hj, hthrough⟩ := K.through_of_listed hE hl
    rw [hindex j (hs.asked j hj)] at hthrough
    exact hboth ⟨hmain, hthrough⟩
  have hsame : route ∈ σ.after h .routes ↔ route ∈ σ .routes :=
    hs.same route hspared fun j hj => hindex j hj ▸ hnew
  simp [CliEnclave.kept, hsame]

theorem triple_ensureDefaultIpv4Route_wanted {interface : String} {address : Ipv4Network} {i : Nat}
    (hi : K.index interface = some i)
    (hI : ∀ h, insert (defaultRoute i address) (CliEnclave.kept i (σ.after h .routes)) =
      insert (defaultRoute i address) (CliEnclave.kept i (σ .routes)) → I h) :
    Triple (K.env σ) I (Untouched (σ .routes)) (ensureDefaultIpv4Route interface address)
      (Leaves I fun _ h => σ.after h .routes = insert (defaultRoute i address) (CliEnclave.kept i (σ .routes)) ∧
        K.accepts (CliEnclave.kept i (σ .routes)) (defaultRoute i address)) := by
  refine leaves_inv_mono
    (leaves_mono (triple_ensureDefaultIpv4Route.env_mono fun h hE => K.dumpsAll (K.unfiltered_of_env hE))
      fun _ h hE => ?_)
    fun h hE hs => hI h (kept_of_spared hi hs hE)
  rintro ⟨j, u, hd, rfl⟩
  have hEu : (K.env σ).ok u := (K.env σ).ok_of_append hE
  obtain rfl : j = i := by
    have hj := K.index_of_link (K.unfiltered_of_env hEu) hd.index
    rw [hi] at hj
    exact (Option.some.inj hj).symm
  have hkept : σ.after u .routes = CliEnclave.kept j (σ .routes) := routes_of_deleted hd hEu
  have haccepts : K.accepts (σ.after u .routes) (defaultRoute j address) :=
    K.unfiltered_last (K.unfiltered_of_env hE)
  rw [hkept] at haccepts
  refine ⟨?_, haccepts⟩
  rw [System.after_snoc, hkept]
  rfl

/-- The default route with the address is there, and is the only one through the interface. -/
structure HasDefault (i : Nat) (address : Ipv4Network) (R : Set Route) : Prop where
  added : defaultRoute i address ∈ R
  only : ∀ route ∈ R, route.isMainDefault = true → route.outputInterface = some i → route = defaultRoute i address

/-- So it is even if other interfaces lose theirs. -/
theorem triple_ensureDefaultIpv4Route_has {interface : String} {address : Ipv4Network} {i : Nat}
    (hi : K.index interface = some i) :
    Triple (K.unfiltered σ) (fun _ => True) (Untouched (σ .routes)) (ensureDefaultIpv4Route interface address)
      (Leaves (fun _ => True) fun _ h => HasDefault i address (σ.after h .routes)) := by
  refine leaves_inv_mono (leaves_mono (triple_ensureDefaultIpv4Route.env_mono fun h => K.dumpsAll) fun _ h hE => ?_)
    fun _ _ _ => trivial
  rintro ⟨j, u, hd, rfl⟩
  obtain rfl : j = i := by
    have hj := K.index_of_link ((K.unfiltered σ).ok_of_append hE) hd.index
    rw [hi] at hj
    exact (Option.some.inj hj).symm
  rw [System.after_snoc]
  refine ⟨Set.mem_insert _ _, fun route hr hmain hthrough => ?_⟩
  rcases hr with rfl | hr
  · rfl
  · have hleft : route ∈ σ .routes ∧ route ∉ doomed u := (hd.left route).1 hr
    have hlisted := hd.whole route hleft.1 hthrough
    exact absurd (by simp [doomed, hlisted, hmain]) hleft.2

theorem ignores_untouched {c' : Component} (hc : c' ≠ .routes) (R : Set Route) : Ignores c' (Untouched R) := by
  intro h e he hu
  obtain ⟨op, r⟩ := e
  cases op with
  | routeGet _ | routeNext | routeDel _ | routeAdd _ =>
    rcases he with he | he
    · cases he
    · cases he
      exact absurd rfl hc
  | _ => exact hu.other rfl rfl nofun

end

/-! ## Whole setups -/

namespace CliEnclave

/-- A setup wants the same of the component as before the history. -/
abbrev SameGoal (σ : System α) (cfg : CliEnclave) (bootstrap : Record) (a : Ipv4Network) (i : Nat) (c : Component)
    (h : SetupHistory) : Prop :=
  cfg.wanted bootstrap a i c (σ.after h c) = cfg.wanted bootstrap a i c (σ c)

section
variable {K : Kernel} {σ : System α} {parseNetwork : String → Option Ipv4Network} {cfg : CliEnclave}
    {bootstrap : Record}
  {a : Ipv4Network} {i : Nat}

/-- At any time of a setup, and after it has succeeded. -/
structure Converges (E : Env kernelSig) (σ : System α) (cfg : CliEnclave)
    (parseNetwork : String → Option Ipv4Network) (bootstrap : Record) (a : Ipv4Network) (i : Nat) (c : Component) :
    Prop where
  same : ∀ h o, Exec (cfg.setup parseNetwork bootstrap) h o → E.ok h → SameGoal σ cfg bootstrap a i c h
  reached : ∀ h, Exec (cfg.setup parseNetwork bootstrap) h (.done (.ok ())) → E.ok h →
    σ.after h c = cfg.wanted bootstrap a i c (σ c)

theorem sameGoal_of_reached {c : Component} {h : SetupHistory}
    (hQ : σ.after h c = cfg.wanted bootstrap a i c (σ c)) :
    SameGoal σ cfg bootstrap a i c h := by rw [SameGoal, hQ, wanted_idem]

theorem sameGoal_of_same {c : Component} {h : SetupHistory} (hP : σ.after h c = σ c) :
    SameGoal σ cfg bootstrap a i c h := by rw [SameGoal, hP]

theorem converges_of_triple {E : Env kernelSig} {c : Component} {P Q : SetupHistory → Prop}
    (hT : Triple E (SameGoal σ cfg bootstrap a i c) P (cfg.setup parseNetwork bootstrap)
      (Leaves (SameGoal σ cfg bootstrap a i c) fun _ => Q))
    (hP : P []) (hQ : ∀ h, Q h → σ.after h c = cfg.wanted bootstrap a i c (σ c)) :
    Converges E σ cfg parseNetwork bootstrap a i c where
  same _ _ hx hE := always_of_leaves hT hP (fun h hh => sameGoal_of_reached (hQ h hh)) hx hE
  reached _ hx hE := hQ _ (hT.returned hP hx hE)

/-- The route that a successful setup has added was accepted. -/
theorem triple_setup_routes (hparse : parseNetwork bootstrap.interface.ipv4NetworkAddress = some a)
    (hi : K.index cfg.interface = some i) :
    Triple (K.env σ) (SameGoal σ cfg bootstrap a i .routes) (Untouched (σ .routes))
      (cfg.setup parseNetwork bootstrap)
      (Leaves (SameGoal σ cfg bootstrap a i .routes) fun _ h => σ.after h .routes =
        cfg.wanted bootstrap a i .routes (σ .routes) ∧
        K.accepts (kept i (σ .routes)) (defaultRoute i a)) := by
  have hsame : ∀ h, Untouched (σ .routes) h → SameGoal σ cfg bootstrap a i .routes h :=
    fun h hu => sameGoal_of_same hu.same
  refine triple_component .routes nofun hparse (fun c' hc => ignores_untouched hc _) (fun c' hc => ?_) hsame
    (fun h hh => sameGoal_of_reached hh.1) nofun nofun (fun _ => ?_) nofun nofun
  · exact ignores_after hc σ fun R => R = cfg.wanted bootstrap a i .routes (σ .routes) ∧
      K.accepts (kept i (σ .routes)) (defaultRoute i a)
  · exact triple_ensureDefaultIpv4Route_wanted hi fun h hh => hh

/-- What becomes of the other components does not depend on which routes are listed. -/
theorem converges_unfiltered (hparse : parseNetwork bootstrap.interface.ipv4NetworkAddress = some a)
    (hi : K.index cfg.interface = some i) {c : Component} (hc : c ≠ .routes) :
    Converges (K.unfiltered σ) σ cfg parseNetwork bootstrap a i c := by
  have hP (c c' : Component) (hc : c' ≠ c) (x : c.State α) : Ignores c' fun h => σ.after h c = x :=
    ignores_after hc σ (· = x)
  cases c with
  | flags =>
    refine converges_of_triple (triple_component .flags nofun hparse (fun c' hc => hP .flags c' hc _)
      (fun c' hc => hP .flags c' hc _) (fun _ => sameGoal_of_same) (fun _ => sameGoal_of_reached) (fun _ => ?_)
      nofun nofun nofun nofun) rfl fun _ h => h
    exact triple_bringInterfaceUp fun _ => sameGoal_of_same
  | addresses =>
    refine converges_of_triple (triple_component .addresses nofun hparse (fun c' hc => hP .addresses c' hc _)
      (fun c' hc => hP .addresses c' hc _) (fun _ => sameGoal_of_same) (fun _ => sameGoal_of_reached) nofun
        (fun _ => ?_)
      nofun nofun nofun) rfl fun _ h => h
    refine leaves_mono (triple_addIpv4InterfaceAddress fun _ => sameGoal_of_same) fun _ h _ ⟨j, hj, hadded⟩ => ?_
    rw [hi] at hj
    cases hj
    exact hadded
  | routes => exact absurd rfl hc
  | mtu =>
    refine converges_of_triple (triple_component .mtu nofun hparse (fun c' hc => hP .mtu c' hc _)
      (fun c' hc => hP .mtu c' hc _) (fun _ => sameGoal_of_same) (fun _ => sameGoal_of_reached) nofun nofun nofun
      (fun _ => ?_) nofun) rfl fun _ h => h
    exact triple_setMtu fun _ => sameGoal_of_same
  | portRange =>
    refine converges_of_triple (triple_component .portRange nofun hparse (fun c' hc => hP .portRange c' hc _)
      (fun c' hc => hP .portRange c' hc _) (fun _ => sameGoal_of_same) (fun _ => sameGoal_of_reached) nofun
        nofun nofun
      nofun (fun _ => ?_)) rfl fun _ h => h
    exact triple_setEphemeralPorts bootstrap.ports.ephemeral.pair fun _ => sameGoal_of_same
  | ruleset =>
    refine converges_of_triple (triple_setup_ruleset cfg (σ .ruleset) hparse (fun h hr => ?_) fun h hr => ?_) rfl
      fun _ h => h
    · exact sameGoal_of_same (c := .ruleset) hr
    · show withSinks (ruleset (σ .ruleset) h) _ _ = withSinks (σ .ruleset) _ _
      rw [hr, withSinks, withSinks, Function.update_idem]

theorem converges (hparse : parseNetwork bootstrap.interface.ipv4NetworkAddress = some a)
    (hi : K.index cfg.interface = some i) (c : Component) : Converges (K.env σ) σ cfg parseNetwork bootstrap a i c := by
  by_cases hc : c = .routes
  · subst hc
    exact converges_of_triple (triple_setup_routes hparse hi) untouched_nil fun _ h => h.1
  · have hconv := converges_unfiltered (σ := σ) hparse hi hc
    exact ⟨fun h o hx hE => hconv.same h o hx (K.unfiltered_of_env hE),
      fun h hx hE => hconv.reached h hx (K.unfiltered_of_env hE)⟩

/-- After a setup that has succeeded. -/
theorem hasDefault_of_setup (hparse : parseNetwork bootstrap.interface.ipv4NetworkAddress = some a)
    (hi : K.index cfg.interface = some i) {h : SetupHistory}
    (hx : Exec (cfg.setup parseNetwork bootstrap) h (.done (.ok ()))) (hE : (K.unfiltered σ).ok h) :
    HasDefault i a (σ.after h .routes) := by
  have hT : Triple (K.unfiltered σ) (fun _ => True) (Untouched (σ .routes)) (cfg.setup parseNetwork bootstrap)
      (Leaves (fun _ => True) fun _ h => HasDefault i a (σ.after h .routes)) :=
    triple_component .routes nofun hparse (fun c' hc => ignores_untouched hc _)
      (fun c' hc => ignores_after hc σ (HasDefault i a)) (fun _ _ => trivial) (fun _ _ => trivial) nofun nofun
      (fun _ => triple_ensureDefaultIpv4Route_has hi) nofun nofun
  exact hT.returned untouched_nil hx hE

end

end CliEnclave
end Glycerine
