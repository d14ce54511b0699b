import Mathlib.Data.List.Dedup
import Glycerine.Setup.Again
import Glycerine.Setup.Flows
/-
# Restarted setups

The proxy is started again after it has failed, and then does its setup again, from whatever the attempts before
have left. Whatever they were and wherever they stopped, the setup that succeeds ends where a single one would have
ended, and one more changes nothing: `CliEnclave.setup_converges`.
-/

namespace Glycerine
open Interact Nftables Machine

variable {α : Type}

/-- Runs of `p` one after the other, each as far as it came. -/
def Kernel.Attempts (K : Kernel) (p : Setup Error Unit) : System α → List SetupHistory → Prop
  | _, [] => True
  | σ, h :: hs => (∃ o, Exec p h o) ∧ (K.env σ).ok h ∧ K.Attempts p (σ.after h) hs

namespace CliEnclave

section
variable {K : Kernel} {σ : System α} {parseNetwork : String → Option Ipv4Network} {cfg : CliEnclave}
    {bootstrap : Record}
  {a : Ipv4Network} {i : Nat}

/-- What is wanted of a component does not change. -/
theorem wanted_of_attempts (hparse : parseNetwork bootstrap.interface.ipv4NetworkAddress = some a)
    (hi : K.index cfg.interface = some i) {hs : List SetupHistory}
    (ha : K.Attempts (cfg.setup parseNetwork bootstrap) σ hs)
    (c : Component) : SameGoal σ cfg bootstrap a i c hs.flatten := by
  induction hs generalizing σ with
  | nil => rfl
  | cons h hs ih =>
    obtain ⟨⟨o, hx⟩, hE, ha⟩ := ha
    rw [SameGoal, List.flatten_cons, System.after_append]
    exact (ih ha).trans ((converges hparse hi c).same h o hx hE)

theorem index_of_setup {h : SetupHistory} (hx : Exec (cfg.setup parseNetwork bootstrap) h (.done (.ok ())))
    (hE : (K.unfiltered σ).ok h) : ∃ i, K.index cfg.interface = some i := by
  obtain ⟨a, hparse⟩ := parsed_of_setup hx
  have hignores (c : Component) (P : Prop) : Ignores c fun _ => P := fun _ _ _ hP => hP
  have hT : Triple (K.unfiltered σ) (fun _ => True) (fun h => σ.after h .addresses = σ .addresses)
    (cfg.setup parseNetwork bootstrap)
      (Leaves (fun _ => True) fun _ _ => ∃ i, K.index cfg.interface = some i) := by
    refine triple_component .addresses nofun hparse (fun c' hc => ignores_after hc σ (· = σ .addresses))
      (fun c' _ => hignores c' _) (fun _ _ => trivial) (fun _ _ => trivial) nofun (fun _ => ?_) nofun nofun nofun
    exact leaves_mono (triple_addIpv4InterfaceAddress fun _ _ => trivial) fun _ h _ ⟨i, hi, _⟩ => ⟨i, hi⟩
  exact hT.returned rfl hx hE

/-- A setup that has succeeded leaves everything as it wants it. -/
theorem settled_of_setup (hparse : parseNetwork bootstrap.interface.ipv4NetworkAddress = some a)
    (hi : K.index cfg.interface = some i) {h : SetupHistory}
    (hx : Exec (cfg.setup parseNetwork bootstrap) h (.done (.ok ()))) (hE : (K.env σ).ok h) :
    Settled K cfg bootstrap a i (σ.after h) where
  wanted c := by rw [(converges hparse hi c).reached h hx hE, wanted_idem]
  accepts := by
    obtain ⟨hroutes, haccepts⟩ := (triple_setup_routes hparse hi).returned untouched_nil hx hE
    rw [hroutes]
    show K.accepts (kept i (insert _ _)) _
    rwa [kept_insert_kept]

/-- **After any attempts, a setup that succeeds ends where a single one ends; once more, it succeeds and changes
nothing.** -/
theorem setup_converges {earlier : List SetupHistory} {later single : SetupHistory}
    (hearlier : K.Attempts (cfg.setup parseNetwork bootstrap) σ earlier)
    (hlater : Exec (cfg.setup parseNetwork bootstrap) later (.done (.ok ())))
    (hlaterE : (K.env (σ.after earlier.flatten)).ok later)
    (hsingle : Exec (cfg.setup parseNetwork bootstrap) single (.done (.ok ()))) (hsingleE : (K.env σ).ok single) :
    (σ.after earlier.flatten).after later = σ.after single ∧
      ∀ {W : Type} (env : Handler kernelSig W) (state : W → System α)
        (dump : W → List Route), K.Serves env state dump →
        ∀ w, state w = σ.after single →
          ∃ w', Halts env (cfg.setup parseNetwork bootstrap) w
            (.done (.ok ())) w' ∧ state w' = σ.after single := by
  obtain ⟨a, hc⟩ := checked_of_setup hsingle
  obtain ⟨i, hi⟩ := index_of_setup hsingle (K.unfiltered_of_env hsingleE)
  constructor
  · funext c
    rw [(converges hc.parsed hi c).reached later hlater hlaterE, wanted_of_attempts hc.parsed hi hearlier c,
      (converges hc.parsed hi c).reached single hsingle hsingleE]
  · intro W env state dump hK w hw
    have hσ := settled_of_setup hc.parsed hi hsingle hsingleE
    rw [← hw] at hσ
    obtain ⟨_, w', hx, hsame, -⟩ := repeats_setup hK hi hc hσ
    exact ⟨w', hx, by rw [hsame, hw]⟩

end

end CliEnclave

/-! A kernel with one interface, and a setup that stops before its new route is added -/

namespace Demo

/-- The kernel's state, with the routes that it still has to list. -/
structure Memory where
  flags : Bytes → UInt16
  mtu : Bytes → Int32
  addresses : List (Nat × Ipv4Network)
  routes : List Route
  portRange : UInt16 × UInt16
  ruleset : Ruleset Unit
  dump : List Route

def Memory.system (m : Memory) : System Unit
  | .flags => m.flags
  | .addresses => {x | x ∈ m.addresses}
  | .routes => {route | route ∈ m.routes}
  | .mtu => m.mtu
  | .portRange => m.portRange
  | .ruleset => m.ruleset

/-- A route is not added twice. -/
def oneInterface : Kernel := ⟨fun name => if name = "ens5" then some 2 else none, fun R route => route ∉ R⟩

def alreadyThere : RtnetlinkError := .netlink (some (-EEXIST))
def notThere : RtnetlinkError := .netlink (some (-3))

def serve : Handler kernelSig Memory
  | m, .newConnection => some (.ok (), m)
  | m, .socket => some (.ok (), m)
  | m, .linkByName name => some (.ok (oneInterface.index name), m)
  | m, .getFlags name => some (.ok (m.flags name), m)
  | m, .setFlags name flags => some (.ok (), { m with flags := Function.update m.flags name flags })
  | m, .getMtu name => some (.ok (m.mtu name), m)
  | m, .setMtu name mtu => some (.ok (), { m with mtu := Function.update m.mtu name mtu })
  | m, .readLocalPortRange => some (.ok (rangeText "\t" m.portRange), m)
  | m, .writeLocalPortRange contents =>
    some (.ok (), { m with portRange := (rangeOfText contents).getD m.portRange })
  | m, .addressAdd interface address =>
    if (interface, address) ∈ m.addresses then some (.error alreadyThere, m)
    else some (.ok (), { m with addresses := (interface, address) :: m.addresses })
  | m, .routeGet i => some ((), { m with dump := (m.routes.filter (·.outputInterface = some i)).dedup })
  | m, .routeNext => some (.ok m.dump.head?, { m with dump := m.dump.tail })
  | m, .routeDel route =>
    if route ∈ m.routes then some (.ok (),
      { m with routes := m.routes.filter (· ≠ route) }) else some (.error notThere, m)
  | m, .routeAdd route =>
    if route ∈ m.routes then some (.error alreadyThere, m) else some (.ok (),
      { m with routes := route :: m.routes })
  | m, .sendBatch batch =>
    match batch.apply m.ruleset with
    | some rs => some (.ok (), { m with ruleset := rs })
    | none => some (.error (.os 22), m)

theorem serve_serves : oneInterface.Serves serve Memory.system Memory.dump where
  answers m op := by
    cases op with
    | newConnection | socket | linkByName name | getFlags name | getMtu name | routeNext =>
      exact ⟨_, _, rfl, rfl, funext fun c => by cases c <;> rfl⟩
    | readLocalPortRange =>
      exact ⟨_, _, rfl, ⟨_, rfl, rangeOfText_rangeText (c := '\t') rfl m.portRange⟩,
        funext fun c => by cases c <;> rfl⟩
    | setFlags name flags | setMtu name mtu | writeLocalPortRange contents | routeGet i =>
      exact ⟨_, _, rfl, trivial, funext fun c => by cases c <;> rfl⟩
    | addressAdd interface address =>
      by_cases h : (interface, address) ∈ m.addresses
      · exact ⟨_, _, if_pos h, fun _ => rfl, funext fun c => by cases c <;> rfl⟩
      · refine ⟨_, _, if_neg h, fun hmem => absurd hmem h, funext fun c => ?_⟩
        cases c with
        | addresses =>
          ext x
          simp [Memory.system, System.after, Component.step, addressesStep]
        | _ => rfl
    | routeDel route =>
      by_cases h : route ∈ m.routes
      · refine ⟨_, _, if_pos h, fun _ => rfl, funext fun c => ?_⟩
        cases c with
        | routes =>
          ext x
          simp [Memory.system, System.after, Component.step, routesStep]
        | _ => rfl
      · exact ⟨_, _, if_neg h, fun hmem => absurd hmem h, funext fun c => by cases c <;> rfl⟩
    | routeAdd route =>
      by_cases h : route ∈ m.routes
      · exact ⟨_, _, if_pos h, fun hnot => absurd h hnot, funext fun c => by cases c <;> rfl⟩
      · refine ⟨_, _, if_neg h, fun _ => rfl, funext fun c => ?_⟩
        cases c with
        | routes =>
          ext x
          simp [Memory.system, System.after, Component.step, routesStep]
        | _ => rfl
    | sendBatch batch =>
      cases hb : batch.apply m.ruleset with
      | none =>
        refine ⟨.error (.os 22), m, by rw [serve, hb], fun h => ?_, funext fun c => by cases c <;> rfl⟩
        rw [show m.system .ruleset = m.ruleset from rfl, hb] at h
        cases h
      | some rs =>
        refine ⟨.ok (), { m with ruleset := rs }, by rw [serve, hb], fun _ => rfl, funext fun c => ?_⟩
        cases c with
        | ruleset =>
          show rs = (batch.apply m.ruleset).getD m.ruleset
          rw [hb, Option.getD_some]
        | _ => rfl
  asked m i r m' h := by
    cases h
    exact ⟨List.nodup_dedup _, fun route => by simp [Memory.system]⟩
  next m r m' h := by
    cases h
    rfl
  others m op r m' h hnext hget := by
    cases op with
    | routeNext => exact absurd rfl hnext
    | routeGet i => exact absurd rfl (hget i)
    | addressAdd _ _ | routeDel _ | routeAdd _ | sendBatch _ =>
      simp only [serve] at h
      split at h <;> (cases h; rfl)
    | _ =>
      cases h
      rfl

/-- The interface is down, and there is another default route. -/
def initial : Memory :=
  ⟨fun _ => 0, fun _ => 9001, [], [defaultThrough 2, connectedRoute], (32768, 60999), noTables, []⟩

def ens5 : Bytes := [101, 110, 115, 53]

def interfaceUp : SetupHistory := [⟨.socket, .ok ()⟩, ⟨.getFlags ens5, .ok 0⟩, ⟨.setFlags ens5 1, .ok ()⟩]

/-- The old default route is deleted, and the answer to the request for the new one is `added`. -/
def routeReplaced (added : Except RtnetlinkError Unit) : SetupHistory :=
  [⟨.newConnection, .ok ()⟩, ⟨.linkByName "ens5", .ok (some 2)⟩, ⟨.addressAdd 2 address, .ok ()⟩,
    ⟨.newConnection, .ok ()⟩, ⟨.linkByName "ens5", .ok (some 2)⟩, ⟨.routeGet 2, ()⟩,
    ⟨.routeNext, .ok (some (defaultThrough 2))⟩, ⟨.routeDel (defaultThrough 2), .ok ()⟩,
    ⟨.routeNext, .ok (some connectedRoute)⟩, ⟨.routeNext, .ok none⟩, ⟨.routeAdd (defaultRoute 2 address), added⟩]

/-- What comes after the route. -/
def portsCaptured : SetupHistory :=
  [⟨.socket, .ok ()⟩, ⟨.getMtu ens5, .ok 9001⟩, ⟨.setMtu ens5 1500, .ok ()⟩,
    ⟨.readLocalPortRange, .ok "32768\t60999\n"⟩, ⟨.writeLocalPortRange "50000 50000\n", .ok ()⟩,
    ⟨.sendBatch (egressBatch 2 (tcpTable 2) .TCP address.ip [(443, 443), (50000, 50000)]), .ok ()⟩,
    ⟨.sendBatch (egressBatch 2 (udpTable 2) .UDP address.ip [(443, 443), (50000, 50000)]), .ok ()⟩]

def stopped : SetupHistory := interfaceUp ++ routeReplaced (.error (.other "interrupted"))

/-- After `stopped` the interface is up, the address is there, and there is no default route. -/
def resumed : SetupHistory :=
  [⟨.socket, .ok ()⟩, ⟨.getFlags ens5, .ok 1⟩, ⟨.newConnection, .ok ()⟩, ⟨.linkByName "ens5", .ok (some 2)⟩,
    ⟨.addressAdd 2 address, .error alreadyThere⟩, ⟨.newConnection, .ok ()⟩,
      ⟨.linkByName "ens5", .ok (some 2)⟩, ⟨.routeGet 2, ()⟩,
    ⟨.routeNext, .ok (some connectedRoute)⟩, ⟨.routeNext, .ok none⟩, ⟨.routeAdd (defaultRoute 2 address), .ok ()⟩] ++
    portsCaptured

def straight : SetupHistory := interfaceUp ++ routeReplaced (.ok ()) ++ portsCaptured

theorem stopped_exec :
    Exec (enclave.setup parseNetwork record) stopped (.done (.err (.rtnetlink (.other "interrupted")))) :=
  exec_of_script 100 (by decide +kernel)

theorem resumed_exec : Exec (enclave.setup parseNetwork record) resumed (.done (.ok ())) :=
  exec_of_script 100 (by decide +kernel)

theorem straight_exec : Exec (enclave.setup parseNetwork record) straight (.done (.ok ())) :=
  exec_of_script 100 (by decide +kernel)

theorem straight_truthful : (oneInterface.env initial.system).ok straight := by
  refine throughout_append (u := []) throughout_nil
    ⟨trivial, rfl, trivial, trivial, rfl, trivial, trivial, rfl, trivial,
    ⟨2, by simp, rfl⟩, trivial, ⟨2, by simp, rfl⟩, ?_, ?_, trivial, rfl, trivial, ?_, trivial, trivial,
      trivial, trivial⟩
  · intro i _ route hr _
    simpa [listed, initial, Memory.system] using hr
  · simp [Kernel.Truthful, oneInterface, System.after, Component.step, routesStep, initial, Memory.system]
    decide
  · exact rangeOfText_rangeText (c := '\t') rfl (32768, 60999)

theorem stopped_truthful : (oneInterface.env initial.system).ok stopped := by
  refine throughout_append (u := []) throughout_nil
    ⟨trivial, rfl, trivial, trivial, rfl, trivial, trivial, rfl, trivial,
    ⟨2, by simp, rfl⟩, trivial, ⟨2, by simp, rfl⟩, ?_, trivial, trivial⟩
  intro i _ route hr _
  simpa [listed, initial, Memory.system] using hr

theorem resumed_truthful : (oneInterface.env (initial.system.after stopped)).ok resumed := by
  have hroutes : initial.system.after stopped .routes = {connectedRoute} := by
    show ({route | route ∈ [defaultThrough 2, connectedRoute]} \ {defaultThrough 2} : Set Route) =
      {connectedRoute}
    ext route
    by_cases h : route = defaultThrough 2
    · subst h
      simp
      decide
    · simp [h]
  refine throughout_append (u := []) throughout_nil
    ⟨trivial, rfl, trivial, rfl, fun _ => .inl rfl, trivial, rfl, trivial,
    ⟨2, by simp, rfl⟩, ?_, ?_, trivial, rfl, trivial, ?_, trivial, trivial, trivial, trivial⟩
  · intro i _ route hr _
    rw [hroutes] at hr
    simpa [listed] using hr
  · show defaultRoute 2 address ∉ initial.system.after stopped .routes
    rw [hroutes]
    decide
  · exact rangeOfText_rangeText (c := '\t') rfl (32768, 60999)

/-- The kernel after a setup. -/
def done : Memory :=
  ⟨initial.system.after straight .flags, initial.system.after straight .mtu, [(2, address)],
    [defaultRoute 2 address, connectedRoute], initial.system.after straight .portRange,
    initial.system.after straight .ruleset, []⟩

theorem done_system : done.system = initial.system.after straight := by
  funext c
  cases c with
  | addresses =>
    show {x | x ∈ [(2, address)]} = insert (2, address) {x | x ∈ ([] : List (Nat × Ipv4Network))}
    ext x
    simp
  | routes =>
    show {route | route ∈ [defaultRoute 2 address, connectedRoute]} =
      insert (defaultRoute 2 address) ({route | route ∈ [defaultThrough 2, connectedRoute]} \ {defaultThrough 2})
    ext route
    by_cases h : route = defaultThrough 2
    · subst h
      simp
      decide
    · simp [h]
  | _ => rfl

theorem resumed_converges :
    (initial.system.after [stopped].flatten).after resumed = initial.system.after straight ∧
      ∃ m, Halts serve (enclave.setup parseNetwork record) done
        (.done (.ok ())) m ∧ m.system = initial.system.after straight := by
  have hattempts : oneInterface.Attempts (enclave.setup parseNetwork record) initial.system [stopped] :=
    ⟨⟨_, stopped_exec⟩, stopped_truthful, trivial⟩
  have key := CliEnclave.setup_converges hattempts resumed_exec resumed_truthful straight_exec straight_truthful
  exact ⟨key.1, key.2 serve Memory.system Memory.dump serve_serves done done_system⟩

end Demo
end Glycerine
