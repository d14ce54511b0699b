import Mathlib.Data.List.Basic
import Mathlib.Data.Set.Insert
import Glycerine.Interact.Machine
import Glycerine.Setup.Interface
/-
# The default route

`ensure_default_ipv4_route` deletes what it finds in the answer to its request for the routes of one interface. It
looks at the table and the prefix of a route, but not at its interface, and so it relies on the kernel to list no
other: `default_replaced_iff`.
-/

namespace Glycerine
open Interact Machine

/-! ## Routing tables -/

def routesStep (R : Set Route) : Event kernelSig → Set Route
  | ⟨.routeDel route, .ok ()⟩ => R \ {route}
  | ⟨.routeAdd route, .ok ()⟩ => insert route R
  | _ => R

/-- The routes after a history that began with `R`. -/
def routes (R : Set Route) (h : SetupHistory) : Set Route := h.foldl routesStep R

theorem routes_snoc (R : Set Route) (h : SetupHistory) (e : Event kernelSig) :
    routes R (h ++ [e]) = routesStep (routes R h) e := List.foldl_append

/-- What dumps have listed. -/
def listed : SetupHistory → List Route :=
  List.flatMap fun
    | ⟨.routeNext, .ok (some route)⟩ => [route]
    | _ => []

@[simp] theorem listed_append (h t : SetupHistory) : listed (h ++ t) = listed h ++ listed t := List.flatMap_append

/-- A dump ends only after all the routes of the interface that was asked for; others may be among them. -/
def DumpsAll (R : Set Route) (h : SetupHistory) : Prop :=
  ∀ u i v, h = u ++ ⟨.routeNext, .ok none⟩ :: v → ⟨.routeGet i, ()⟩ ∈ u →
    ∀ route ∈ R, route.outputInterface = some i → route ∈ listed u

theorem DumpsAll.of_append {R : Set Route} {h t : SetupHistory} (hd : DumpsAll R (h ++ t)) : DumpsAll R h :=
  fun u i v heq => hd u i (v ++ t) (by rw [heq, List.append_assoc, List.cons_append])

/-- Only one dump. -/
theorem dumpsAll_once {R : Set Route} {a b : SetupHistory} (ha : ⟨.routeNext, .ok none⟩ ∉ a)
    (hb : ⟨.routeNext, .ok none⟩ ∉ b)
    (hall : ∀ i, ⟨.routeGet i, ()⟩ ∈ a → ∀ route ∈ R, route.outputInterface = some i → route ∈ listed a) :
    DumpsAll R (a ++ ⟨.routeNext, .ok none⟩ :: b) := by
  intro u i v heq hget
  obtain ⟨rfl, -, -⟩ := (List.append_cons_inj_of_notMem ha hb).1 heq
  exact hall i hget

/-- A kernel whose dumps are complete. -/
def dumping (R : Set Route) : Env kernelSig := ⟨DumpsAll R, DumpsAll.of_append⟩

/-! ## The loop -/

/-- The routes that the loop deletes when it finds them. -/
def doomed (h : SetupHistory) : List Route := (listed h).filter Route.isMainDefault

@[simp] theorem doomed_append (h t : SetupHistory) : doomed (h ++ t) = doomed h ++ doomed t := by simp [doomed]

/-- At any time: the dump is for the interface, and a route that was not listed for deletion is where it was, unless
it is the one that is added. -/
structure Spared (interface : String) (address : Ipv4Network) (R : Set Route) (h : SetupHistory) : Prop where
  asked : ∀ i, ⟨.routeGet i, ()⟩ ∈ h → ⟨.linkByName interface, .ok (some i)⟩ ∈ h
  same : ∀ route, route ∉ doomed h →
    (∀ i, ⟨.linkByName interface, .ok (some i)⟩ ∈ h → route ≠ defaultRoute i address) →
      (route ∈ routes R h ↔ route ∈ R)

/-- The dump has not begun. -/
structure Untouched (R : Set Route) (h : SetupHistory) : Prop where
  unasked : ∀ i, ⟨.routeGet i, ()⟩ ∉ h
  same : routes R h = R
  unlisted : listed h = []

/-- The dump for interface `i` has begun, and what was listed for deletion is gone. -/
structure Deleting (interface : String) (R : Set Route) (i : Nat) (h : SetupHistory) : Prop where
  index : ⟨.linkByName interface, .ok (some i)⟩ ∈ h
  asked : ⟨.routeGet i, ()⟩ ∈ h
  once : ∀ j, ⟨.routeGet j, ()⟩ ∈ h → j = i
  left : ∀ route, route ∈ routes R h ↔ route ∈ R ∧ route ∉ doomed h

/-- All routes of the interface were listed. -/
structure Deleted (interface : String) (R : Set Route) (i : Nat) (h : SetupHistory) : Prop extends
    Deleting interface R i h where
  whole : ∀ route ∈ R, route.outputInterface = some i → route ∈ listed h

section
variable {interface : String} {address : Ipv4Network} {R : Set Route} {i : Nat} {h : SetupHistory}
    {e : Event kernelSig}

theorem mem_of_mem_snoc {x : Event kernelSig} (hx : x ∈ h ++ [e]) (hne : e ≠ x) : x ∈ h := by
  rcases List.mem_append.1 hx with hx | hx
  · exact hx
  · exact absurd (List.mem_singleton.1 hx).symm hne

theorem Spared.other (hs : Spared interface address R h) (hstep : routesStep (routes R h) e = routes R h)
    (hget : ∀ j, e ≠ ⟨.routeGet j, ()⟩) : Spared interface address R (h ++ [e]) where
  asked j hj := List.mem_append_left _ (hs.asked j (mem_of_mem_snoc hj (hget j)))
  same route hdoomed hnew := by
    rw [routes_snoc, hstep]
    refine hs.same route (fun hmem => hdoomed ?_) fun i hi => hnew i (List.mem_append_left _ hi)
    simp [hmem]

theorem Untouched.other (hu : Untouched R h) (hstep : routesStep R e = R) (hlist : listed [e] = [])
    (hget : ∀ j, e ≠ ⟨.routeGet j, ()⟩) : Untouched R (h ++ [e]) where
  unasked j hj := hu.unasked j (mem_of_mem_snoc hj (hget j))
  same := by rw [routes_snoc, hu.same, hstep]
  unlisted := by rw [listed_append, hu.unlisted, hlist, List.append_nil]

theorem Untouched.spared (hu : Untouched R h) : Spared interface address R h where
  asked j hj := absurd hj (hu.unasked j)
  same route _ _ := by rw [hu.same]

theorem untouched_nil : Untouched R [] := ⟨nofun, rfl, rfl⟩

/-- An event that neither changes the routes nor lists one for deletion. -/
theorem Deleting.other (hd : Deleting interface R i h) (hstep : routesStep (routes R h) e = routes R h)
    (hlist : doomed [e] = []) (hget : ∀ j, e ≠ ⟨.routeGet j, ()⟩) : Deleting interface R i (h ++ [e]) where
  index := List.mem_append_left _ hd.index
  asked := List.mem_append_left _ hd.asked
  once j hj := hd.once j (mem_of_mem_snoc hj (hget j))
  left route := by rw [routes_snoc, hstep, doomed_append, hlist, List.append_nil, hd.left]

/-- A listed route is deleted. -/
theorem Deleting.delete (hd : Deleting interface R i h) {route : Route} (hmain : route.isMainDefault = true) :
    Deleting interface R i (h ++ [⟨.routeNext, .ok (some route)⟩] ++ [⟨.routeDel route, .ok ()⟩]) where
  index := by simp [hd.index]
  asked := by simp [hd.asked]
  once j hj := hd.once j (mem_of_mem_snoc (mem_of_mem_snoc hj nofun) nofun)
  left r := by
    have hstep : routes R (h ++ [⟨.routeNext, .ok (some route)⟩] ++ [⟨.routeDel route, .ok ()⟩]) =
        routes R h \ {route} := by
      rw [routes_snoc, routes_snoc]
      rfl
    have hdoomed : doomed (h ++ [⟨.routeNext, .ok (some route)⟩] ++ [⟨.routeDel route, .ok ()⟩]) =
        doomed h ++ [route] := by
      simp [doomed, listed, hmain]
    rw [hstep, hdoomed, Set.mem_sdiff, hd.left]
    simp [and_assoc]

theorem Deleting.spared (hd : Deleting interface R i h) : Spared interface address R h where
  asked j hj := hd.once j hj ▸ hd.index
  same route hdoomed _ := by
    rw [hd.left]
    simp [hdoomed]

theorem triple_deleteStep : Triple (dumping R) (Spared interface address R) (Deleting interface R i) deleteStep
    (Leaves (Spared interface address R)
      (Ctl.post (fun _ => Deleting interface R i) fun _ => Deleted interface R i)) := by
  refine Task.triple_seq (fun next h => ∃ u, h = u ++ [⟨.routeNext, .ok next⟩] ∧ Deleting interface R i u)
    (Task.triple_mapErr (Task.triple_call (fun _ hd _ => hd.spared) fun h r hd _ => ?_)) fun next => ?_
  · cases r with
    | ok next => exact ⟨h, rfl, hd⟩
    | error e => exact hd.spared.other rfl nofun
  cases next with
  | none =>
    refine Task.triple_ret fun h ⟨u, hu, hd⟩ hE => ?_
    subst hu
    refine ⟨hd.other rfl rfl nofun, fun route hr hi => ?_⟩
    rw [listed_append]
    exact List.mem_append_left _ (hE u i [] rfl hd.asked route hr hi)
  | some route =>
    by_cases hmain : route.isMainDefault = true
    · simp only [hmain, Bool.not_true, Bool.false_eq_true, if_false]
      refine Task.triple_seq (fun _ => Deleting interface R i)
        (Task.triple_mapErr (Task.triple_call (fun h ⟨u, hu, hd⟩ _ => ?_) fun h r ⟨u, hu, hd⟩ _ => ?_)) fun _ =>
        Task.triple_ret fun h hd _ => hd
      · subst hu
        exact hd.spared.other rfl nofun
      · subst hu
        have hlisted : Spared interface address R (u ++ [⟨.routeNext, .ok (some route)⟩]) :=
          hd.spared.other rfl nofun
        cases r with
        | ok _ => exact hd.delete hmain
        | error e => exact hlisted.other rfl nofun
    · simp only [Bool.not_eq_true] at hmain
      simp only [hmain, Bool.not_false, if_true]
      refine Task.triple_ret fun h ⟨u, hu, hd⟩ _ => ?_
      subst hu
      exact hd.other rfl (by simp [doomed, listed, hmain]) nofun

/-! ## The whole of it -/

theorem triple_ensureDefaultIpv4Route : Triple (dumping R) (Spared interface address R) (Untouched R)
    (ensureDefaultIpv4Route interface address) (Leaves (Spared interface address R) fun _ h =>
      ∃ i u, Deleted interface R i u ∧ h = u ++ [⟨.routeAdd (defaultRoute i address), .ok ()⟩]) := by
  refine Task.triple_seq (fun _ => Untouched R)
    (Task.triple_mapErr (Task.triple_call (fun _ hu _ => hu.spared) fun h r hu _ => ?_)) fun _ => ?_
  · have hu' : Untouched R (h ++ [⟨.newConnection, r⟩]) := hu.other rfl rfl nofun
    cases r with
    | ok _ => exact hu'
    | error e => exact hu'.spared
  refine Task.triple_seq (fun i h => ⟨.linkByName interface, .ok (some i)⟩ ∈ h ∧ Untouched R h)
    (Task.triple_seq (fun r h => ⟨.linkByName interface, .ok r⟩ ∈ h ∧ Untouched R h)
      (Task.triple_mapErr (Task.triple_call (fun _ hu _ => hu.spared) fun h r hu _ => ?_)) fun r => ?_)
        fun i => ?_
  · have hu' : Untouched R (h ++ [⟨.linkByName interface, r⟩]) := hu.other rfl rfl nofun
    cases r with
    | ok r => exact ⟨by simp, hu'⟩
    | error e => exact hu'.spared
  · cases r with
    | some i => exact Task.triple_ret fun h hu _ => hu
    | none => exact Task.triple_fail fun _ hu _ => hu.2.spared
  refine Task.triple_seq (fun _ => Deleting interface R i)
    (Task.triple_call (fun _ hu _ => hu.2.spared) fun h r hu _ => ?_) fun _ => ?_
  · have hroutes : routes R (h ++ [⟨.routeGet i, r⟩]) = R := by
      rw [routes_snoc, hu.2.same]
      rfl
    refine ⟨List.mem_append_left _ hu.1, by simp, fun j hj => ?_, fun route => ?_⟩
    · rcases List.mem_append.1 hj with hj | hj
      · exact absurd hj (hu.2.unasked j)
      · cases List.mem_singleton.1 hj
        rfl
    · rw [hroutes, doomed_append, doomed, hu.2.unlisted]
      simp [doomed, listed]
  refine Task.triple_seq (fun _ => Deleted interface R i)
    (Task.triple_loop (J := fun _ => Deleting interface R i) (fun _ => triple_deleteStep) ()) fun _ => ?_
  refine Task.triple_mapErr (Task.triple_call (fun _ hd _ => hd.spared) fun h r hd _ => ?_)
  cases r with
  | ok _ => exact ⟨i, h, hd, rfl⟩
  | error e => exact hd.spared.other rfl nofun

end

theorem isMainDefault_defaultRoute {i : Nat} {address : Ipv4Network} :
    (defaultRoute i address).isMainDefault = true := by
  simp [Route.isMainDefault, defaultRoute]

/-- The default route through interface `i` is the one that is wanted, and all other routes are as before. -/
structure DefaultReplaced (before after : Set Route) (i : Nat) (address : Ipv4Network) : Prop where
  added : defaultRoute i address ∈ after
  only : ∀ route ∈ after, route.isMainDefault = true → route.outputInterface = some i →
    route = defaultRoute i address
  others : ∀ route, ¬ (route.isMainDefault = true ∧ route.outputInterface = some i) →
    (route ∈ after ↔ route ∈ before)

section
variable {interface : String} {address : Ipv4Network} {R : Set Route} {h : SetupHistory}

/-- **The default route is replaced if and only if the kernel lists no default route of another interface.** -/
theorem default_replaced_iff (hx : Exec (ensureDefaultIpv4Route interface address) h (.done (.ok ())))
    (hd : DumpsAll R h) :
    ∃ i, ⟨.linkByName interface, .ok (some i)⟩ ∈ h ∧ (DefaultReplaced R (routes R h) i address ↔
      ∀ route ∈ listed h, route ∈ R → route.isMainDefault = true → route.outputInterface = some i) := by
  obtain ⟨i, u, hdel, rfl⟩ := triple_ensureDefaultIpv4Route.returned untouched_nil hx hd
  refine ⟨i, List.mem_append_left _ hdel.index, ?_⟩
  have hlisted : listed (u ++ [⟨.routeAdd (defaultRoute i address), .ok ()⟩]) = listed u := by simp [listed]
  have hmem : ∀ route, route ∈ routes R (u ++ [⟨.routeAdd (defaultRoute i address), .ok ()⟩]) ↔
      route = defaultRoute i address ∨ route ∈ R ∧ route ∉ doomed u := by
    intro route
    rw [routes_snoc, ← hdel.left]
    rfl
  have hdoomed : ∀ route, route ∈ doomed u ↔ route ∈ listed u ∧ route.isMainDefault = true := by simp [doomed]
  rw [hlisted]
  constructor
  · intro h route hl hR hmain
    by_contra hother
    have hkept := (hmem route).1 ((h.others route fun hthrough => hother hthrough.2).2 hR)
    rcases hkept with rfl | ⟨-, hsafe⟩
    · exact hother rfl
    · exact hsafe ((hdoomed route).2 ⟨hl, hmain⟩)
  · intro h
    refine ⟨(hmem _).2 (.inl rfl), fun route hafter hmain hi => ?_, fun route hnot => ?_⟩
    · rcases (hmem route).1 hafter with rfl | ⟨hR, hsafe⟩
      · rfl
      · exact absurd ((hdoomed route).2 ⟨hdel.whole route hR hi, hmain⟩) hsafe
    · have hne : route ≠ defaultRoute i address := by
        rintro rfl
        exact hnot ⟨isMainDefault_defaultRoute, rfl⟩
      rw [hmem]
      constructor
      · rintro (rfl | ⟨hR, -⟩)
        · exact absurd rfl hne
        · exact hR
      · intro hR
        refine .inr ⟨hR, fun hmem => ?_⟩
        obtain ⟨hl, hmain⟩ := (hdoomed route).1 hmem
        exact hnot ⟨hmain, h route hl hR hmain⟩

/-! A table with default routes through the interfaces 2 and 3 -/

def defaultThrough (i : Nat) : Route := ⟨RT_TABLE_MAIN, 0, 0, 1, 3, some i, none, []⟩

def connectedRoute : Route := ⟨RT_TABLE_MAIN, 24, 253, 1, 2, some 2, some ⟨10, 0, 0, 1⟩, []⟩

def newAddress : Ipv4Network := ⟨⟨10, 0, 0, 2⟩, 24⟩

def bothDefaults : Set Route := {defaultThrough 2, connectedRoute, defaultThrough 3}

/-- What is deleted while the kernel lists `dump`. -/
def deletingRun (dump : List Route) : SetupHistory :=
  [⟨.newConnection, .ok ()⟩, ⟨.linkByName "ens5", .ok (some 2)⟩, ⟨.routeGet 2, ()⟩] ++
    dump.flatMap fun route => ⟨.routeNext, .ok (some route)⟩ ::
      if route.isMainDefault then [⟨.routeDel route, .ok ()⟩] else []

/-- The run for interface 2. -/
def defaultRun (dump : List Route) : SetupHistory :=
  deletingRun dump ++ ⟨.routeNext, .ok none⟩ :: [⟨.routeAdd (defaultRoute 2 newAddress), .ok ()⟩]

theorem mem_deletingRun {dump : List Route} {e : Event kernelSig} (h : e ∈ deletingRun dump) :
    e = ⟨.newConnection, .ok ()⟩ ∨ e = ⟨.linkByName "ens5", .ok (some 2)⟩ ∨ e = ⟨.routeGet 2, ()⟩ ∨
      (∃ route ∈ dump, e = ⟨.routeNext, .ok (some route)⟩) ∨ ∃ route ∈ dump, e = ⟨.routeDel route, .ok ()⟩ := by
  rcases List.mem_append.1 h with h | h
  · simp at h
    tauto
  · obtain ⟨route, hr, h⟩ := List.mem_flatMap.1 h
    rcases List.mem_cons.1 h with h | h
    · exact .inr (.inr (.inr (.inl ⟨route, hr, h⟩)))
    · split at h
      · exact .inr (.inr (.inr (.inr ⟨route, hr, List.mem_singleton.1 h⟩)))
      · cases h

theorem defaultRun_dumpsAll {dump : List Route} (hdefault : defaultThrough 2 ∈ dump)
    (hconnected : connectedRoute ∈ dump) :
    DumpsAll bothDefaults (defaultRun dump) := by
  have hlisted : ∀ route ∈ dump, route ∈ listed (deletingRun dump) := by
    intro route hr
    refine List.mem_flatMap.2 ⟨⟨.routeNext, .ok (some route)⟩, ?_, by simp⟩
    exact List.mem_append_right _ (List.mem_flatMap.2 ⟨route, hr, by simp⟩)
  refine dumpsAll_once (fun h => ?_) (by simp) fun i hi route hR hthrough => ?_
  · simpa using mem_deletingRun h
  · obtain rfl : i = 2 := by simpa using mem_deletingRun hi
    rcases hR with rfl | rfl | rfl
    · exact hlisted _ hdefault
    · exact hlisted _ hconnected
    · simp [defaultThrough] at hthrough

/-- The kernel lists the routes of the interface, and no others. -/
theorem filtered_dump_replaced :
    ∃ i, ⟨.linkByName "ens5", .ok (some i)⟩ ∈ defaultRun [connectedRoute, defaultThrough 2] ∧
      (DefaultReplaced bothDefaults (routes bothDefaults (defaultRun [connectedRoute, defaultThrough 2])) i
        newAddress ↔
        ∀ route ∈ listed (defaultRun [connectedRoute, defaultThrough 2]), route ∈ bothDefaults →
          route.isMainDefault = true → route.outputInterface = some i) :=
  default_replaced_iff (exec_of_script 100 (by decide +kernel)) (defaultRun_dumpsAll (by decide) (by decide))

/-- The kernel lists all routes, and the default route of interface 3 is gone. -/
theorem other_default_deleted : ¬ ∀ (interface : String) (address : Ipv4Network) (R : Set Route) (h : SetupHistory),
    Exec (ensureDefaultIpv4Route interface address) h (.done (.ok ())) → DumpsAll R h →
      ∃ i, ⟨.linkByName interface, .ok (some i)⟩ ∈ h ∧ DefaultReplaced R (routes R h) i address := by
  intro hall
  obtain ⟨i, hi, hreplaced⟩ := hall "ens5" newAddress bothDefaults
    (defaultRun [connectedRoute, defaultThrough 3, defaultThrough 2]) (exec_of_script 100 (by decide +kernel))
    (defaultRun_dumpsAll (by decide) (by decide))
  have hi2 : i = 2 := by
    rcases List.mem_append.1 hi with hi | hi
    · simpa using mem_deletingRun hi
    · simp at hi
  subst hi2
  have hkept := (hreplaced.others (defaultThrough 3) (by simp [defaultThrough])).2 (by simp [bothDefaults])
  simp [defaultRun, deletingRun, routes, routesStep, Route.isMainDefault, defaultThrough, connectedRoute,
    defaultRoute] at hkept

end
end Glycerine
