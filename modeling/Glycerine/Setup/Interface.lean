import Glycerine.Setup.Netfilter
/-
# The proxied interface

| here | there |
| --- | --- |
| `ensureDefaultIpv4Route`      | `ensure_default_ipv4_route` (`interface.rs:29`) |
| `addIpv4InterfaceAddress`     | `add_ipv4_interface_address` (`interface.rs:93`) |
| `bringInterfaceUp`            | `bring_interface_up` (`interface.rs:133`) |
| `setMtu`                      | `set_mtu` (`interface.rs:174`) |
-/

namespace Glycerine
open Interact

/-! ## Over netlink -/

/-- The index of an interface (interface.rs:36, :100). -/
def interfaceIndex (interface : String) : Setup Error Nat := do
  match ← (linkByName interface).mapErr .rtnetlink with
  | some index => pure index
  | none => Task.fail (.glycerineInvalidConfig "unknown interface")

def RT_TABLE_MAIN : UInt8 := 254
def ROUTE_PROTOCOL : UInt8 := 66

/-- What a listed route is deleted for (interface.rs:53). -/
def Route.isMainDefault (route : Route) : Bool :=
  route.table == RT_TABLE_MAIN && route.destinationPrefixLength == 0

/-- One iteration of the loop over the dump (interface.rs:52-72). -/
def deleteStep : Setup Error (Ctl Unit Unit) := do
  match ← routeNext.mapErr .rtnetlink with
  | none => pure (.stop ())
  | some route =>
    if !route.isMainDefault then pure (.next ())
    else do
      (routeDel route).mapErr .rtnetlink
      pure (.next ())

/-- The route that is added (interface.rs:78-86): scope `Universe`, type `Unicast`, destination 0.0.0.0/0. -/
def defaultRoute (interface : Nat) (address : Ipv4Network) : Route where
  table := RT_TABLE_MAIN
  destinationPrefixLength := 0
  scope := 0
  kind := 1
  protocol := ROUTE_PROTOCOL
  outputInterface := some interface
  prefSource := some address.ip
  attributes := []

/-- `ensure_default_ipv4_route` (interface.rs:29). -/
def ensureDefaultIpv4Route (interface : String) (address : Ipv4Network) : Setup Error Unit := do
  newConnection.mapErr .ioNetlink
  let interface ← interfaceIndex interface
  routeGet interface
  Task.loop (fun _ => deleteStep) ()
  (routeAdd (defaultRoute interface address)).mapErr .rtnetlink

def EEXIST : Int := 17

/-- `add_ipv4_interface_address` (interface.rs:93); it says whether the address is new. -/
def addIpv4InterfaceAddress (interface : String) (address : Ipv4Network) : Setup Error Bool := do
  newConnection.mapErr .ioNetlink
  let interfaceIndex ← interfaceIndex interface
  match ← (addressAdd interfaceIndex address).attempt with
  | .error (.netlink (some code)) =>
    if code = -EEXIST then pure false else Task.fail (.rtnetlink (.netlink (some code)))
  | .error err => Task.fail (.rtnetlink err)
  | .ok _ => pure true

/-! ## By `ioctl` -/

def EINVAL : Nat := 22
def IFNAMSIZ : Nat := 16

/-- The name in the request of an `ioctl` (`new_ifreq`, interface.rs:196). -/
def newIfreq (interface : Bytes) : Bytes := interface.take IFNAMSIZ

/-- The string conversion and the socket that the calls begin with. -/
def ifreqFor (interface : String) : Setup Error Bytes := do
  let interface ← Task.ofExcept ((cString interface).mapError fun _ => .nix EINVAL)
  socket.mapErr .nix
  pure (newIfreq interface)

def IFF_UP : UInt16 := 1

/-- `bring_interface_up` (interface.rs:133); it says whether the interface was down. -/
def bringInterfaceUp (interface : String) : Setup Error Bool := do
  let req ← ifreqFor interface
  let prevFlags ← (ioctlGetFlags req).mapErr .nix
  if prevFlags &&& IFF_UP ≠ 0 then pure false
  else do
    (ioctlSetFlags req (prevFlags ||| IFF_UP)).mapErr .nix
    pure true

/-- `set_mtu` (interface.rs:174); it says whether the MTU was another one. -/
def setMtu (interface : String) (mtu : Int32) : Setup Error Bool := do
  let req ← ifreqFor interface
  let prevMtu ← (ioctlGetMtu req).mapErr .nix
  if mtu = prevMtu then pure false
  else do
    (ioctlSetMtu req mtu).mapErr .nix
    pure true

/-! ## What they are about -/

theorem concerns_interfaceIndex (c : Component) (interface : String) : Concerns c (interfaceIndex interface) := by
  unfold interfaceIndex
  refine (concerns_call (.inl rfl)).bind fun r => ?_
  cases r with
  | none => exact concerns_fail
  | some index => exact concerns_ret

theorem concerns_deleteStep : Concerns .routes deleteStep := by
  unfold deleteStep
  refine (concerns_call (.inr rfl)).bind fun r => ?_
  cases r with
  | none => exact concerns_ret
  | some route =>
    dsimp only
    split
    · exact concerns_ret
    · exact (concerns_call (.inr rfl)).bind fun _ => concerns_ret

theorem concerns_ensureDefaultIpv4Route (interface : String) (address : Ipv4Network) :
    Concerns .routes (ensureDefaultIpv4Route interface address) := by
  have hget (i : Nat) : Concerns .routes (routeGet i) := Or.inr rfl
  unfold ensureDefaultIpv4Route
  refine (concerns_call (.inl rfl)).bind fun _ => (concerns_interfaceIndex _ _).bind fun i => ?_
  refine (hget i).bind fun _ => Concerns.bind (Task.only_loop.2 fun _ => concerns_deleteStep) fun _ => ?_
  exact concerns_call (.inr rfl)

theorem concerns_addIpv4InterfaceAddress (interface : String) (address : Ipv4Network) :
    Concerns .addresses (addIpv4InterfaceAddress interface address) := by
  have hadd (i : Nat) : Concerns .addresses ((addressAdd i address).attempt) := Task.only_attempt.2 (Or.inr rfl)
  unfold addIpv4InterfaceAddress
  refine (concerns_call (.inl rfl)).bind fun _ => (concerns_interfaceIndex _ _).bind fun i => ?_
  refine (hadd i).bind fun r => ?_
  split
  · split
    · exact concerns_ret
    · exact concerns_fail
  · exact concerns_fail
  · exact concerns_ret

theorem concerns_ifreqFor (c : Component) (interface : String) : Concerns c (ifreqFor interface) := by
  unfold ifreqFor
  exact concerns_ofExcept.bind fun _ => (concerns_call (.inl rfl)).bind fun _ => concerns_ret

theorem concerns_bringInterfaceUp (interface : String) : Concerns .flags (bringInterfaceUp interface) := by
  unfold bringInterfaceUp
  refine (concerns_ifreqFor _ _).bind fun req => (concerns_call (.inr rfl)).bind fun flags => ?_
  split
  · exact concerns_ret
  · exact (concerns_call (.inr rfl)).bind fun _ => concerns_ret

theorem concerns_setMtu (interface : String) (mtu : Int32) : Concerns .mtu (setMtu interface mtu) := by
  unfold setMtu
  refine (concerns_ifreqFor _ _).bind fun req => (concerns_call (.inr rfl)).bind fun prevMtu => ?_
  split
  · exact concerns_ret
  · exact (concerns_call (.inr rfl)).bind fun _ => concerns_ret

end Glycerine
