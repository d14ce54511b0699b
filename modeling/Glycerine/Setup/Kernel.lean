import Glycerine.Interact.Task
import Glycerine.Setup.Nftables
import Glycerine.System.Basic
/-
# What the setup asks of the kernel

One operation for each system call, and for each request over netlink, that `setup` makes on the host and in the
enclave. A dump of routes is asked for by `routeGet` and read by one `routeNext` for each route. All that
`send_and_process` does, its `expect` included, is `Nftnl.sendAndProcess`; the setups are taken over it in
`overNetlink`.

| here | there |
| --- | --- |
| `readLocalPortRange`, `writeLocalPortRange` | `fs::read_to_string`, `fs::write` on `ip_local_port_range` |
| `sendAndProcess`                            | `send_and_process` (`nftnl.rs:66`) as one operation that cannot panic |
| `newConnection`                             | `rtnetlink::new_connection` |
| `linkByName`                                | `handle.link().get().match_name(..)` and the first message of the answer |
| `routeGet`, `routeNext`, `routeDel`, `routeAdd`, `addressAdd` | `handle.route()`, `handle.address()` |
| `socket`, `ioctlGetFlags`, ..               | `nix::sys::socket::socket`, the four `ioctl`s of `interface.rs` |
-/

namespace Glycerine
open Interact Nftables

/-- `pnet::ipnetwork::Ipv4Network`. -/
structure Ipv4Network where
  ip : Ipv4Addr
  prefixLength : UInt8
deriving DecidableEq, Repr

/-- A message about an IPv4 route: the fields of its header and the attributes that are looked at or written here,
and the other attributes. -/
structure Route where
  table : UInt8
  destinationPrefixLength : UInt8
  scope : UInt8
  kind : UInt8
  protocol : UInt8
  outputInterface : Option Nat
  prefSource : Option Ipv4Addr
  attributes : List (Nat × Bytes)
deriving DecidableEq, Repr

inductive KernelOp where
  | readLocalPortRange
  | writeLocalPortRange (contents : String)
  | sendBatch (batch : Batch)
  | newConnection
  | linkByName (name : String)
  | addressAdd (interface : Nat) (address : Ipv4Network)
  | routeGet (interface : Nat)
  | routeNext
  | routeDel (route : Route)
  | routeAdd (route : Route)
  | socket
  | getFlags (ifrName : Bytes)
  | setFlags (ifrName : Bytes) (flags : UInt16)
  | getMtu (ifrName : Bytes)
  | setMtu (ifrName : Bytes) (mtu : Int32)
deriving DecidableEq

@[reducible] def KernelOp.Res : KernelOp → Type
  | .readLocalPortRange => Except IoError String
  | .writeLocalPortRange _ | .sendBatch _ | .newConnection => Except IoError Unit
  | .linkByName _ => Except RtnetlinkError (Option Nat)
  | .addressAdd _ _ | .routeDel _ | .routeAdd _ => Except RtnetlinkError Unit
  | .routeGet _ => Unit
  | .routeNext => Except RtnetlinkError (Option Route)
  | .socket | .setFlags _ _ | .setMtu _ _ => Except Nat Unit
  | .getFlags _ => Except Nat UInt16
  | .getMtu _ => Except Nat Int32

abbrev kernelSig : Sig := ⟨KernelOp, KernelOp.Res⟩

instance : DecidableEq kernelSig.Op := inferInstanceAs (DecidableEq KernelOp)

abbrev Setup (ε α : Type) := Task kernelSig ε α

abbrev SetupHistory := Trace kernelSig

def readLocalPortRange : Setup IoError String := Task.call .readLocalPortRange .ofExcept
def writeLocalPortRange (contents : String) : Setup IoError Unit :=
  Task.call (.writeLocalPortRange contents) .ofExcept
def sendAndProcess (batch : Batch) : Setup IoError Unit := Task.call (.sendBatch batch) .ofExcept

def newConnection : Setup IoError Unit := Task.call .newConnection .ofExcept
def linkByName (name : String) : Setup RtnetlinkError (Option Nat) := Task.call (.linkByName name) .ofExcept
def addressAdd (interface : Nat) (address : Ipv4Network) : Setup RtnetlinkError Unit :=
  Task.call (.addressAdd interface address) .ofExcept
def routeGet {ε : Type} (interface : Nat) : Setup ε Unit := Task.call (.routeGet interface) .ok
def routeNext : Setup RtnetlinkError (Option Route) := Task.call .routeNext .ofExcept
def routeDel (route : Route) : Setup RtnetlinkError Unit := Task.call (.routeDel route) .ofExcept
def routeAdd (route : Route) : Setup RtnetlinkError Unit := Task.call (.routeAdd route) .ofExcept
def socket : Setup Nat Unit := Task.call .socket .ofExcept
def ioctlGetFlags (ifrName : Bytes) : Setup Nat UInt16 := Task.call (.getFlags ifrName) .ofExcept
def ioctlSetFlags (ifrName : Bytes) (flags : UInt16) : Setup Nat Unit :=
  Task.call (.setFlags ifrName flags) .ofExcept
def ioctlGetMtu (ifrName : Bytes) : Setup Nat Int32 := Task.call (.getMtu ifrName) .ofExcept
def ioctlSetMtu (ifrName : Bytes) (mtu : Int32) : Setup Nat Unit := Task.call (.setMtu ifrName mtu) .ofExcept

/-- The parts of the system that a setup changes. -/
inductive Component where
  | flags | addresses | routes | mtu | portRange | ruleset
deriving DecidableEq, Repr

/-- What an operation reads or changes. -/
def KernelOp.component : KernelOp → Option Component
  | .readLocalPortRange | .writeLocalPortRange _ => some .portRange
  | .sendBatch _ => some .ruleset
  | .addressAdd _ _ => some .addresses
  | .routeGet _ | .routeNext | .routeDel _ | .routeAdd _ => some .routes
  | .getFlags _ | .setFlags _ _ => some .flags
  | .getMtu _ | .setMtu _ _ => some .mtu
  | .newConnection | .linkByName _ | .socket => none

/-! ## Parts of a setup -/

/-- What a part of a setup leaves behind: `R` if it succeeds, and the invariant if it fails. -/
abbrev Leaves {α : Type} (I : SetupHistory → Prop) (R : α → SetupHistory → Prop) :
    Outcome Error α → SetupHistory → Prop :=
  Outcome.post R (fun _ => I) I

section
variable {E : Env kernelSig} {I P : SetupHistory → Prop}

theorem leaves_mono {α : Type} {p : Setup Error α} {R R' : α → SetupHistory → Prop}
    (hp : Triple E I P p (Leaves I R))
    (h : ∀ a h, E.ok h → R a h → R' a h) : Triple E I P p (Leaves I R') :=
  hp.post_ok fun o t hE ho => by
    cases o with
    | ok a => exact h a t hE ho
    | err e => exact ho
    | panic => exact ho

theorem leaves_inv_mono {α : Type} {I' : SetupHistory → Prop} {p : Setup Error α} {R : α → SetupHistory → Prop}
    (hp : Triple E I P p (Leaves I R)) (h : ∀ h, E.ok h → I h → I' h) : Triple E I' P p (Leaves I' R) :=
  (hp.inv_mono h).post_ok fun o t hE ho => by
    cases o with
    | ok a => exact ho
    | err e => exact h t hE ho
    | panic => exact h t hE ho

/-- The invariant holds at any time, and after a success as well if what is left behind implies it. -/
theorem always_of_leaves {α : Type} {p : Setup Error α} {Q : SetupHistory → Prop}
    (hp : Triple E I P p (Leaves I fun _ => Q))
    (hP : P []) (hQ : ∀ h, Q h → I h) {h : SetupHistory} {o : Status kernelSig (Outcome Error α)}
    (hx : Exec p h o)
    (hE : E.ok h) : I h := by
  refine hp.always hP (fun o t ho => ?_) hx hE
  cases o with
  | ok a => exact hQ t ho
  | err e => exact ho
  | panic => exact ho

/-- What is computed without an operation. -/
theorem triple_check {α : Type} {x : Except Error α} (hI : ∀ h, P h → I h) :
    Triple E I P (Task.ofExcept x : Setup Error α) (Leaves I fun a h => x = .ok a ∧ P h) :=
  Task.triple_ofExcept fun h hP _ => by
    cases x with
    | ok a => exact ⟨rfl, hP⟩
    | error e => exact hI h hP

/-- A part whose operations keep `P`, whatever their answers. -/
theorem triple_preserving {α : Type} {p : Setup Error α} (hI : ∀ h, P h → I h)
    (hp : Only (fun op => ∀ h (r : kernelSig.Res op), P h → P (h ++ [⟨op, r⟩])) p) :
    Triple E I P p (Leaves I fun _ => P) := by
  refine (triple_of_only hp hI fun h e he hP _ => he h e.2 hP).post fun o h hP => ?_
  cases o with
  | ok a => exact hP
  | err e => exact hI h hP
  | panic => exact hI h hP

/-- The operations of `p` are about nothing but `c`. -/
def Concerns {α : Type} (c : Component) (p : Setup Error α) : Prop :=
  Only (fun op : KernelOp => op.component = none ∨ op.component = some c) p

theorem concerns_ret {α : Type} {c : Component} {a : α} : Concerns c (pure a : Setup Error α) := trivial

theorem concerns_fail {α : Type} {c : Component} {e : Error} : Concerns c (Task.fail e : Setup Error α) := trivial

theorem concerns_ofExcept {α : Type} {c : Component} {x : Except Error α} :
    Concerns c (Task.ofExcept x : Setup Error α) := trivial

theorem concerns_call {α ε : Type} {c : Component} {op : kernelSig.Op} {k : kernelSig.Res op → Outcome ε α}
    {f : ε → Error}
    (h : KernelOp.component op = none ∨ KernelOp.component op = some c) :
    Concerns c (Task.mapErr f (Task.call op k)) :=
  Task.only_mapErr.2 h

theorem Concerns.bind {α β : Type} {c : Component} {p : Setup Error β} {f : β → Setup Error α} (hp : Concerns c p)
    (hf : ∀ b, Concerns c (f b)) : Concerns c (p >>= f) := Task.only_bind.2 ⟨hp, hf⟩

/-- `P` is not about `c`. -/
def Ignores (c : Component) (P : SetupHistory → Prop) : Prop :=
  ∀ h (e : Event kernelSig), e.1.component = none ∨ e.1.component = some c → P h → P (h ++ [e])

theorem Concerns.triple {α : Type} {c : Component} {p : Setup Error α} (hp : Concerns c p) (hP : Ignores c P)
    (hI : ∀ h, P h → I h) : Triple E I P p (Leaves I fun _ => P) :=
  triple_preserving hI (hp.mono fun op hop h r => hP h ⟨op, r⟩ hop)

end

end Glycerine
