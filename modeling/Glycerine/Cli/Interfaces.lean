import Glycerine.Bootstrap.Record
import Glycerine.Cli.Addresses
import Glycerine.Process.Threads
import Glycerine.Setup.Converge
/-
# The interfaces of the host

What `datalink::interfaces()` lists, and what is made of it: the check of `--interface` and its default, and what the
host tells the enclave about its interface.

| here | there |
| --- | --- |
| `IpNetwork`, `NetworkInterface`   | `pnet::ipnetwork::IpNetwork`, `pnet::datalink::NetworkInterface` |
| `NetworkInterfaceParser.parseRef` | `NetworkInterfaceParser::parse_ref` (`cli/parsers.rs:68`) |
| `getDefaultNetworkInterface`      | `get_default_network_interface` (`cli/parsers.rs:198`) |
| `CliHost.default`                 | `CliHost::default` (`cli/host.rs:171`) |
| `getInterfaceAddress`, `getMtu`   | `get_interface_address` (`system/ipv4.rs:19`), `get_mtu` (`system/interface.rs:161`) |

The default interface passes the check, but it need not have an IPv4 address to tell the enclave of
(`defaultInterface_accepted`, `getInterfaceAddress_eq_ok`).
-/

namespace Glycerine
open Interact

/-- An IPv6 address is its number. -/
inductive IpNetwork where
  | v4 (network : Ipv4Network)
  | v6 (ip : Nat) (prefixLength : UInt8)
deriving DecidableEq, Repr

namespace IpNetwork

def isIpv4 : IpNetwork → Bool
  | .v4 _ => true
  | .v6 _ _ => false

/-- `ip.ip().is_loopback()`: 127.0.0.0/8 and ::1. -/
def isLoopback : IpNetwork → Bool
  | .v4 network => network.ip.a == 127
  | .v6 ip _ => ip == 1

end IpNetwork

structure NetworkInterface where
  name : String
  ips : List IpNetwork
  isUp : Bool
  isLoopback : Bool
deriving DecidableEq, Repr

/-- The first interface of that name. -/
def named (interfaces : List NetworkInterface) (name : String) : Option NetworkInterface :=
  interfaces.find? fun iface => iface.name == name

/-! ## On the command line -/

/-- `NetworkInterfaceParser::parse_ref` (parsers.rs:68). -/
def NetworkInterfaceParser.parseRef (interfaces : List NetworkInterface) (arg : Option String) (value : OsStr) :
    Except Clap.Error String :=
  match value.toStr with
  | none => .error (clapError arg "" "invalid utf-8")
  | some value =>
    match named interfaces value with
    | none => .error (clapError arg value "interface does't exist")
    | some iface => .ok iface.name

/-- `get_default_network_interface` (parsers.rs:198). -/
def getDefaultNetworkInterface (interfaces : List NetworkInterface) : Option String :=
  (interfaces.find? fun iface => !iface.isLoopback && iface.isUp && iface.ips.any (!·.isLoopback)).map (·.name)

theorem le_enclaveEphemeralPorts : (40000 : UInt16) ≤ 60999 := by decide
theorem le_hostEphemeralPorts : (32768 : UInt16) ≤ 39999 := by decide

/-- `CliHost::default` (host.rs:171). -/
def CliHost.default (interfaces : List NetworkInterface) : HostArgs where
  interface := (getDefaultNetworkInterface interfaces).getD ""
  enclavePorts := []
  enclaveEphemeralPorts := ⟨40000, 60999, le_enclaveEphemeralPorts⟩
  hostEphemeralPorts := ⟨32768, 39999, le_hostEphemeralPorts⟩
  bootstrapVsockAddress := .vsock 3 4000
  setupOnly := false
  ingressNetfilterQueueNum := 0
  ingressNetfilterQueueMaxLen := 16384
  ingressVsockAddress := .vsock 4 8000
  egressVsockAddress := .vsock 3 8000
  egressIpv4SinkAddress := .inet [1, 1, 1, 1] 1111

theorem named_eq_some {interfaces : List NetworkInterface} {name : String} {iface : NetworkInterface}
    (h : named interfaces name = some iface) : iface ∈ interfaces ∧ iface.name = name :=
  ⟨List.mem_of_find?_eq_some h, by simpa using List.find?_some h⟩

/-- What passes the check is the name of an interface, as it was typed. -/
theorem NetworkInterfaceParser.parseRef_eq_ok {interfaces : List NetworkInterface} {arg : Option String} {value : OsStr}
    {name : String} :
    parseRef interfaces arg value = .ok name ↔ value.toStr = some name ∧ ∃ iface ∈ interfaces, iface.name = name := by
  unfold parseRef
  constructor
  · intro h
    split at h
    · cases h
    rename_i s hs
    split at h
    · cases h
    rename_i iface hiface
    obtain ⟨hmem, hname⟩ := named_eq_some hiface
    cases h
    exact ⟨hname ▸ hs, iface, hmem, rfl⟩
  · rintro ⟨hs, iface, hmem, hname⟩
    rw [hs]
    cases hfind : named interfaces name with
    | none =>
      have hnone := List.find?_eq_none.1 hfind iface hmem
      simp [hname] at hnone
    | some iface' =>
      simp only [hfind]
      rw [(named_eq_some hfind).2]

theorem defaultInterface_accepted {interfaces : List NetworkInterface} {name : String}
    (h : getDefaultNetworkInterface interfaces = some name) (arg : Option String) :
    NetworkInterfaceParser.parseRef interfaces arg name.toUTF8 = .ok name := by
  obtain ⟨iface, hfind, rfl⟩ := Option.map_eq_some_iff.1 h
  exact NetworkInterfaceParser.parseRef_eq_ok.2
    ⟨OsStr.toStr_toUTF8 _, iface, List.mem_of_find?_eq_some hfind, rfl⟩

/-- The defaults pass the check of the ports. -/
theorem CliHost.default_ensureNoPortOverlaps (interfaces : List NetworkInterface) :
    (CliHost.default interfaces).ensureNoPortOverlaps = .ok () := by
  rw [CliHost.ensureNoPortOverlaps_eq_ok]
  intro r hr
  simp only [CliHost.dstPorts, CliHost.default, List.nil_append, List.mem_singleton] at hr
  subst hr
  simp only [CliHost.default]
  decide

/-! ## What the enclave is told -/

/-- `get_interface_address` (ipv4.rs:19). -/
def getInterfaceAddress (display : IpNetwork → String) (interfaces : List NetworkInterface) (interface : String) :
    Except Error String :=
  match named interfaces interface with
  | none => .error (.ioIpv4Tcp (.custom .other ("unknown interface: " ++ interface)))
  | some iface =>
    match iface.ips.find? IpNetwork.isIpv4 with
    | none => .error (.ioIpv4Tcp (.custom .other ("interface has no ipv4 address: " ++ interface)))
    | some addr => .ok (display addr)

/-- `get_mtu` (interface.rs:161). -/
def getMtu (interface : String) : Setup Error Int32 := do
  let req ← ifreqFor interface
  (ioctlGetMtu req).mapErr .nix

/-- The interface `iface` is the one that is meant by `name`, and `network` its first IPv4 network. -/
structure HasNetwork (interfaces : List NetworkInterface) (name : String) (iface : NetworkInterface)
    (network : Ipv4Network) : Prop where
  named : named interfaces name = some iface
  first : iface.ips.find? IpNetwork.isIpv4 = some (.v4 network)

theorem getInterfaceAddress_eq_ok {display : IpNetwork → String} {interfaces : List NetworkInterface}
    {interface s : String} :
    getInterfaceAddress display interfaces interface = .ok s ↔
      ∃ iface network, HasNetwork interfaces interface iface network ∧ s = display (.v4 network) := by
  unfold getInterfaceAddress
  constructor
  · intro h
    split at h
    · cases h
    rename_i iface hnamed
    split at h
    · cases h
    rename_i addr hfirst
    cases h
    cases addr with
    | v4 network => exact ⟨iface, network, ⟨hnamed, hfirst⟩, rfl⟩
    | v6 ip prefixLength =>
      have hv4 := List.find?_some hfirst
      simp [IpNetwork.isIpv4] at hv4
  · rintro ⟨iface, network, hnetwork, rfl⟩
    rw [hnetwork.named]
    dsimp only
    rw [hnetwork.first]

/-- An MTU that was read is that of the interface. -/
theorem getMtu_read {α : Type} {K : Kernel} {σ : System α} {interface : String} {mtu : Int32} {h : SetupHistory}
    (hx : Exec (getMtu interface) h (.done (.ok mtu))) (hE : (K.unfiltered σ).ok h) :
    mtu = σ .mtu (newIfreq interface.toUTF8.toList) := by
  have hspec : Triple (K.unfiltered σ) (fun _ => True) (fun h => h = []) (getMtu interface)
      (Leaves (fun _ => True) fun mtu _ => mtu = σ .mtu (newIfreq interface.toUTF8.toList)) := by
    have hign : Ignores .flags fun h => σ.after h .mtu = σ .mtu := ignores_after (by decide) σ (· = σ .mtu)
    refine Task.triple_seq _ ((triple_ifreqFor hign fun _ _ => trivial).pre fun h hh => hh ▸ rfl)
      fun req => triple_of_fact fun hreq => ?_
    subst hreq
    refine Task.triple_mapErr (Task.triple_call (fun _ _ _ => trivial) fun h r hP hE => ?_)
    cases r with
    | ok n =>
      have hn : n = σ.after h .mtu (newIfreq interface.toUTF8.toList) := K.unfiltered_last hE
      exact hP ▸ hn
    | error e => trivial
  exact hspec.returned rfl hx hE

end Glycerine
