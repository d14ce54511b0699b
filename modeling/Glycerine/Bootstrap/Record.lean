import Glycerine.Bootstrap.Serve
import Glycerine.Json.Print
import Glycerine.Setup.Ports
/-
# The bootstrap record

| here | there |
| --- | --- |
| `Record`, `RecordInterface`, `RecordPorts`, `RecordPortRange` | `bootstrap/mod.rs:171`, `:202`, `:245`, `:253` |
| `*.encode`              | their derived `Serialize` under `serde_json::to_string`, which cannot fail on them |
| `Interfaces`            | what the kernel says of the network interfaces: `get_interface_address` (`ipv4.rs:19`) and `get_mtu` (`interface.rs`) |
| `Bootstrap.new`         | `bootstrap/mod.rs:46` |

Only one document begins as the encoding of a record does and is not longer: the encoding itself
(`Record.not_document_of_strict`).
-/

namespace Glycerine
open Interact

/-- `RecordPortRange` (mod.rs:253). -/
structure RecordPortRange where
  from' : UInt16
  to' : UInt16
deriving DecidableEq, Repr

/-- `RecordPorts` (mod.rs:245). -/
structure RecordPorts where
  ephemeral : RecordPortRange
  service : List RecordPortRange
deriving DecidableEq, Repr

/-- `RecordInterface` (mod.rs:202). -/
structure RecordInterface where
  ipv4NetworkAddress : String
  mtu : Int32
deriving DecidableEq

/-- `Record` (mod.rs:171). -/
structure Record where
  interface : RecordInterface
  ports : RecordPorts
deriving DecidableEq

/-! ## The encoding -/

def RecordPortRange.encode (r : RecordPortRange) : Json.Text :=
  Json.object [("from", Json.int r.from'.toNat), ("to", Json.int r.to'.toNat)]

def RecordPorts.encode (p : RecordPorts) : Json.Text :=
  Json.object [("ephemeral", p.ephemeral.encode), ("service", Json.array (p.service.map RecordPortRange.encode))]

def RecordInterface.encode (i : RecordInterface) : Json.Text :=
  Json.object [("ipv4_network_address", Json.string i.ipv4NetworkAddress), ("mtu", Json.int i.mtu.toInt)]

def Record.encode (r : Record) : Json.Text :=
  Json.object [("interface", r.interface.encode), ("ports", r.ports.encode)]

theorem RecordPortRange.derives_encode (r : RecordPortRange) : Json.Derives .value r.encode :=
  Json.derives_object_pair (Json.derives_int _) (Json.derives_int _)

theorem RecordPorts.derives_encode (p : RecordPorts) : Json.Derives .value p.encode := by
  refine Json.derives_object_pair p.ephemeral.derives_encode (Json.derives_array fun t ht => ?_)
  obtain ⟨r, -, rfl⟩ := List.mem_map.1 ht
  exact r.derives_encode

theorem RecordInterface.derives_encode (i : RecordInterface) : Json.Derives .value i.encode :=
  Json.derives_object_pair (Json.derives_string _) (Json.derives_int _)

theorem Record.derives_encode (r : Record) : Json.Derives .value r.encode :=
  Json.derives_object_pair r.interface.derives_encode r.ports.derives_encode

/-- **No strict prefix of the encoding of a record is a document.** -/
theorem Record.not_document_of_strict {r : Record} {bs : Bytes} (hp : bs <+: r.encode) (hne : bs ≠ r.encode) :
    ¬ Json.Document bs := r.derives_encode.not_document_of_strict rfl hp hne

/-! ## Where the record comes from -/

structure Interfaces where
  getInterfaceAddress : String → Except Error String
  getMtu : String → Except Error Int32

/-- `RecordInterface::new` (mod.rs:208). -/
def RecordInterface.new (kernel : Interfaces) (interface : String) : Except Error RecordInterface := do
  let ipv4NetworkAddress ← kernel.getInterfaceAddress interface
  let mtu ← kernel.getMtu interface
  pure ⟨ipv4NetworkAddress, mtu⟩

def RecordPortRange.ofPortRange (r : PortRange) : RecordPortRange := ⟨r.first, r.last⟩

/-- `Record::new` (mod.rs:177). -/
def Record.new (kernel : Interfaces) (cfg : CliHost) : Except Error Record := do
  let interface ← RecordInterface.new kernel cfg.interface
  pure ⟨interface, .ofPortRange cfg.enclaveEphemeralPorts, cfg.enclavePorts.map RecordPortRange.ofPortRange⟩

/-- `Bootstrap::new` (mod.rs:46). -/
def Bootstrap.new (kernel : Interfaces) (cfg : CliHost) (backoff : ExponentialBackoff) :
    Outcome Error Bootstrap :=
  match Record.new kernel cfg with
  | .error e => .err e
  | .ok r =>
    match cfg.ingressVsockAddress.asVsockAddress with
    | none => .panic
    | some (peerCid, _) => .ok ⟨cfg.bootstrapVsockAddress, peerCid, backoff, r.encode⟩

/-- The record of a configuration: what the kernel says of its interface, and all its port ranges, in order. -/
theorem Record.new_eq_ok {kernel : Interfaces} {cfg : CliHost} {r : Record} (h : Record.new kernel cfg = .ok r) :
    kernel.getInterfaceAddress cfg.interface = .ok r.interface.ipv4NetworkAddress ∧
      kernel.getMtu cfg.interface = .ok r.interface.mtu ∧
      r.ports = ⟨.ofPortRange cfg.enclaveEphemeralPorts, cfg.enclavePorts.map RecordPortRange.ofPortRange⟩ := by
  unfold Record.new RecordInterface.new at h
  cases ha : kernel.getInterfaceAddress cfg.interface with
  | error e =>
    rw [ha] at h
    cases h
  | ok address =>
    cases hm : kernel.getMtu cfg.interface with
    | error e =>
      rw [ha, hm] at h
      cases h
    | ok mtu =>
      rw [ha, hm] at h
      cases h
      exact ⟨rfl, rfl, rfl⟩

/-- What is served is the encoding of the record of the configuration. -/
theorem Bootstrap.info_of_new {kernel : Interfaces} {cfg : CliHost} {backoff : ExponentialBackoff}
    {self : Bootstrap} (h : Bootstrap.new kernel cfg backoff = .ok self) :
    ∃ r, Record.new kernel cfg = .ok r ∧ self.info = r.encode := by
  unfold Bootstrap.new at h
  split at h
  · cases h
  · rename_i r hr
    split at h
    · cases h
    · cases h
      exact ⟨r, hr, rfl⟩

end Glycerine
