import Glycerine.Bootstrap.Record
import Glycerine.Setup.EphemeralPorts
import Glycerine.Setup.Interface
/-
# Setting up the enclave

What `proxy/enclave.rs` does with the record of the host before the workers start.

| here | there |
| --- | --- |
| `CliEnclave`                  | `cli/enclave.rs:12`, without what only the workers are started with |
| `parseNetwork`                | `str::parse::<Ipv4Network>` of `pnet` |
| `setup`                       | `setup` (`enclave.rs:114`) |
-/

namespace Glycerine
open Interact

structure CliEnclave where
  interface : String
  egressNetfilterQueueNum : UInt16
deriving DecidableEq, Repr

def RecordPortRange.pair (r : RecordPortRange) : UInt16 × UInt16 := (r.from', r.to')

/-- The ranges whose packets are sent to the host (enclave.rs:251). -/
def RecordPorts.srcPorts (ports : RecordPorts) : List (UInt16 × UInt16) :=
  ports.service.map RecordPortRange.pair ++ [ports.ephemeral.pair]

namespace CliEnclave

/-- `setup` (enclave.rs:114). -/
def setup (parseNetwork : String → Option Ipv4Network) (cfg : CliEnclave) (bootstrap : Record) :
    Setup Error Unit := do
  let address ← Task.ofExcept
    ((parseNetwork bootstrap.interface.ipv4NetworkAddress).elim (.error .ipNetworkError) .ok)
  let _ ← bringInterfaceUp cfg.interface
  let _ ← addIpv4InterfaceAddress cfg.interface address
  ensureDefaultIpv4Route cfg.interface address
  let _ ← setMtu cfg.interface bootstrap.interface.mtu
  let _ ← setEphemeralPorts bootstrap.ports.ephemeral.from' bootstrap.ports.ephemeral.to'
  let _ ← addEgressNetfilterPacketsSink cfg.egressNetfilterQueueNum .TCP address.ip bootstrap.ports.srcPorts
  let _ ← addEgressNetfilterPacketsSink cfg.egressNetfilterQueueNum .UDP address.ip bootstrap.ports.srcPorts
  pure ()

section
variable {E : Env kernelSig} {I : SetupHistory → Prop} {parseNetwork : String → Option Ipv4Network}
    {cfg : CliEnclave}
  {bootstrap : Record} {a : Ipv4Network}

/-- The parts of `setup`, each from what the one before it leaves behind. -/
theorem triple_setup {P : Nat → SetupHistory → Prop}
    (hparse : parseNetwork bootstrap.interface.ipv4NetworkAddress = some a)
    (hI : ∀ h, P 0 h → I h)
    (hup : Triple E I (P 0) (bringInterfaceUp cfg.interface) (Leaves I fun _ => P 1))
    (haddress : Triple E I (P 1) (addIpv4InterfaceAddress cfg.interface a) (Leaves I fun _ => P 2))
    (hroute : Triple E I (P 2) (ensureDefaultIpv4Route cfg.interface a) (Leaves I fun _ => P 3))
    (hmtu : Triple E I (P 3) (setMtu cfg.interface bootstrap.interface.mtu) (Leaves I fun _ => P 4))
    (hports : Triple E I (P 4) (setEphemeralPorts bootstrap.ports.ephemeral.from' bootstrap.ports.ephemeral.to')
      (Leaves I fun _ => P 5))
    (htcp : Triple E I (P 5)
      (addEgressNetfilterPacketsSink cfg.egressNetfilterQueueNum .TCP a.ip bootstrap.ports.srcPorts)
      (Leaves I fun _ => P 6))
    (hudp : Triple E I (P 6)
      (addEgressNetfilterPacketsSink cfg.egressNetfilterQueueNum .UDP a.ip bootstrap.ports.srcPorts)
      (Leaves I fun _ => P 7)) :
    Triple E I (P 0) (cfg.setup parseNetwork bootstrap) (Leaves I fun _ => P 7) := by
  refine Task.triple_seq _ (triple_check hI) fun b => triple_of_fact fun hb => ?_
  rw [hparse] at hb
  cases hb
  refine Task.triple_seq _ hup fun _ => ?_
  refine Task.triple_seq _ haddress fun _ => ?_
  refine Task.triple_seq _ hroute fun _ => ?_
  refine Task.triple_seq _ hmtu fun _ => ?_
  refine Task.triple_seq _ hports fun _ => ?_
  refine Task.triple_seq _ htcp fun _ => ?_
  exact Task.triple_seq _ hudp fun _ => Task.triple_ret fun h hP _ => hP

/-- It does not succeed without the address. -/
theorem parsed_of_setup {h : SetupHistory} (hx : Exec (cfg.setup parseNetwork bootstrap) h (.done (.ok ()))) :
    ∃ a, parseNetwork bootstrap.interface.ipv4NetworkAddress = some a := by
  obtain ⟨a, _, _, -, ha, -⟩ := Task.exec_andThen_ok hx
  have key := Task.exec_ofExcept_ok ha
  cases hp : parseNetwork bootstrap.interface.ipv4NetworkAddress with
  | some b => exact ⟨b, rfl⟩
  | none =>
    rw [hp] at key
    cases key

end

end CliEnclave
end Glycerine
