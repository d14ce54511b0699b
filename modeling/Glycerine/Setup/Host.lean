import Glycerine.Setup.EphemeralPorts
import Glycerine.Setup.Netfilter
import Glycerine.Setup.Ports
/-
# Setting up the host

What `proxy/host.rs` does before the services start: the port check, the ephemeral ports of the host, and the
netfilter rules that divert packets to the proxy.

| here | there |
| --- | --- |
| `setup`                              | `setup` (`host.rs:102`) |
-/

namespace Glycerine
open Interact

/-! ## `setup` -/

namespace CliHost

/-- `setup` (host.rs:102). -/
def setup (cfg : CliHost) : Setup Error Unit := do
  Task.ofExcept cfg.ensureNoPortOverlaps
  let _ ← setEphemeralPorts cfg.hostEphemeralPorts.first cfg.hostEphemeralPorts.last
  let _ ← addIngressNetfilterPacketsSink cfg.ingressNetfilterQueueNum cfg.interface .TCP
    (cfg.dstPorts.map PortRange.pair)
  let _ ← addIngressNetfilterPacketsSink cfg.ingressNetfilterQueueNum cfg.interface .UDP
    (cfg.dstPorts.map PortRange.pair)
  pure ()

/-- The parts of `setup`, each from what the one before it leaves behind. -/
theorem triple_setup {E : Env kernelSig} {I : SetupHistory → Prop} {P : Nat → SetupHistory → Prop} {cfg : CliHost}
    (hI : ∀ h, P 0 h → I h)
    (hports : cfg.ensureNoPortOverlaps = .ok () →
      Triple E I (P 0) (setEphemeralPorts cfg.hostEphemeralPorts.first cfg.hostEphemeralPorts.last)
        (Leaves I fun _ => P 1))
    (htcp : Triple E I (P 1) (addIngressNetfilterPacketsSink cfg.ingressNetfilterQueueNum cfg.interface .TCP
      (cfg.dstPorts.map PortRange.pair)) (Leaves I fun _ => P 2))
    (hudp : Triple E I (P 2) (addIngressNetfilterPacketsSink cfg.ingressNetfilterQueueNum cfg.interface .UDP
      (cfg.dstPorts.map PortRange.pair)) (Leaves I fun _ => P 3)) :
    Triple E I (P 0) cfg.setup (Leaves I fun _ h => cfg.ensureNoPortOverlaps = .ok () ∧ P 3 h) := by
  refine Task.triple_seq _ (triple_check hI) fun _ => triple_of_fact fun hok => ?_
  refine Task.triple_seq _ (hports hok) fun _ => ?_
  refine Task.triple_seq _ htcp fun _ => ?_
  exact Task.triple_seq _ hudp fun _ => Task.triple_ret fun h hP _ => ⟨hok, hP⟩

end CliHost
end Glycerine
