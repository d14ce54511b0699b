import Glycerine.Interact.Drive
import Glycerine.Interact.Embed
import Glycerine.Interact.Refine
import Glycerine.Setup.Nftnl
import Glycerine.Setup.Rulesets
/-
# The setups over netlink

In the setups a batch is sent by one operation. Here it is sent as `send_and_process` does, with all the datagrams that
the kernel answers by, while the other operations stay as they are. Nothing that was shown of the setups is lost
(`setups_over_netlink`).

| here | there |
| --- | --- |
| `finalize` | `Batch::finalize` of the `nftnl` crate: the messages as they are sent, with their sequence numbers |
-/

namespace Glycerine
open Interact Nftables Nftnl

variable {M : Type}

/-- The operations of the setups, and those on a netlink socket. -/
abbrev netSig (M : Type) : Sig :=
  ⟨KernelOp ⊕ NetlinkOp, fun
    | .inl op => op.Res
    | .inr op => op.Res M⟩

instance : DecidableEq (netSig M).Op := inferInstanceAs (DecidableEq (KernelOp ⊕ NetlinkOp))

def netlinkOps : Embedding (netlinkSig M) (netSig M) := ⟨.inr, fun _ => rfl⟩

/-- What a setup learns of a batch, if it goes on. -/
def answer : Outcome IoError Unit → Option (Except IoError Unit)
  | .ok () => some (.ok ())
  | .err e => some (.error e)
  | .panic => none

section
variable (cbRun : M → UInt32 → UInt32 → Except IoError Unit) (finalize : Batch → FinalizedBatch)

/-- A batch is sent by `send_and_process`, which may panic. -/
def overNetlink : Impl kernelSig (netSig M)
  | .sendBatch batch =>
    .bind (Prog.embed netlinkOps (Nftnl.sendAndProcess cbRun (finalize batch))) fun r => .pure (answer r)
  | op => .call (.inl op) some

/-- All messages of the batch have been accepted, in their order. -/
def Confirmed (batch : Batch) (t : Trace (netSig M)) : Prop :=
  ∃ g h g' portid, t = g ++ h.map netlinkOps.event ++ g' ∧
    Answered cbRun (finalize batch) portid (finalize batch).sequenceNumbers h

end

/-- No batch gets more answers than it has messages. -/
def AnswersOnce {T : Sig} (i : Embedding (netlinkSig M) T) (t : Trace T) : Prop :=
  ∀ g batch portid ds g', t = g ++ (Nftnl.reading batch portid ds).map i.event ++ g' →
    ds.flatten.length ≤ batch.sequenceNumbers.length

theorem not_answersOnce {T : Sig} {i : Embedding (netlinkSig M) T} {t : Trace T} {batch : FinalizedBatch}
    {portid : UInt32} {ds : List (List (Except IoError M))} (hlt : batch.sequenceNumbers.length < ds.flatten.length) :
    ¬ AnswersOnce i (t ++ (Nftnl.reading batch portid ds).map i.event) := by
  intro honce
  have hlen := honce t batch portid ds [] (List.append_nil _).symm
  omega

section
variable {cbRun : M → UInt32 → UInt32 → Except IoError Unit} {finalize : Batch → FinalizedBatch}

/-- A batch that has been sent. -/
theorem ends_of_sendBatch {batch : Batch} {v : Trace (netSig M)} {r : Option (Except IoError Unit)}
    (hx : Exec (overNetlink cbRun finalize (.sendBatch batch)) v (.done r)) :
    ∃ h o, v = h.map netlinkOps.event ∧ Ends cbRun (finalize batch) o h ∧ r = answer o := by
  obtain ⟨op, ho, -⟩ | ⟨o, t₁, t₂, rfl, hsent, hr⟩ := exec_bind.1 hx
  · cases ho
  obtain ⟨rfl, ho⟩ := exec_pure.1 hr
  cases ho
  obtain ⟨h, rfl, hx'⟩ := exec_embed_done.1 hsent
  exact ⟨h, o, List.append_nil _, sendAndProcess_spec.returned rfl hx' trivial, rfl⟩

/-- Only a batch can make a setup panic, by too many answers. -/
theorem exceeds_of_died {op : kernelSig.Op} {v : Trace (netSig M)}
    (hx : Exec (overNetlink cbRun finalize op) v (.done none)) :
    ∃ batch portid ds, v = (Nftnl.reading batch portid ds).map netlinkOps.event ∧
      batch.sequenceNumbers.length < ds.flatten.length := by
  cases op with
  | sendBatch batch =>
    obtain ⟨h, o, rfl, hends, ho⟩ := ends_of_sendBatch hx
    cases o with
    | ok => cases ho
    | err e => cases ho
    | panic =>
      obtain ⟨portid, ds, rfl, hlt⟩ := hends.exceeds
      exact ⟨finalize batch, portid, ds, rfl, hlt⟩
  | _ =>
    obtain ⟨-, ho⟩ | ⟨r, -, ho⟩ := exec_call.1 hx
    · cases ho
    · cases ho

/-- What the setup takes for sent has been confirmed. -/
theorem confirmed_of_spread {u : SetupHistory} {t : Trace (netSig M)} (h : Spread (overNetlink cbRun finalize) u t)
    {batch : Batch} (hmem : ⟨.sendBatch batch, .ok ()⟩ ∈ u) : Confirmed cbRun finalize batch t := by
  obtain ⟨g, v, g', rfl, hx⟩ := h.mem hmem
  obtain ⟨sent, o, rfl, hends, ho⟩ := ends_of_sendBatch hx
  cases o with
  | ok =>
    obtain ⟨portid, ha⟩ := hends
    exact ⟨g, sent, g', portid, rfl, ha⟩
  | err e => cases ho
  | panic => cases ho

end

section
variable (cbRun : M → UInt32 → UInt32 → Except IoError Unit) (finalize : Batch → FinalizedBatch)

/-- The setup `p` has succeeded over netlink, as it does with the history `u`. -/
structure SucceedsAs (p : Setup Error Unit) (u : SetupHistory) (t : Trace (netSig M)) : Prop where
  exec : Exec p u (.done (.ok ()))
  spread : Spread (overNetlink cbRun finalize) u t
  confirmed : ∀ batch, ⟨.sendBatch batch, .ok ()⟩ ∈ u → Confirmed cbRun finalize batch t

end

section
variable {cbRun : M → UInt32 → UInt32 → Except IoError Unit} {finalize : Batch → FinalizedBatch}

theorem succeedsAs_of_exec {p : Setup Error Unit} {t : Trace (netSig M)}
    (hx : Exec (p.carry (overNetlink cbRun finalize)) t (.done (some (.ok ())))) :
    ∃ u, SucceedsAs cbRun finalize p u t := by
  cases carries_of_exec hx with
  | done hp hu => exact ⟨_, hp, hu, fun _ => confirmed_of_spread hu⟩

/-- **The setups over netlink do what they do with one operation for a batch**, and panic only if a batch gets more
answers than it has messages. When they have succeeded, the kernel has accepted every message of their batches, and
these are in place. -/
theorem setups_over_netlink :
    (∀ (p : Setup Error Unit) t o, Exec (p.carry (overNetlink cbRun finalize)) t o →
      Carries (overNetlink cbRun finalize) p t o ∧ (o = .done none → ¬ AnswersOnce netlinkOps t)) ∧
    (∀ (cfg : CliHost) t, Exec (cfg.setup.carry (overNetlink cbRun finalize)) t (.done (some (.ok ()))) →
      ∃ u, SucceedsAs cbRun finalize cfg.setup u t ∧ ∀ {α : Type} (rs : Ruleset α),
        SinksQueue rs (ruleset rs u) cfg.ingressNetfilterQueueNum .preRouting
          (IngressPacket cfg.interface.toUTF8.toList (cfg.dstPorts.map PortRange.pair))) ∧
    ∀ parseNetwork (cfg : CliEnclave) bootstrap t,
      Exec ((cfg.setup parseNetwork bootstrap).carry (overNetlink cbRun finalize)) t (.done (some (.ok ()))) →
      ∃ u a, SucceedsAs cbRun finalize (cfg.setup parseNetwork bootstrap) u t ∧
        parseNetwork bootstrap.interface.ipv4NetworkAddress = some a ∧ ∀ {α : Type} (rs : Ruleset α),
          SinksQueue rs (ruleset rs u) cfg.egressNetfilterQueueNum .out
            (EgressPacket a.ip bootstrap.ports.srcPorts) := by
  refine ⟨fun p t o hx => ?_, fun cfg t hx => ?_, fun parseNetwork cfg bootstrap t hx => ?_⟩
  · have hcarries := carries_of_exec hx
    refine ⟨hcarries, fun ho => ?_⟩
    subst ho
    cases hcarries with
    | died _ _ hdied =>
      obtain ⟨batch, portid, ds, rfl, hlt⟩ := exceeds_of_died hdied
      exact not_answersOnce hlt
  · obtain ⟨u, hu⟩ := succeedsAs_of_exec hx
    exact ⟨u, hu, fun rs => CliHost.setup_queues rs hu.exec⟩
  · obtain ⟨u, hu⟩ := succeedsAs_of_exec hx
    obtain ⟨a, ha⟩ := CliEnclave.parsed_of_setup hu.exec
    refine ⟨u, a, hu, ha, fun rs => ?_⟩
    obtain ⟨a', ha', hqueues⟩ := CliEnclave.setup_queues rs hu.exec
    rw [ha] at ha'
    cases ha'
    exact hqueues

end

namespace Demo

/-- The messages of a batch are numbered. -/
def numbered (batch : Batch) : FinalizedBatch :=
  ⟨batch.map fun _ => [], (List.range batch.length).map UInt32.ofNat⟩

/-- Every message is answered by a datagram of its own. -/
def oneByOne (batch : Batch) : Trace (netSig UInt32) :=
  (Nftnl.reading (numbered batch) 4242 ((numbered batch).sequenceNumbers.map fun n => [.ok n])).map netlinkOps.event

/-- The setup of `servingHost 443 0`. -/
def servingOverNetlink : Trace (netSig UInt32) :=
  ⟨.inl .readLocalPortRange, .ok "40000\t40000\n"⟩ ::
    (oneByOne (ingressBatch 0 (tcpTable 0) [101, 110, 115, 53] .TCP [(443, 443), (50000, 50000)]) ++
      oneByOne (ingressBatch 0 (udpTable 0) [101, 110, 115, 53] .UDP [(443, 443), (50000, 50000)]))

theorem servingOverNetlink_succeeds :
    ∃ u, SucceedsAs acknowledges numbered (servingHost 443 0).setup u servingOverNetlink ∧
      ∀ {α : Type} (rs : Ruleset α), SinksQueue rs (ruleset rs u) 0 .preRouting
        (IngressPacket "ens5".toUTF8.toList ((servingHost 443 0).dstPorts.map PortRange.pair)) := by
  have hx : Exec ((servingHost 443 0).setup.carry (overNetlink acknowledges numbered)) servingOverNetlink
      (.done (some (.ok ()))) := exec_of_script 200 (by decide +kernel)
  exact setups_over_netlink.2.1 (servingHost 443 0) _ hx

end Demo
end Glycerine
