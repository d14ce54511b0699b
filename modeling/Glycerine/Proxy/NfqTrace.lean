import Glycerine.Proxy.NfqMachine
import Glycerine.System.Trace
/-
# The sender's streams, over all runs

Every payload belongs to the connection that was open when it was received. `Blocks` says that the stream of a
connection is the beginning of its payloads, one after another; `Boundary` that the current connection has
all of its payloads completely, which is where `pump` starts a round and where a new connection starts;
`Inside` that a part of the last one is still to be sent. A send that fails leaves `Inside` for good, and
`run` then opens another connection; a queue that fails is replaced at a boundary.
-/

namespace Glycerine
open Interact

/-- The payloads `blk c` of each connection `c`, and what of them was sent on it. -/
structure Blocks (h : History) (blk : Fd → List Bytes) : Prop where
  recvd : recvd h = (opened h).flatMap blk
  sent : ∀ c ∈ opened h, sentOn c h <+: (blk c).flatten
  unopened : ∀ c, c ∉ opened h → sentOn c h = []

/-- The sender's streams are cut from its payloads. -/
def Aligned (h : History) : Prop := ∃ blk, Blocks h blk

/-- Connection `c` is the current one and has all of its payloads. -/
def Boundary (c : Fd) (h : History) : Prop :=
  ∃ blk cs, Blocks h blk ∧ opened h = cs ++ [c] ∧ sentOn c h = (blk c).flatten

/-- Connection `c` is the current one and has all of its payloads, but only `sent` bytes of the last one, `m`. -/
def Inside (c : Fd) (m : Bytes) (sent : Nat) (h : History) : Prop :=
  ∃ blk cs old, Blocks h blk ∧ opened h = cs ++ [c] ∧ blk c = old ++ [m] ∧
    sentOn c h = old.flatten ++ m.take sent

/-- A handle is the name of one connection. -/
def freshConnections : Env sysSig where
  ok h := (opened h).Nodup
  ok_of_append := by
    intro h t hn
    rw [opened_append] at hn
    exact (List.nodup_append.1 hn).1

theorem Boundary.aligned {c : Fd} {h : History} : Boundary c h → Aligned h := fun ⟨blk, _, hb, _⟩ => ⟨blk, hb⟩
theorem Inside.aligned {c : Fd} {m : Bytes} {sent : Nat} {h : History} : Inside c m sent h → Aligned h :=
  fun ⟨blk, _, _, hb, _⟩ => ⟨blk, hb⟩

/-! ## What one event does -/

/-- An event that says nothing about payloads, connections and streams. -/
def Still (e : SysEvent) : Prop := recvd [e] = [] ∧ opened [e] = [] ∧ ∀ c, sentOn c [e] = []

section
variable {h : History} {e : SysEvent} {c : Fd} {blk : Fd → List Bytes}

theorem Blocks.still (hb : Blocks h blk) (he : Still e) : Blocks (h ++ [e]) blk := by
  obtain ⟨h₁, h₂, h₃⟩ := he
  refine ⟨?_, fun c hc => ?_, fun c hc => ?_⟩
  · rw [recvd_append, opened_append, h₁, h₂, List.append_nil, List.append_nil, hb.recvd]
  · rw [opened_append, h₂, List.append_nil] at hc
    rw [sentOn_append, h₃, List.append_nil]
    exact hb.sent c hc
  · rw [opened_append, h₂, List.append_nil] at hc
    rw [sentOn_append, h₃, List.append_nil]
    exact hb.unopened c hc

theorem Aligned.still (hb : Aligned h) (he : Still e) : Aligned (h ++ [e]) :=
  let ⟨blk, hb⟩ := hb
  ⟨blk, hb.still he⟩

theorem Boundary.still (hb : Boundary c h) (he : Still e) : Boundary c (h ++ [e]) := by
  obtain ⟨blk, cs, hb, hc, hs⟩ := hb
  refine ⟨blk, cs, hb.still he, ?_, ?_⟩
  · rw [opened_append, he.2.1, List.append_nil, hc]
  · rw [sentOn_append, he.2.2, List.append_nil, hs]

theorem Inside.still {m : Bytes} {sent : Nat} (hb : Inside c m sent h) (he : Still e) :
    Inside c m sent (h ++ [e]) := by
  obtain ⟨blk, cs, old, hb, hc, hm, hs⟩ := hb
  refine ⟨blk, cs, old, hb.still he, ?_, hm, ?_⟩
  · rw [opened_append, he.2.1, List.append_nil, hc]
  · rw [sentOn_append, he.2.2, List.append_nil, hs]

/-- A message is received: it is the current connection's. -/
theorem Boundary.recv {q : Fd} {m : Message} (hb : Boundary c h) (hn : (opened h).Nodup) :
    Inside c m.payload 0 (h ++ [⟨.recv q, .ok m⟩]) := by
  obtain ⟨blk, cs, hb, hc, hs⟩ := hb
  have hopened : opened (h ++ [⟨.recv q, .ok m⟩]) = opened h := by
    rw [opened_append]
    exact List.append_nil _
  have hsent : ∀ c, sentOn c (h ++ [⟨.recv q, .ok m⟩]) = sentOn c h := by
    intro c
    rw [sentOn_append]
    exact List.append_nil _
  refine ⟨fun x => if x = c then blk c ++ [m.payload] else blk x, cs, blk c, ⟨?_, ?_, ?_⟩, ?_, if_pos rfl, ?_⟩
  · rw [recvd_append, hopened, hb.recvd, hc, List.flatMap_append, List.flatMap_append,
      flatMap_update (not_mem_of_nodup (hc ▸ hn)), List.append_assoc]
    simp [recvd]
  · intro x hx
    rw [hopened] at hx
    rw [hsent]
    by_cases hxc : x = c
    · subst hxc
      rw [if_pos rfl, hs, List.flatten_append]
      exact List.prefix_append _ _
    · rw [if_neg hxc]
      exact hb.sent x hx
  · intro x hx
    rw [hopened] at hx
    rw [hsent]
    exact hb.unopened x hx
  · rw [hopened, hc]
  · rw [hsent, hs, List.take_zero, List.append_nil]

/-- A send has put `k` more bytes of the payload on the stream. -/
theorem Inside.sendEvent {m : Bytes} {sent k : Nat} {r : Except IoError (Fin ((m.drop sent).length + 1))}
    (hb : Inside c m sent h)
    (hk : ∀ x, sentOn x [⟨.send c (m.drop sent), r⟩] = if c = x then (m.drop sent).take k else []) :
    Inside c m (sent + k) (h ++ [⟨.send c (m.drop sent), r⟩]) := by
  obtain ⟨blk, cs, old, hb, hc, hm, hs⟩ := hb
  have hopened : opened (h ++ [⟨.send c (m.drop sent), r⟩]) = opened h := by
    rw [opened_append]
    exact List.append_nil _
  have hrecvd : recvd (h ++ [⟨.send c (m.drop sent), r⟩]) = recvd h := by
    rw [recvd_append]
    exact List.append_nil _
  have hother : ∀ x, x ≠ c → sentOn x (h ++ [⟨.send c (m.drop sent), r⟩]) = sentOn x h := by
    intro x hx
    rw [sentOn_append, hk, if_neg hx.symm, List.append_nil]
  have hsent : sentOn c (h ++ [⟨.send c (m.drop sent), r⟩]) = old.flatten ++ m.take (sent + k) := by
    rw [sentOn_append, hs, hk, if_pos rfl, List.take_add, List.append_assoc]
  refine ⟨blk, cs, old, ⟨?_, ?_, ?_⟩, ?_, hm, hsent⟩
  · rw [hrecvd, hopened, hb.recvd]
  · intro x hx
    rw [hopened] at hx
    by_cases hxc : x = c
    · subst hxc
      rw [hsent, hm, List.flatten_append, List.flatten_singleton]
      exact (List.prefix_append_right_inj _).2 (List.take_prefix _ _)
    · rw [hother x hxc]
      exact hb.sent x hx
  · intro x hx
    rw [hopened] at hx
    rw [hother x]
    · exact hb.unopened x hx
    · rintro rfl
      exact hx (by rw [hc]; simp)
  · rw [hopened, hc]

theorem Inside.send {m : Bytes} {sent : Nat} (hb : Inside c m sent h)
    (n : Fin ((m.drop sent).length + 1)) :
    Inside c m (sent + n.val) (h ++ [⟨.send c (m.drop sent), .ok n⟩]) :=
  hb.sendEvent fun _ => List.append_nil _

theorem Inside.sendFails {m : Bytes} {sent : Nat} {e : IoError} (hb : Inside c m sent h) :
    Aligned (h ++ [⟨.send c (m.drop sent), .error e⟩]) :=
  (hb.sendEvent (k := (m.drop sent).length) fun x => by
    rw [List.take_length]
    exact List.append_nil _).aligned

/-- All of the payload was sent. -/
theorem Inside.boundary {m : Bytes} {sent : Nat} (hb : Inside c m sent h) (hlen : m.length ≤ sent) :
    Boundary c h := by
  obtain ⟨blk, cs, old, hb, hc, hm, hs⟩ := hb
  refine ⟨blk, cs, hb, hc, ?_⟩
  rw [hs, hm, List.take_of_length_le hlen, List.flatten_append, List.flatten_singleton]

/-- A new connection starts at a boundary, whatever became of the last one. -/
theorem Aligned.connect {a : SockAddr} {r : Except IoError Unit} (hb : Aligned h)
    (hn : (opened (h ++ [⟨.connect c a, r⟩])).Nodup) : Boundary c (h ++ [⟨.connect c a, r⟩]) := by
  obtain ⟨blk, hb⟩ := hb
  have hopened : opened (h ++ [⟨.connect c a, r⟩]) = opened h ++ [c] := by
    rw [opened_append]
    rfl
  have hrecvd : recvd (h ++ [⟨.connect c a, r⟩]) = recvd h := by
    rw [recvd_append]
    exact List.append_nil _
  have hsent : ∀ x, sentOn x (h ++ [⟨.connect c a, r⟩]) = sentOn x h := by
    intro x
    rw [sentOn_append]
    exact List.append_nil _
  have hnot : c ∉ opened h := not_mem_of_nodup (hopened ▸ hn)
  refine ⟨fun x => if x = c then [] else blk x, opened h, ⟨?_, ?_, ?_⟩, hopened, ?_⟩
  · rw [hrecvd, hopened, List.flatMap_append, flatMap_update hnot, hb.recvd]
    simp
  · intro x hx
    rw [hsent]
    by_cases hxc : x = c
    · subst hxc
      rw [hb.unopened x hnot]
      exact List.nil_prefix
    · rw [if_neg hxc]
      rw [hopened] at hx
      exact hb.sent x ((List.mem_append.1 hx).resolve_right (by simpa using hxc))
  · intro x hx
    rw [hopened] at hx
    rw [hsent]
    exact hb.unopened x fun hmem => hx (List.mem_append_left _ hmem)
  · rw [hsent, hb.unopened c hnot]
    simp

end

/-! ## What holds in each phase -/

namespace NfqToVsock

theorem still_of_retryStep {b : ExponentialBackoff} {p p' : RetryPhase} {e : SysEvent}
    (hs : RetryStep b p e p') : Still e := by
  cases hs <;> exact ⟨rfl, rfl, fun _ => rfl⟩

/-- A connection that is kept while the queue is replaced is at a boundary. -/
def Kept : Option Fd → History → Prop
  | none => Aligned
  | some c => Boundary c

theorem Kept.aligned : ∀ {c : Option Fd} {h : History}, Kept c h → Aligned h
  | none, _, hk => hk
  | some _, _, hk => Boundary.aligned hk

theorem Kept.still : ∀ {c : Option Fd} {h : History} {e : SysEvent}, Kept c h → Still e → Kept c (h ++ [e])
  | none, _, _, hk, he => Aligned.still hk he
  | some _, _, _, hk, he => Boundary.still hk he

def StreamInv : Phase → History → Prop
  | .queue c _ | .queueBind c _ _ | .queueEnobufs c _ _ | .queueMaxLen c _ _ => Kept c
  | .connect _ _ _ | .connecting _ _ _ _ | .returned _ => Aligned
  | .connected _ _ _ c | .prepare _ _ c | .halfClose _ _ c | .release _ c _ => Boundary c
  | .idle _ c | .ready _ c | .receiving _ c | .queueFailed _ c => Boundary c
  | .sending _ c m sent => Inside c m.payload sent

theorem StreamInv.aligned {p : Phase} {h : History} (hp : StreamInv p h) : Aligned h := by
  cases p with
  | queue _ _ | queueBind _ _ _ | queueEnobufs _ _ _ | queueMaxLen _ _ _ => exact Kept.aligned hp
  | connect _ _ _ | connecting _ _ _ _ | returned _ => exact hp
  | connected _ _ _ _ | prepare _ _ _ | halfClose _ _ _ | release _ _ _ => exact Boundary.aligned hp
  | idle _ _ | ready _ _ | receiving _ _ | queueFailed _ _ => exact Boundary.aligned hp
  | sending _ _ _ _ => exact Inside.aligned hp

theorem streamInv_inQueue {c : Option Fd} {p : RetryPhase} {h : History} (hk : Kept c h) :
    StreamInv (.inQueue c p) h := by
  cases p with
  | gaveUp e => exact hk.aligned
  | _ => exact hk

theorem streamInv_inConnect {q : Fd} {old : Option Fd} {p : RetryPhase} {h : History} (ha : Aligned h) :
    StreamInv (.inConnect q old p) h := by
  cases p <;> exact ha

theorem streamInv_afterQueue {q : Fd} {c : Option Fd} {h : History} (hk : Kept c h) :
    StreamInv (.afterQueue q c) h := by
  cases c <;> exact hk

theorem streamInv_afterConnect {q c : Fd} {old : Option Fd} {h : History} (hb : Boundary c h) :
    StreamInv (.afterConnect q c old) h := by
  cases old <;> exact hb

theorem streamInv_step {self : NfqToVsock} {p p' : Phase} {e : SysEvent} {h : History} (hs : Step self p e p')
    (hp : StreamInv p h) (hn : (opened (h ++ [e])).Nodup) : StreamInv p' (h ++ [e]) := by
  have hn₀ : (opened h).Nodup := freshConnections.ok_of_append hn
  cases hs with
  | queueRetry hr => exact streamInv_inQueue (Kept.still hp (still_of_retryStep hr))
  | queueOpen | queueBind | queueEnobufs => exact Kept.still hp ⟨rfl, rfl, fun _ => rfl⟩
  | queueOpenFails | queueBindFails | queueEnobufsFails | queueMaxLenFails =>
    exact Kept.still hp ⟨rfl, rfl, fun _ => rfl⟩
  | queueMaxLen => exact streamInv_afterQueue (Kept.still hp ⟨rfl, rfl, fun _ => rfl⟩)
  | connectRetry hr => exact streamInv_inConnect (Aligned.still hp (still_of_retryStep hr))
  | socketNew | socketNewFails => exact Aligned.still hp ⟨rfl, rfl, fun _ => rfl⟩
  | connect => exact Aligned.connect hp hn
  | connectFails => exact (Aligned.connect hp hn).aligned
  | connected | prepare => exact Boundary.still hp ⟨rfl, rfl, fun _ => rfl⟩
  | connectedFails | prepareFails | halfCloseFails =>
    exact Aligned.still (Boundary.aligned hp) ⟨rfl, rfl, fun _ => rfl⟩
  | halfClose => exact streamInv_afterConnect (Boundary.still hp ⟨rfl, rfl, fun _ => rfl⟩)
  | release | idle | ready | recvOverflow | recvFails | dropQueue =>
    exact Boundary.still hp ⟨rfl, rfl, fun _ => rfl⟩
  | idleCancelled | readyCancelled => exact Aligned.still (Boundary.aligned hp) ⟨rfl, rfl, fun _ => rfl⟩
  | recv => exact Boundary.recv hp hn₀
  | @send q c m sent n => exact Inside.send hp n
  | sendZero _ hz => exact Aligned.still (Inside.aligned hp) ⟨rfl, rfl, fun _ => by simp [sentOn, hz]⟩
  | sendFails => exact Inside.sendFails hp
  | verdict hle | verdictFails hle => exact Boundary.still (Inside.boundary hp hle) ⟨rfl, rfl, fun _ => rfl⟩

/-- **At every moment of every run** the streams are the beginnings of consecutive payloads. -/
theorem run_aligned {self : NfqToVsock} {h : History} {o : Status sysSig (Outcome Error Unit)}
    (hx : Exec self.run h o) (hn : (opened h).Nodup) : Aligned h := by
  obtain ⟨p, hp⟩ := (run_path hx).path
  have h₀ : StreamInv self.machine.start [] := ⟨fun _ => [], rfl, by simp [opened], fun _ _ => rfl⟩
  exact (hp.inv (E := freshConnections) (J := StreamInv) h₀ streamInv_step hn).aligned

end NfqToVsock
end Glycerine
