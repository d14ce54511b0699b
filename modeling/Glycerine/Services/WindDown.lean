import Glycerine.Interact.Comes
import Glycerine.Services.Guarded
import Glycerine.Services.NoPanic
import Glycerine.Services.Reactive
import Mathlib.Data.List.Chain
/-
# What a service does once it is cancelled

A history `u ++ v` is cut where the token is cancelled, so no look at it in `v` finds it not cancelled. `WindsDown`
says what `v` can be: wherever the cut is, and whatever the operations in `v` answer, the service finishes what it
is in the middle of (`run_windsDown`). It may sleep once before it does: `backoff::retry` sleeps after a failed
attempt, and only then looks at the token. As `v` can only be so long and no service spins, it returns
(`returns_of_windsDown`).
-/

namespace Glycerine
open Interact Machine

/-- What a send or a write offers, and how much of it is taken. -/
def sends : SysEvent → Option (Bytes × Nat)
  | ⟨.send _ bs, .ok n⟩ | ⟨.sendTo _ bs _, .ok n⟩ | ⟨.write _ bs, .ok n⟩ => some (bs, n.val)
  | ⟨.send _ bs, .error _⟩ | ⟨.sendTo _ bs _, .error _⟩ | ⟨.write _ bs, .error _⟩ => some (bs, 0)
  | _ => none

/-- `bs` is just what the send `a` left, and `a` took some. -/
def Continues (a : Bytes × Nat) (bs : Bytes) : Prop := bs = a.1.drop a.2 ∧ bs.length < a.1.length

/-- How many reads were interrupted. -/
def interrupted : SysEvent → Nat
  | ⟨.read _ _, .error e⟩ => if e.isInterrupted = true then 1 else 0
  | _ => 0

/-- The bytes that the first send of `v` offers. -/
def unsent (v : History) : Bytes := ((v.filterMap sends).head?.map Prod.fst).getD []

/-- A look at the token, or the sleep before one. -/
def Pauses : SysOp → Prop
  | .isCancelled | .sleep _ => True
  | _ => False

/-- What is done on the way out. -/
def Parting : SysOp → Prop
  | .isCancelled | .dropSocket _ => True
  | _ => False

/-- What a service does in `v`, if the token is cancelled after `u`. -/
structure WindsDown (reads : Nat) (u v : History) : Prop where
  /-- at most one thing is begun -/
  begins : AtMostOne Starts u v
  /-- and that was decided on before -/
  decided : ∀ v₁ e v₂, v = v₁ ++ e :: v₂ → Starts (u ++ v₁) e → ∀ x ∈ v₁, IsLocalAddr x.1
  /-- what is sent is the rest of one packet -/
  forwards : (v.filterMap sends).IsChain fun a b => Continues a b.1
  /-- a sleep is the delay of one backoff -/
  sleeps : ∀ v₁ d v₂, v = v₁ ++ ⟨.sleep d, ()⟩ :: v₂ → Delayed d (u ++ v₁)
  /-- after it, and after a look at the token, nothing else is done -/
  leaves : ∀ v₁ e v₂, v = v₁ ++ e :: v₂ → Pauses e.1 → ∀ x ∈ v₂, Parting x.1
  /-- and it all ends -/
  returns : v.length ≤ 9 + reads + total interrupted v + (unsent v).length

/-- The same without the sleep. -/
structure WindsDownAtOnce (reads : Nat) (u v : History) : Prop extends WindsDown reads u v where
  no_sleep : ∀ d, ⟨.sleep d, ()⟩ ∉ v

/-- `D` holds of every run of a service, wherever it is cancelled; the receiver may read one packet. -/
def WheneverCancelled (D : Nat → History → History → Prop) : Prop :=
  (∀ (self : NfqToVsock) u v o, Exec self.run (u ++ v) o → ⟨.isCancelled, false⟩ ∉ v → D 0 u v) ∧
  (∀ (self : VsockToIpv4) u v o, Exec self.run (u ++ v) o → ⟨.isCancelled, false⟩ ∉ v →
    D Ipv4.MAX_PACKET_SIZE u v) ∧
  ∀ (self : Bootstrap) u v o, Exec self.run (u ++ v) o → ⟨.isCancelled, false⟩ ∉ v → D 0 u v

/-- What the cancelled service meets: no look at the token finds it not cancelled, at most `k` reads are interrupted,
and what is left to send are `m` bytes at most. -/
def Cut (k m : Nat) (v : History) : Prop :=
  ⟨.isCancelled, false⟩ ∉ v ∧ total interrupted v ≤ k ∧ (unsent v).length ≤ m

/-- Wherever it is cancelled, the service returns after at most that many operations, whatever they answer; it panics
only over a connection that comes from no vsock address. -/
def Returns (reads : Nat) (run : Sys Error Unit) : Prop :=
  ∀ u o, Exec run u o → ∀ k m, Comes run u (Cut k m) (fun _ => False)
    (fun r v => r = .panic → ∃ e ∈ u ++ v, Alien e) (10 + reads + k + m) []

/-- All services do; the receiver may read one packet. -/
def ReturnsWhenCancelled : Prop :=
  (∀ self : NfqToVsock, Returns 0 self.run) ∧
  (∀ self : VsockToIpv4, Returns Ipv4.MAX_PACKET_SIZE self.run) ∧
  ∀ self : Bootstrap, Returns 0 self.run

/-! ## Rules -/

/-- An operation after the cancellation. -/
abbrev Late (e : SysEvent) : Prop := e ≠ ⟨.isCancelled, false⟩

/-- All operations count but the sends and the reads that are interrupted. -/
def cost : SysEvent → Nat
  | ⟨.read _ _, .error e⟩ => if e.isInterrupted = true then 0 else 1
  | ⟨.send _ _, _⟩ | ⟨.sendTo _ _ _, _⟩ | ⟨.write _ _, _⟩ => 0
  | _ => 1

theorem counted (e : SysEvent) : cost e + interrupted e + (sends e).toList.length = 1 := by
  obtain ⟨op, a⟩ := e
  cases op with
  | read =>
    cases a with
    | ok => rfl
    | error e =>
      unfold cost interrupted sends
      simp only [Option.toList_none, List.length_nil]
      split <;> rfl
  | send | sendTo | write => cases a <;> rfl
  | _ => rfl

theorem length_eq (v : History) :
    v.length = total cost v + total interrupted v + (v.filterMap sends).length := by
  induction v with
  | nil => rfl
  | cons e v ih =>
    have hone := counted e
    have hlen : ((e :: v).filterMap sends).length = (sends e).toList.length + (v.filterMap sends).length := by
      rw [List.filterMap_cons]
      cases sends e with
      | none => simp
      | some a => simp [Nat.add_comm]
    rw [List.length_cons, hlen]
    simp only [total]
    omega

/-- Every send but the last one takes something. -/
theorem length_le_of_isChain {l : List (Bytes × Nat)} (hl : l.IsChain fun a b => Continues a b.1) :
    l.length ≤ ((l.head?.map Prod.fst).getD []).length + 1 := by
  induction l with
  | nil => exact Nat.zero_le _
  | cons a l ih =>
    cases l with
    | nil => exact Nat.le_add_left _ _
    | cons b l =>
      obtain ⟨⟨-, hlt⟩, hl⟩ := List.isChain_cons_cons.1 hl
      have hle := ih hl
      simp only [List.head?_cons, Option.map_some, Option.getD_some, List.length_cons] at hle ⊢
      omega

/-- What is to come in a phase after the cancellation. -/
structure Rest where
  /-- how many operations that count are left at most -/
  left : Nat
  /-- what is known of the sends so far -/
  sent : List (Bytes × Nat) → Prop
  /-- only the way out is left -/
  leaving : Prop

/-- Nothing will be sent. -/
abbrev Rest.silent (n : Nat) : Rest := ⟨n, fun _ => True, False⟩
abbrev Rest.out (n : Nat) : Rest := ⟨n, fun _ => True, True⟩

/-- The operation leads from `r` to `r'`. -/
structure Winds (r : Rest) (e : SysEvent) (r' : Rest) : Prop where
  cost : cost e + r'.left ≤ r.left
  sent : ∀ l, r.sent l → match sends e with
    | none => r'.sent l
    | some b => (∀ a ∈ l.getLast?, Continues a b.1) ∧ r'.sent (l ++ [b])
  leaving : Pauses e.1 → r'.leaving
  leaves : r.leaving → Parting e.1 ∧ r'.leaving

/-- `r` is not further from the end than `r'`. -/
structure Rest.Within (r r' : Rest) : Prop where
  left : r.left ≤ r'.left
  sent : ∀ l, r'.sent l → r.sent l
  leaving : r'.leaving → r.leaving

theorem Rest.Within.refl (r : Rest) : r.Within r := ⟨Nat.le_refl _, fun _ h => h, id⟩

theorem Winds.mono {r r' r'' : Rest} {e : SysEvent} (hw : Winds r e r') (hle : r''.Within r') :
    Winds r e r'' where
  cost := Nat.le_trans (Nat.add_le_add_left hle.left _) hw.cost
  sent := fun l hl => by
    have hsent := hw.sent l hl
    split at hsent
    · exact hle.sent _ hsent
    · exact ⟨hsent.1, hle.sent _ hsent.2⟩
  leaving := fun he => hle.leaving (hw.leaving he)
  leaves := fun hr => ⟨(hw.leaves hr).1, hle.leaving (hw.leaves hr).2⟩

section
variable {M : Machine sysSig Error Unit} {rest : M.Phase → Rest} {q : M.Phase} {u v : History} {n : Nat}

theorem forwards_of_winds (hs : ∀ {p e p'}, M.Step p e p' → Late e → Winds (rest p) e (rest p'))
    (h₀ : (rest M.start).sent []) (hv : M.Path v q) (hl : ∀ e ∈ v, Late e) :
    (v.filterMap sends).IsChain fun a b => Continues a b.1 := by
  refine And.left (b := (rest q).sent (v.filterMap sends)) ?_
  induction hv with
  | nil => exact ⟨.nil, h₀⟩
  | @snoc v p e p' _ hst ih =>
    obtain ⟨hchain, hsent⟩ := ih fun x hx => hl x (List.mem_append_left _ hx)
    have hgo := (hs hst (hl e (by simp))).sent _ hsent
    rw [List.filterMap_append, List.filterMap_cons]
    cases hb : sends e with
    | none =>
      rw [hb] at hgo
      simpa using ⟨hchain, hgo⟩
    | some b =>
      rw [hb] at hgo
      refine ⟨hchain.append (.singleton b) ?_, hgo.2⟩
      intro a ha x hx
      cases hx
      exact hgo.1 a ha

/-- From whatever phase the machine is cancelled in. -/
theorem windsDown_of_winds (hs : ∀ {p e p'}, M.Step p e p' → Late e → Winds (rest p) e (rest p'))
    (hrest : ∀ p, (rest p).Within ⟨8 + n, (· = []), False⟩) {o : Status sysSig (Outcome Error Unit)}
    (harr : M.Arrives (u ++ v) o) (hg : Throughout Guarded (u ++ v)) (hc : ⟨.isCancelled, false⟩ ∉ v) :
    WindsDown n u v := by
  obtain ⟨q, hq⟩ := harr.path
  obtain ⟨p, -, hv⟩ := hq.split
  have hl : ∀ e ∈ v, Late e := fun e he heq => hc (heq ▸ he)
  have hchain := forwards_of_winds (M := M.after p) hs ((hrest p).sent [] rfl) hv hl
  constructor
  · exact atMostOne_of_guarded hg hc
  · rintro v₁ e v₂ rfl hs
    exact ((hg _ e ⟨v₂, by simp⟩).1 hs).since rfl fun hmem => hc (List.mem_append_left _ hmem)
  · exact hchain
  · rintro v₁ d v₂ rfl
    exact (hg _ ⟨.sleep d, ()⟩ ⟨v₂, by simp⟩).2 d rfl
  · intro _ _ _ hcut hpause
    exact (Path.since (M := M.after p) (fun hst he => ⟨(hs hst he).leaving, (hs hst he).leaves⟩) hv hl hcut
      hpause).2
  · have hspent : total cost v + (rest q).left ≤ (rest p).left :=
      Path.spent (M := M.after p) (fun hst he => (hs hst he).cost) hv hl
    have hlen := length_eq v
    have hsends := length_le_of_isChain hchain
    have hleft : (rest p).left ≤ 8 + n := (hrest p).left
    unfold unsent
    omega

end

/-- What can go on only so long ends: the service waits nowhere without going on. -/
theorem returns_of_windsDown {reads : Nat} {run : Sys Error Unit} (hrun : Reactive run)
    (hw : ∀ u v o, Exec run (u ++ v) o → ⟨.isCancelled, false⟩ ∉ v → WindsDown reads u v)
    (hp : ∀ h, Exec run h (.done .panic) → ∃ e ∈ h, Alien e) : Returns reads run := by
  intro u o hx k m
  have hn : 10 + reads + k + m = 9 + reads + k + m + 1 := by omega
  rw [hn]
  refine hrun.comes (fun {v o} hx hcut _ => ?_) (fun hx _ _ hr => hp _ (hr ▸ hx)) hx ?_
  · obtain ⟨hc, hk, hm⟩ := hcut
    have hlen := (hw u v o hx hc).returns
    omega
  · exact ⟨List.not_mem_nil, Nat.zero_le _, Nat.zero_le _⟩

/-- After a send that took some, the next one offers what was left. -/
theorem continues_concat {bs : Bytes} {sent n : Nat} (hlt : sent < bs.length) (hn : 0 < n)
    (l : List (Bytes × Nat)) :
    ∀ a ∈ (l ++ [(bs.drop sent, n)]).getLast?, Continues a (bs.drop (sent + n)) := by
  intro a ha
  rw [List.getLast?_concat] at ha
  cases ha
  refine ⟨(List.drop_drop ..).symm, ?_⟩
  simp only [List.length_drop]
  omega

/-! ## The parts that all services have -/

section
variable {b : ExponentialBackoff} {e : SysEvent}

/-- `n` operations are left if the operation is being retried. -/
def RetryPhase.rest (n : Nat) : RetryPhase → Rest
  | .begin | .sleeping _ _ => .silent 2
  | .attempt _ => .out 1
  | .running _ => .silent n
  | .failed _ _ => .silent 4
  | .asking _ _ _ => .silent 3
  | .gaveUp _ => .out 0

theorem RetryStep.winds {n : Nat} {p p' : RetryPhase} (hs : RetryStep b p e p') (hl : Late e) :
    Winds (p.rest n) e (p'.rest n) := by
  cases hs with
  | attempt => exact absurd rfl hl
  | cancelled => exact ⟨Nat.le_refl _, fun _ _ => trivial, fun _ => trivial, fun _ => ⟨trivial, trivial⟩⟩
  | sleep => exact ⟨Nat.le_refl _, fun _ _ => trivial, fun _ => trivial, False.elim⟩
  | start | clock | again | giveUp =>
    exact ⟨Nat.le_of_ble_eq_true rfl, fun _ _ => trivial, False.elim, False.elim⟩

def ListenPhase.rest : ListenPhase → Rest
  | .retry p => p.rest 7
  | .bind _ _ => .silent 6
  | .listen _ _ => .silent 5
  | .listening _ => .silent 2

theorem ListenStep.winds {p p' : ListenPhase} (hs : ListenStep b p e p') (hl : Late e) :
    Winds p.rest e p'.rest := by
  cases hs with
  | retry hr => exact hr.winds hl
  | _ => exact ⟨Nat.le_of_ble_eq_true rfl, fun _ _ => trivial, False.elim, False.elim⟩

def AcceptPhase.rest : AcceptPhase → Rest
  | .retry p => p.rest 8
  | .accept _ => .silent 7
  | .reject _ _ | .accepted _ => .silent 6
  | .drop _ _ => .silent 5
  | .panicked => .out 0

theorem AcceptStep.winds {l : Fd} {cid : Nat} {p p' : AcceptPhase} (hs : AcceptStep b l cid p e p')
    (hl : Late e) : Winds p.rest e p'.rest := by
  cases hs with
  | retry hr => exact hr.winds hl
  | _ => exact ⟨Nat.le_of_ble_eq_true rfl, fun _ _ => trivial, False.elim, False.elim⟩

def SinkPhase.rest : SinkPhase → Rest
  | .retry p => p.rest 8
  | .bindDevice _ _ => .silent 7
  | .headerIncluded _ _ => .silent 6
  | .recvBufferSize _ _ => .silent 5
  | .opened _ => .silent 2

theorem SinkStep.winds {p p' : SinkPhase} (hs : SinkStep b p e p') (hl : Late e) :
    Winds p.rest e p'.rest := by
  cases hs with
  | retry hr => exact hr.winds hl
  | _ => exact ⟨Nat.le_of_ble_eq_true rfl, fun _ _ => trivial, False.elim, False.elim⟩

/-! The service may be anywhere in a part when it is cancelled. -/

theorem RetryPhase.rest_within {m n : Nat} (hm : 4 ≤ m) (hmn : m ≤ n) (p : RetryPhase) :
    (p.rest m).Within ⟨n, (· = []), False⟩ := by
  cases p with
  | running => exact ⟨hmn, fun _ _ => trivial, False.elim⟩
  | _ => exact ⟨Nat.le_trans (Nat.le_trans (Nat.le_of_ble_eq_true rfl) hm) hmn, fun _ _ => trivial, False.elim⟩

variable {n : Nat}

theorem ListenPhase.rest_within (hn : 8 ≤ n) (p : ListenPhase) : p.rest.Within ⟨n, (· = []), False⟩ := by
  cases p with
  | retry p => exact p.rest_within (by decide) (by omega)
  | _ => exact ⟨Nat.le_trans (Nat.le_of_ble_eq_true rfl) hn, fun _ _ => trivial, False.elim⟩

theorem AcceptPhase.rest_within (hn : 8 ≤ n) (p : AcceptPhase) : p.rest.Within ⟨n, (· = []), False⟩ := by
  cases p with
  | retry p => exact p.rest_within (by decide) hn
  | _ => exact ⟨Nat.le_trans (Nat.le_of_ble_eq_true rfl) hn, fun _ _ => trivial, False.elim⟩

theorem SinkPhase.rest_within (hn : 8 ≤ n) (p : SinkPhase) : p.rest.Within ⟨n, (· = []), False⟩ := by
  cases p with
  | retry p => exact p.rest_within (by decide) hn
  | _ => exact ⟨Nat.le_trans (Nat.le_of_ble_eq_true rfl) hn, fun _ _ => trivial, False.elim⟩

end

/-! What a service does when a part has ended is not further from the end than the part. -/

section
variable {Φ : Type} (rest : Φ → Rest)

theorem ListenPhase.rest_whole {failed : Error → Φ} {listening : Fd → Φ} {inside : ListenPhase → Φ}
    (hf : ∀ e, (rest (failed e)).Within (.out 0)) (hl : ∀ fd, (rest (listening fd)).Within (.silent 2))
    (hi : ∀ p, (rest (inside p)).Within p.rest) (p : ListenPhase) :
    (rest (p.whole failed listening inside)).Within p.rest := by
  rcases p.ended_cases with ⟨e, rfl⟩ | ⟨fd, rfl⟩ | hp
  · exact hf e
  · exact hl fd
  · rw [ListenPhase.whole_of_not_ended hp]
    exact hi p

theorem AcceptPhase.rest_whole {failed : Error → Φ} {panicked : Φ} {accepted : Fd × SockAddr → Φ}
    {inside : AcceptPhase → Φ} (hf : ∀ e, (rest (failed e)).Within (.out 0))
    (hp : (rest panicked).Within (.out 0)) (ha : ∀ r, (rest (accepted r)).Within (.silent 6))
    (hi : ∀ p, (rest (inside p)).Within p.rest) (p : AcceptPhase) :
    (rest (p.whole failed panicked accepted inside)).Within p.rest := by
  rcases p.ended_cases with ⟨e, rfl⟩ | ⟨r, rfl⟩ | rfl | hn
  · exact hf e
  · exact ha r
  · exact hp
  · rw [AcceptPhase.whole_of_not_ended hn]
    exact hi p

end

/-! ## The sender -/

namespace NfqToVsock

section
variable {self : NfqToVsock} {e : SysEvent} {p p' : Phase}

def Phase.rest : Phase → Rest
  | .queue _ p => p.rest 8
  | .queueBind _ _ _ => .silent 7
  | .queueEnobufs _ _ _ => .silent 6
  | .queueMaxLen _ _ _ => .silent 5
  | .connect _ _ p => p.rest 7
  | .connecting _ _ _ _ => .silent 6
  | .connected _ _ _ _ => .silent 5
  | .prepare _ _ _ => .silent 4
  | .halfClose _ _ _ => .silent 3
  | .release _ _ _ => .silent 2
  | .idle _ _ | .ready _ _ => .silent 1
  | .receiving _ _ => ⟨5, (· = []), False⟩
  | .sending _ _ m sent => ⟨4, fun l => ∀ a ∈ l.getLast?, Continues a (m.payload.drop sent), False⟩
  | .queueFailed _ _ => .silent 3
  | .returned _ => .out 0

theorem rest_inQueue (c : Option Fd) (p : RetryPhase) : (Phase.inQueue c p).rest = p.rest 8 := by
  cases p <;> rfl

theorem rest_inConnect (q : Fd) (old : Option Fd) (p : RetryPhase) :
    (Phase.inConnect q old p).rest = p.rest 7 := by
  cases p <;> rfl

theorem winds (hs : Step self p e p') (hl : Late e) : Winds p.rest e p'.rest := by
  cases hs with
  | queueRetry hr => exact rest_inQueue _ _ ▸ hr.winds hl
  | connectRetry hr => exact rest_inConnect _ _ _ ▸ hr.winds hl
  | idle | ready => exact absurd rfl hl
  | idleCancelled | readyCancelled =>
    exact ⟨Nat.le_refl _, fun _ _ => trivial, fun _ => trivial, False.elim⟩
  | @queueMaxLen c =>
    cases c <;> exact ⟨Nat.le_of_ble_eq_true rfl, fun _ _ => trivial, False.elim, False.elim⟩
  | @halfClose q old =>
    cases old <;> exact ⟨Nat.le_of_ble_eq_true rfl, fun _ _ => trivial, False.elim, False.elim⟩
  | recv =>
    refine ⟨Nat.le_refl _, ?_, False.elim, False.elim⟩
    rintro _ rfl
    exact nofun
  | send hlt hn =>
    exact ⟨Nat.le_refl _, fun l hsent => ⟨hsent, continues_concat hlt hn l⟩, False.elim, False.elim⟩
  | sendZero | sendFails =>
    exact ⟨Nat.le_of_ble_eq_true rfl, fun _ hsent => ⟨hsent, trivial⟩, False.elim, False.elim⟩
  | _ => exact ⟨Nat.le_of_ble_eq_true rfl, fun _ _ => trivial, False.elim, False.elim⟩

theorem rest_within (p : Phase) : p.rest.Within ⟨8, (· = []), False⟩ := by
  cases p with
  | queue _ p | connect _ _ p => exact p.rest_within (by decide) (by decide)
  | receiving => exact ⟨Nat.le_of_ble_eq_true rfl, fun _ => id, False.elim⟩
  | sending =>
    refine ⟨Nat.le_of_ble_eq_true rfl, ?_, False.elim⟩
    rintro _ rfl
    exact nofun
  | _ => exact ⟨Nat.le_of_ble_eq_true rfl, fun _ _ => trivial, False.elim⟩

theorem run_windsDown {u v : History} {o : Status sysSig (Outcome Error Unit)} (hx : Exec self.run (u ++ v) o)
    (hc : ⟨.isCancelled, false⟩ ∉ v) : WindsDown 0 u v :=
  windsDown_of_winds (M := self.machine) winds rest_within (run_path hx) (run_guarded hx) hc

end

end NfqToVsock

/-! ## The receiver -/

namespace VsockToIpv4

section
variable {self : VsockToIpv4} {e : SysEvent} {p p' : Phase}

/-- Each read of a packet gets at least one byte of the at most `MAX_PACKET_SIZE`. -/
def Phase.rest : Phase → Rest
  | .listen p => p.rest
  | .accepting _ _ p => p.rest
  | .prepare _ _ _ => .silent 4
  | .halfClose _ _ _ => .silent 3
  | .sink _ _ _ p => p.rest
  | .idle _ _ | .ready _ _ => .silent 1
  | .packet _ _ got => ⟨Ipv4.MAX_PACKET_SIZE - got.length + 4, (· = []), False⟩
  | .sending _ _ _ p sent => ⟨3, fun l => ∀ a ∈ l.getLast?, Continues a (p.drop sent), False⟩
  | .vsockFailed _ _ | .rawFailed _ _ _ => .silent 3
  | .returned _ => .out 0

theorem rest_inListen (p : ListenPhase) : (Phase.inListen p).rest.Within p.rest :=
  p.rest_whole Phase.rest (fun _ => .refl _) (fun _ => .refl _) fun _ => .refl _

theorem rest_inAccept (l : Fd) (raw : Option (Fd × Fd)) (p : AcceptPhase) :
    (Phase.inAccept l raw p).rest.Within p.rest :=
  p.rest_whole Phase.rest (fun _ => .refl _) (.refl _) (fun _ => ⟨Nat.le_of_ble_eq_true rfl, fun _ => id, id⟩)
    fun _ => .refl _

theorem rest_inSink (l src : Fd) (o : Opening) (p : SinkPhase) :
    (Phase.inSink l src o p).rest.Within p.rest := by
  rcases p.ended_cases with ⟨_, rfl⟩ | ⟨_, rfl⟩ | he
  · exact .refl _
  · cases o <;> exact ⟨Nat.le_of_ble_eq_true rfl, fun _ => id, id⟩
  · rw [inSink_of_not_ended he]
    exact .refl _

theorem rest_sending (l : Fd) (s : Sockets) (pr : Protocol) (p : Bytes) :
    (Phase.sending l s pr p 0).rest.Within ⟨3, (· = []), False⟩ := by
  refine ⟨Nat.le_refl _, ?_, False.elim⟩
  rintro _ rfl
  exact nofun

theorem rest_dispatch (l : Fd) (s : Sockets) (pr : Protocol) (p : Bytes) :
    (Phase.dispatch l s pr p).rest.Within ⟨3, (· = []), False⟩ := by
  unfold Phase.dispatch
  split
  · exact rest_sending l s pr p
  · exact ⟨Nat.le_of_ble_eq_true rfl, fun _ _ => trivial, False.elim⟩

/-- A packet that is not whole yet is shorter than `MAX_PACKET_SIZE`. -/
theorem rest_onBytes (l : Fd) (s : Sockets) {got : Bytes} {k : Nat} (hk : k < got.length) :
    (Phase.onBytes l s got).rest.Within ⟨Ipv4.MAX_PACKET_SIZE - k + 3, (· = []), False⟩ := by
  have hpacket (hlt : got.length < Ipv4.MAX_PACKET_SIZE) :
      (Phase.packet l s got).rest.Within ⟨Ipv4.MAX_PACKET_SIZE - k + 3, (· = []), False⟩ := by
    refine ⟨?_, fun _ => id, id⟩
    show Ipv4.MAX_PACKET_SIZE - got.length + 4 ≤ Ipv4.MAX_PACKET_SIZE - k + 3
    omega
  unfold Phase.onBytes
  by_cases hlt : got.length < 20
  · rw [if_pos hlt]
    exact hpacket (Nat.lt_trans hlt (by decide))
  · rw [if_neg hlt]
    cases hlen : ipv4TotalLen (got.take 20) with
    | error e => exact ⟨Nat.zero_le _, fun _ _ => trivial, False.elim⟩
    | ok r =>
      obtain ⟨n, pr⟩ := r
      by_cases hn : got.length < n
      · simp only [if_pos hn]
        exact hpacket (Nat.lt_of_lt_of_le hn (ipv4TotalLen_bounds hlen).2)
      · simp only [if_neg hn]
        have hdisp := rest_dispatch l s pr got
        exact ⟨Nat.le_trans hdisp.left (Nat.le_add_left _ _), hdisp.sent, hdisp.leaving⟩

theorem winds (hs : Step self p e p') (hl : Late e) : Winds p.rest e p'.rest := by
  cases hs with
  | listen hr => exact (hr.winds hl).mono (rest_inListen _)
  | accepting hr => exact (hr.winds hl).mono (rest_inAccept _ _ _)
  | sink hr => exact (hr.winds hl).mono (rest_inSink _ _ _ _)
  | idle | ready => exact absurd rfl hl
  | idleCancelled | readyCancelled =>
    exact ⟨Nat.le_refl _, fun _ _ => trivial, fun _ => trivial, False.elim⟩
  | @halfClose l raw =>
    cases raw <;> exact ⟨Nat.le_of_ble_eq_true rfl, fun _ _ => trivial, False.elim, False.elim⟩
  | @read l s got bs hne =>
    have hlen : got.length < (got ++ bs.1).length := by
      have := List.length_pos_of_ne_nil hne
      rw [List.length_append]
      omega
    have hread : Winds (Phase.packet l s got).rest ⟨.read s.src (wanted got), .ok bs⟩
        ⟨Ipv4.MAX_PACKET_SIZE - got.length + 3, (· = []), False⟩ :=
      ⟨Nat.le_of_eq (Nat.add_comm 1 _), fun _ => id, False.elim, False.elim⟩
    exact hread.mono (rest_onBytes l s hlen)
  | readEof =>
    refine ⟨?_, fun _ _ => trivial, False.elim, False.elim⟩
    exact Nat.le_add_left 4 _
  | readInterrupted hint =>
    refine ⟨?_, fun _ => id, False.elim, False.elim⟩
    simp only [cost, if_pos hint, Nat.zero_add, Nat.le_refl]
  | readFails hint =>
    refine ⟨?_, fun _ _ => trivial, False.elim, False.elim⟩
    simp only [cost, hint]
    exact Nat.le_add_left 4 _
  | @send l s pr p sent a n hlt hn =>
    have hsend : Winds (Phase.sending l s pr p sent).rest ⟨.sendTo (rawSocket s pr) (p.drop sent) a, .ok n⟩
        (Phase.sending l s pr p (sent + n.val)).rest :=
      ⟨Nat.le_refl _, fun l hsent => ⟨hsent, continues_concat hlt hn l⟩, False.elim, False.elim⟩
    refine hsend.mono ?_
    split
    · exact .refl _
    · exact ⟨Nat.le_of_ble_eq_true rfl, fun _ _ => trivial, False.elim⟩
  | sendZero | sendFails =>
    exact ⟨Nat.le_of_ble_eq_true rfl, fun _ hsent => ⟨hsent, trivial⟩, False.elim, False.elim⟩
  | _ => exact ⟨Nat.le_of_ble_eq_true rfl, fun _ _ => trivial, False.elim, False.elim⟩

theorem rest_within (p : Phase) : p.rest.Within ⟨8 + Ipv4.MAX_PACKET_SIZE, (· = []), False⟩ := by
  cases p with
  | listen p | accepting _ _ p | sink _ _ _ p => exact p.rest_within (Nat.le_add_right 8 _)
  | packet _ _ got =>
    refine ⟨?_, fun _ => id, id⟩
    show Ipv4.MAX_PACKET_SIZE - got.length + 4 ≤ 8 + Ipv4.MAX_PACKET_SIZE
    omega
  | sending =>
    refine ⟨Nat.le_of_ble_eq_true rfl, ?_, False.elim⟩
    rintro _ rfl
    exact nofun
  | _ => exact ⟨Nat.le_of_ble_eq_true rfl, fun _ _ => trivial, False.elim⟩

theorem run_windsDown {u v : History} {o : Status sysSig (Outcome Error Unit)} (hx : Exec self.run (u ++ v) o)
    (hc : ⟨.isCancelled, false⟩ ∉ v) : WindsDown Ipv4.MAX_PACKET_SIZE u v :=
  windsDown_of_winds (M := self.machine) winds rest_within (run_path hx) (run_guarded hx) hc

end

end VsockToIpv4

/-! ## The bootstrap service -/

namespace Bootstrap

section
variable {self : Bootstrap} {e : SysEvent} {p p' : Phase}

def Phase.rest : Phase → Rest
  | .listen p => p.rest
  | .idle _ => .out 1
  | .accepting _ p => p.rest
  | .prepare _ _ => .silent 6
  | .halfClose _ _ => .silent 5
  | .writeTimeout _ _ => .silent 4
  | .serving _ _ _ => .silent 3
  | .writing _ _ _ => ⟨3, (· = []), False⟩
  | .served _ _ => .out 2
  | .returned _ => .out 0

theorem rest_inListen (p : ListenPhase) : (Phase.inListen p).rest.Within p.rest :=
  p.rest_whole Phase.rest (fun _ => .refl _) (fun _ => ⟨Nat.le_of_ble_eq_true rfl, fun _ => id, False.elim⟩)
    fun _ => .refl _

theorem rest_inAccept (l : Fd) (p : AcceptPhase) : (Phase.inAccept l p).rest.Within p.rest :=
  p.rest_whole Phase.rest (fun _ => .refl _) (.refl _) (fun _ => .refl _) fun _ => .refl _

theorem rest_onWritten (l c : Fd) (pos : Nat) : (Phase.onWritten self l c pos).rest.Within (.silent 3) := by
  unfold Phase.onWritten
  split
  · exact .refl _
  · exact ⟨Nat.le_of_ble_eq_true rfl, fun _ _ => trivial, False.elim⟩

theorem winds (hs : Step self p e p') (hl : Late e) : Winds p.rest e p'.rest := by
  cases hs with
  | listen hr => exact (hr.winds hl).mono (rest_inListen _)
  | accepting hr => exact (hr.winds hl).mono (rest_inAccept _ _)
  | idle | serving => exact absurd rfl hl
  | idleCancelled => exact ⟨Nat.le_refl _, fun _ _ => trivial, fun _ => trivial, fun _ => ⟨trivial, trivial⟩⟩
  | servingCancelled => exact ⟨Nat.le_refl _, fun _ _ => trivial, fun _ => trivial, False.elim⟩
  | @writeTimeout l c ms =>
    have hset : Winds (Phase.writeTimeout l c).rest ⟨.setWriteTimeout c ms, .ok ()⟩ (.silent 3) :=
      ⟨Nat.le_refl _, fun _ _ => trivial, False.elim, False.elim⟩
    exact hset.mono (rest_onWritten l c 0)
  | @write l c pos n =>
    have hwrite : Winds (Phase.writing l c pos).rest ⟨.write c (self.info.drop pos), .ok n⟩ (.silent 3) := by
      refine ⟨Nat.le_refl _, ?_, False.elim, False.elim⟩
      rintro _ rfl
      exact ⟨nofun, trivial⟩
    exact hwrite.mono (rest_onWritten l c (pos + n.val))
  | writeZero | writeFails =>
    refine ⟨Nat.le_of_ble_eq_true rfl, ?_, False.elim, False.elim⟩
    rintro _ rfl
    exact ⟨nofun, trivial⟩
  | drop => exact ⟨Nat.le_refl _, fun _ _ => trivial, False.elim, fun _ => ⟨trivial, trivial⟩⟩
  | _ => exact ⟨Nat.le_of_ble_eq_true rfl, fun _ _ => trivial, False.elim, False.elim⟩

theorem rest_within (p : Phase) : p.rest.Within ⟨8, (· = []), False⟩ := by
  cases p with
  | listen p | accepting _ p => exact p.rest_within (Nat.le_refl 8)
  | writing => exact ⟨Nat.le_of_ble_eq_true rfl, fun _ => id, id⟩
  | _ => exact ⟨Nat.le_of_ble_eq_true rfl, fun _ _ => trivial, False.elim⟩

theorem run_windsDown {u v : History} {o : Status sysSig (Outcome Error Unit)} (hx : Exec self.run (u ++ v) o)
    (hc : ⟨.isCancelled, false⟩ ∉ v) : WindsDown 0 u v :=
  windsDown_of_winds (M := self.machine) winds rest_within (run_path hx) (run_guarded hx) hc

end

end Bootstrap

/-! ## All services -/

/-- The sender, the receiver and the bootstrap service when they are cancelled: one is about to connect, one is
about to read a packet, and one is about to write. -/
def connectingSender : History := opensQueue 1 ++ [⟨.now, (0 : Nat)⟩, ⟨.isCancelled, false⟩]

def readingReceiver : History :=
  listens 1 ++ accepts 1 2 ++ opensRaw 3 .TCP ++ opensRaw 4 .UDP ++ [⟨.isCancelled, false⟩, ⟨.isCancelled, false⟩]

def writingServer : History :=
  listens 1 ++ ⟨.isCancelled, false⟩ :: (accepts 1 2).dropLast ++
    [⟨.shutdown 2 .read, .ok ()⟩, ⟨.setWriteTimeout 2 1000, .ok ()⟩, ⟨.isCancelled, false⟩]

/-- The connection is refused, and the sender sleeps before it looks at the token again. -/
def sleepsFirst : History :=
  [⟨.socketNew .vsock .stream none, .ok 2⟩, ⟨.connect 2 (.vsock 3 9000), .error (.os 111)⟩, ⟨.now, (0 : Nat)⟩,
    ⟨.nextBackoff sender.backoff 0, some 100⟩, ⟨.sleep 100, ()⟩, ⟨.isCancelled, true⟩]

theorem sleepsFirst_exec :
    Exec sender.run (connectingSender ++ sleepsFirst) (.done (.err .glycerineShutdown)) :=
  exec_of_script 100 (by decide +kernel)

/-- The connection breaks in the middle of a header. -/
def breaksOff : History :=
  [⟨.read 2 20, .ok headerPart⟩, ⟨.read 2 15, .error (.os 104)⟩, ⟨.dropSocket 2, ()⟩, ⟨.now, (0 : Nat)⟩,
    ⟨.isCancelled, true⟩]

/-- The write times out. -/
def timesOut : History := [⟨.write 2 [0x7b, 0x7d], .error (.os 11)⟩, ⟨.dropSocket 2, ()⟩, ⟨.isCancelled, true⟩]

end Glycerine
