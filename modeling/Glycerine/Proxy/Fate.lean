import Glycerine.Proxy.Verdicts
import Glycerine.Services.Reactive
import Glycerine.System.Trace
/-
# What becomes of a message

`pump` gives the verdict `Drop` when all of the payload has been sent, and nothing else is done between the two: no
other message is received, no connection opened, and the shutdown token is not looked at. So a message that is
dropped has gone out as a whole on one connection (`message_fates`); one whose connection breaks gets no verdict.
-/

namespace Glycerine
open Interact Machine

namespace NfqToVsock

/-- `v` is successful sends on connection `c`, of the first `sent` bytes of `bs`. -/
structure Sends (c : Fd) (bs : Bytes) (sent : Nat) (v : History) : Prop where
  only : ∀ e ∈ v, ∃ bs' n, e = ⟨.send c bs', .ok n⟩
  bytes : sentOn c v = bs.take sent
  le : sent ≤ bs.length

/-- A send after which the connection is given up. -/
def Breaks {bs : Bytes} : Except IoError (Fin (bs.length + 1)) → Prop
  | .ok n => n.val = 0
  | .error _ => True

/-- What the sender asks for when `sent` bytes of `m` are on connection `c`. -/
def Asks (q c : Fd) (m : Message) (sent : Nat) (op : SysOp) : Prop :=
  sent < m.payload.length ∧ op = .send c (m.payload.drop sent) ∨
    sent = m.payload.length ∧ op = .verdict q { m with verdict := .drop }

/-- What happens after message `m` has been received from queue `q`: `v` so far, and then `o`. -/
inductive Fate (q : Fd) (m : Message) : History → Status sysSig (Outcome Error Unit) → Prop where
  | going {c sent v op} : Sends c m.payload sent v → Asks q c m sent op → Fate q m v (.asks op)
  | settled {c v r w o} : Sends c m.payload m.payload.length v →
    Fate q m (v ++ ⟨.verdict q { m with verdict := .drop }, r⟩ :: w) o
  | cut {c sent v r w o} : Sends c m.payload sent v → sent < m.payload.length → Breaks r →
    Fate q m (v ++ ⟨.send c (m.payload.drop sent), r⟩ :: w) o

section
variable {self : NfqToVsock} {q c : Fd} {m : Message} {sent : Nat} {v h : History}

/-! ## Sends -/

theorem sends_nil {bs : Bytes} : Sends c bs 0 [] := ⟨by simp, by simp [sentOn], Nat.zero_le _⟩

theorem Sends.snoc {bs : Bytes} (hs : Sends c bs sent v) (n : Fin ((bs.drop sent).length + 1)) :
    Sends c bs (sent + n.val) (v ++ [⟨.send c (bs.drop sent), .ok n⟩]) := by
  have hn : n.val ≤ bs.length - sent := by
    have hlt := n.isLt
    have hlen : (bs.drop sent).length = bs.length - sent := List.length_drop
    omega
  refine ⟨fun e he => ?_, ?_, by have := hs.le; omega⟩
  · rcases List.mem_append.1 he with he | he
    · exact hs.only e he
    · exact ⟨_, n, List.mem_singleton.1 he⟩
  · rw [sentOn_append, hs.bytes, List.take_add]
    simp [sentOn]

/-- All of the payload was sent, and no more. -/
theorem Sends.eq_length {bs : Bytes} (hs : Sends c bs sent v) (hle : bs.length ≤ sent) : sent = bs.length :=
  Nat.le_antisymm hs.le hle

/-! ## From a message on -/

/-- Message `m` is still being sent, or what became of it is in the history. -/
def FateInv (q c : Fd) (m : Message) (p : Phase) (v : History) : Prop :=
  (∃ sent, p = .sending q c m sent ∧ Sends c m.payload sent v) ∨ ∀ o, Fate q m v o

/-- What has become of a message does not change. -/
theorem fate_snoc {e : SysEvent} (hf : ∀ o, Fate q m v o) (o : Status sysSig (Outcome Error Unit)) :
    Fate q m (v ++ [e]) o := by
  have hdone := hf (.done .panic)
  cases hdone with
  | settled hs =>
    rw [List.append_assoc, List.cons_append]
    exact .settled hs
  | cut hs hlt hb =>
    rw [List.append_assoc, List.cons_append]
    exact .cut hs hlt hb

theorem fateInv_step {p p' : Phase} {e : SysEvent} (hs : Step self p e p') (hp : FateInv q c m p v) :
    FateInv q c m p' (v ++ [e]) := by
  rcases hp with ⟨sent, rfl, hsends⟩ | hf
  · cases hs with
    | @send _ _ _ _ n _ _ => exact .inl ⟨_, rfl, hsends.snoc n⟩
    | sendZero hlt hz => exact .inr fun o => .cut hsends hlt hz
    | sendFails hlt => exact .inr fun o => .cut hsends hlt trivial
    | verdict hle | verdictFails hle =>
      obtain rfl := hsends.eq_length hle
      exact .inr fun o => .settled hsends
  · exact .inr (fate_snoc hf)

theorem fateInv_path {p : Phase} (hp : (self.machine.after (.sending q c m 0)).Path v p) : FateInv q c m p v :=
  hp.inv (E := anyEnv) (J := FateInv q c m) (.inl ⟨0, rfl, sends_nil⟩) (fun hs hj _ => fateInv_step hs hj) trivial

/-! ## The message that is being sent -/

/-- The message that is being sent is the one that was received last. -/
def LastReceived (p : Phase) (h : History) : Prop :=
  ∀ q c m sent, p = .sending q c m sent → ∃ u v, h = u ++ ⟨.recv q, .ok m⟩ :: v ∧ Sends c m.payload sent v

theorem lastReceived_step {p p' : Phase} {e : SysEvent} (hs : Step self p e p') (hp : LastReceived p h) :
    LastReceived p' (h ++ [e]) := by
  intro q c m sent hphase
  cases hs with
  | recv =>
    cases hphase
    exact ⟨h, [], rfl, sends_nil⟩
  | @send q c m sent n =>
    cases hphase
    obtain ⟨u, v, rfl, hsends⟩ := hp _ _ _ _ rfl
    exact ⟨u, v ++ [⟨.send c (m.payload.drop sent), .ok n⟩], by simp, hsends.snoc n⟩
  | @queueRetry c p e p' | @connectRetry q old p e p' => cases p' <;> cases hphase
  | @queueMaxLen c => cases c <;> cases hphase
  | @halfClose q old c => cases old <;> cases hphase
  | _ => cases hphase

theorem asks_of_step {p' : Phase} {op : SysOp} {r : op.Res} (hs : Step self (.sending q c m sent) ⟨op, r⟩ p')
    (hsends : Sends c m.payload sent v) : Asks q c m sent op := by
  generalize he : (⟨op, r⟩ : SysEvent) = e at hs
  have hop : op = e.1 := congrArg Sigma.fst he
  subst hop
  cases hs with
  | send hlt | sendZero hlt | sendFails hlt => exact .inl ⟨hlt, rfl⟩
  | verdict hle | verdictFails hle => exact .inr ⟨hsends.eq_length hle, rfl⟩

theorem sending_of_recv {p p' : Phase} (hs : Step self p ⟨.recv q, .ok m⟩ p') : ∃ c, p' = .sending q c m 0 := by
  generalize he : (⟨.recv q, .ok m⟩ : SysEvent) = e at hs
  cases hs with
  | recv =>
    cases he
    exact ⟨_, rfl⟩
  | queueRetry hr | connectRetry hr => cases hr <;> cases he
  | _ => cases he

theorem sending_of_verdict {p p' : Phase} {r : Except IoError Unit} (hs : Step self p ⟨.verdict q m, r⟩ p') :
    ∃ c m₀ sent, p = .sending q c m₀ sent ∧ m₀.payload.length ≤ sent ∧ m = { m₀ with verdict := .drop } := by
  generalize he : (⟨.verdict q m, r⟩ : SysEvent) = e at hs
  cases hs with
  | verdict hle | verdictFails hle =>
    cases he
    exact ⟨_, _, _, rfl, hle, rfl⟩
  | queueRetry hr | connectRetry hr => cases hr <;> cases he
  | _ => cases he

/-- Where `run` waits, a phase of the machine that goes on with the operation. -/
theorem phase_of_asks {op : SysOp} (hx : Exec self.run h (.asks op)) :
    ∃ p p' r, At self p h ∧ Step self p ⟨op, r⟩ p' := by
  obtain ⟨r⟩ := op.answers
  obtain ⟨p, p', hp, hs⟩ := run_reactive.step run_path hx r
  exact ⟨p, p', r, hp, hs⟩

/-! ## Over all runs -/

theorem run_fates {o : Status sysSig (Outcome Error Unit)} {u : History}
    (hx : Exec self.run (u ++ ⟨.recv q, .ok m⟩ :: v) o) : Fate q m v o := by
  have hfate : ∀ {p : Phase}, At self p (u ++ ⟨.recv q, .ok m⟩ :: v) → ∃ c, FateInv q c m p v := by
    intro p hp
    rw [List.append_cons] at hp
    obtain ⟨p₁, hrecv, hrest⟩ := hp.split
    obtain ⟨p₀, -, hlast⟩ := hrecv.last
    obtain ⟨c, rfl⟩ := sending_of_recv hlast
    exact ⟨c, fateInv_path hrest⟩
  cases o with
  | asks op =>
    obtain ⟨p, p', r, hp, hs⟩ := phase_of_asks hx
    obtain ⟨c, ⟨sent, rfl, hsends⟩ | hf⟩ := hfate hp
    · exact .going hsends (asks_of_step hs hsends)
    · exact hf _
  | done r =>
    obtain ⟨c, ⟨sent, hp, -⟩ | hf⟩ := hfate (run_path hx)
    · cases hp
    · exact hf _

theorem run_verdict {m : Message} (hx : Exec self.run h (.asks (.verdict q m))) :
    ∃ u m₀ c v, h = u ++ ⟨.recv q, .ok m₀⟩ :: v ∧ Sends c m₀.payload m₀.payload.length v ∧
      m = { m₀ with verdict := .drop } := by
  obtain ⟨p, p', r, hp, hs⟩ := phase_of_asks hx
  obtain ⟨c, m₀, sent, rfl, hle, rfl⟩ := sending_of_verdict hs
  have hlast : LastReceived (.sending q c m₀ sent) h :=
    hp.inv (E := anyEnv) (J := LastReceived) nofun (fun hs hj _ => lastReceived_step hs hj) trivial
  obtain ⟨u, v, rfl, hsends⟩ := hlast _ _ _ _ rfl
  obtain rfl := hsends.eq_length hle
  exact ⟨u, m₀, c, v, rfl, hsends, rfl⟩

end
end NfqToVsock

/-- **A message is dropped only when it has been sent.** In every run, whatever fails: from the moment a message is
received there is nothing but sends of its payload on one connection, until all of it is sent and the message dropped,
or the connection breaks; and a verdict is given in the first case only. -/
theorem message_fates {self : NfqToVsock} {h : History} {o : Status sysSig (Outcome Error Unit)}
    (hx : Exec self.run h o) :
    (∀ u q m v, h = u ++ ⟨.recv q, .ok m⟩ :: v → NfqToVsock.Fate q m v o) ∧
      ∀ q m, o = .asks (.verdict q m) → ∃ u m₀ c v, h = u ++ ⟨.recv q, .ok m₀⟩ :: v ∧
        NfqToVsock.Sends c m₀.payload m₀.payload.length v ∧ m = { m₀ with verdict := .drop } := by
  refine ⟨fun u q m v heq => ?_, fun q m ho => ?_⟩
  · subst heq
    exact NfqToVsock.run_fates hx
  · subst ho
    exact NfqToVsock.run_verdict hx

/-- `settledRun` up to the first verdict. -/
def sentRun : History := settledRun.take 18

theorem sentRun_fates :
    (∀ u q m v, sentRun = u ++ ⟨.recv q, .ok m⟩ :: v →
      NfqToVsock.Fate q m v (.asks (.verdict 1 ⟨0, [1, 2, 3], .drop⟩))) ∧
      ∃ u m₀ c v, sentRun = u ++ ⟨.recv 1, .ok m₀⟩ :: v ∧ NfqToVsock.Sends c m₀.payload m₀.payload.length v ∧
        ⟨0, [1, 2, 3], .drop⟩ = { m₀ with verdict := .drop } :=
  have hx : Exec sender.run sentRun (.asks (.verdict 1 ⟨0, [1, 2, 3], .drop⟩)) :=
    exec_of_script 100 (by decide +kernel)
  ⟨(message_fates hx).1, (message_fates hx).2 1 ⟨0, [1, 2, 3], .drop⟩ rfl⟩

end Glycerine
