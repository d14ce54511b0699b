import Glycerine.Interact.Drive
/-!
# Programs that write text

A program that formats a value writes strings to a sink, and stops if the sink refuses one. Two things are said about
such programs. `Ends p R`: whatever total sink it writes to, `p` comes to an end without a panic, and with a result in
`R` if the sink takes everything. `Prints p a text`: to a sink that takes everything, `p` writes exactly `text` and
returns `a`.

The rules follow the constructors of a program. A loop ends if a measure of its state decreases (`ends_loop`).
-/
namespace Interact

/-- `fmt::Error`. -/
structure FmtError where
deriving DecidableEq, Repr

abbrev textSig : Sig := ⟨String, fun _ => Except FmtError Unit⟩

abbrev Fmt (α : Type) := Task textSig FmtError α

def writeStr (s : String) : Fmt Unit := Task.call s .ofExcept

/-- `fmt::Display`. -/
class Display (α : Type) where
  fmt : α → Fmt Unit

/-- A value that is written as one string. -/
class ToText (α : Type) where
  text : α → String

open ToText (text)

instance {α : Type} [ToText α] : Display α := ⟨fun a => writeStr (text a)⟩

instance : ToText String := ⟨id⟩
instance : ToText Nat := ⟨toString⟩
instance : ToText UInt8 := ⟨fun n => toString n.toNat⟩
instance : ToText UInt16 := ⟨fun n => toString n.toNat⟩
instance : ToText UInt32 := ⟨fun n => toString n.toNat⟩

@[simp] theorem text_string (s : String) : text s = s := rfl
@[simp] theorem text_nat (n : Nat) : text n = toString n := rfl
@[simp] theorem text_uInt16 (n : UInt16) : text n = toString n.toNat := rfl

/-- What is written under a condition. -/
def writeIf (c : Prop) [Decidable c] (p : Fmt Unit) : Fmt Unit := if c then p else pure ()

/-- `write!`, its pieces in order. -/
def writeFmt (pieces : List (Fmt Unit)) : Fmt Unit := pieces.forM id

universe u
variable {α β σ : Type}

/-! ## Ending without a panic -/

def Outcome.Fine {ε : Type} (R : α → Prop) : Outcome ε α → Prop
  | .ok a => R a
  | .err _ => True
  | .panic => False

def Total {W : Type} (sink : Handler textSig W) : Prop := ∀ w s, (sink w s).isSome

def Ends (p : Fmt α) (R : α → Prop) : Prop :=
  ∀ (W : Type) (sink : Handler textSig W), Total sink → ∀ w, ∃ o w', Halts sink p w (.done o) w' ∧ o.Fine R

theorem ends_ret {a : α} {R : α → Prop} (h : R a) : Ends (pure a) R :=
  fun _ _ _ w => ⟨.ok a, w, Task.halts_ret, h⟩

theorem ends_writeStr {s : String} : Ends (writeStr s) fun _ => True := by
  intro W sink hs w
  obtain ⟨⟨r, w'⟩, hr⟩ := Option.isSome_iff_exists.1 (hs w s)
  refine ⟨_, w', Task.halts_call hr rfl, ?_⟩
  cases r <;> trivial

theorem ends_fmt [ToText α] {a : α} : Ends (Display.fmt a) fun _ => True := ends_writeStr

theorem ends_writeIf {c : Prop} [Decidable c] {p : Fmt Unit} (h : Ends p fun _ => True) :
    Ends (writeIf c p) fun _ => True := by
  unfold writeIf
  split
  · exact h
  · exact ends_ret trivial

theorem Ends.seq {p : Fmt β} {f : β → Fmt α} {R : β → Prop} {Q : α → Prop} (hp : Ends p R)
    (hf : ∀ b, R b → Ends (f b) Q) : Ends (p >>= f) Q := by
  intro W sink hs w
  obtain ⟨o, w₁, hx, ho⟩ := hp W sink hs w
  cases o with
  | ok b =>
    obtain ⟨o, w', hy, ho⟩ := hf b ho W sink hs w₁
    exact ⟨o, w', Task.halts_andThen hx hy, ho⟩
  | err e => exact ⟨.err e, w₁, Task.halts_andThen_err hx, trivial⟩
  | panic => exact ho.elim

theorem Ends.mono {p : Fmt α} {R Q : α → Prop} (hp : Ends p R) (h : ∀ a, R a → Q a) : Ends p Q := by
  intro W sink hs w
  obtain ⟨o, w', hx, ho⟩ := hp W sink hs w
  refine ⟨o, w', hx, ?_⟩
  cases o with
  | ok a => exact h a ho
  | err e => trivial
  | panic => exact ho

theorem ends_forM {β : Type u} {f : β → Fmt Unit} {l : List β} (hf : ∀ x ∈ l, Ends (f x) fun _ => True) :
    Ends (l.forM f) fun _ => True := by
  induction l with
  | nil => exact ends_ret trivial
  | cons x l ih => exact (hf x (by simp)).seq fun _ _ => ih fun y hy => hf y (by simp [hy])

theorem ends_writeFmt {pieces : List (Fmt Unit)} (h : ∀ p ∈ pieces, Ends p fun _ => True) :
    Ends (writeFmt pieces) fun _ => True := ends_forM (f := id) h

theorem ends_foldlM {f : σ → β → Fmt σ} {l : List β} {s : σ} (hf : ∀ s, ∀ x ∈ l, Ends (f s x) fun _ => True) :
    Ends (l.foldlM f s) fun _ => True := by
  induction l generalizing s with
  | nil => exact ends_ret trivial
  | cons x l ih => exact (hf s x (by simp)).seq fun s' _ => ih fun s y hy => hf s y (by simp [hy])

/-- A loop whose iterations end, and decrease `m` if they do not stop. -/
theorem ends_loop {body : σ → Fmt (Ctl σ α)} {J : σ → Prop} {R : α → Prop} (m : σ → Nat)
    (hb : ∀ s, J s → Ends (body s) fun
      | .next s' => J s' ∧ m s' < m s
      | .stop a => R a) {s : σ} (hs : J s) : Ends (Task.loop body s) R := by
  intro W sink htotal w
  generalize hn : m s = n
  induction n using Nat.strongRecOn generalizing s w with
  | ind n ih =>
    obtain ⟨o, w₁, hx, ho⟩ := hb s hs W sink htotal w
    match o with
    | .ok (.next s') =>
      obtain ⟨o', w', hy, ho'⟩ := ih (m s') (hn ▸ ho.2) ho.1 w₁ rfl
      exact ⟨o', w', Task.halts_loop_next hx hy, ho'⟩
    | .ok (.stop a) => exact ⟨.ok a, w₁, Task.halts_loop_stop hx, ho⟩
    | .err e => exact ⟨.err e, w₁, Task.halts_loop_err hx, trivial⟩
    | .panic => exact ho.elim

/-- The sink that answers as a trace does, and takes everything after it. -/
def replay : Handler textSig (Trace textSig)
  | [], _ => some (.ok (), [])
  | ⟨_, r⟩ :: t, _ => some (r, t)

theorem total_replay : Total replay := by
  intro t s
  cases t <;> rfl

theorem follows_replay (t : Trace textSig) : Follows replay t t [] := by
  induction t with
  | nil => rfl
  | cons e t ih => exact ⟨t, rfl, ih⟩

/-- Every execution that has returned has done so as some sink makes it. -/
theorem Ends.exec {p : Fmt α} {R : α → Prop} (hp : Ends p R) {t : Trace textSig} {o : Outcome FmtError α}
    (hx : Exec p t (.done o)) : o.Fine R := by
  obtain ⟨o', w', hx', ho⟩ := hp _ replay total_replay t
  have hsame := (Halts.unique hx' ⟨t, hx, follows_replay t, nofun⟩).1
  cases hsame
  exact ho

theorem Ends.neverPanics {p : Fmt α} {R : α → Prop} (hp : Ends p R) : Task.NeverPanics p := fun _ hx => hp.exec hx

/-! ## What is printed -/

/-- The sink that takes everything, and has it all. -/
def collect : Handler textSig String := fun w s => some (.ok (), w ++ s)

def Prints (p : Fmt α) (a : α) (text : String) : Prop := ∀ w, Halts collect p w (.done (.ok a)) (w ++ text)

theorem prints_ret {a : α} : Prints (pure a) a "" := by
  intro w
  rw [String.append_empty]
  exact Task.halts_ret

theorem prints_writeStr {s : String} : Prints (writeStr s) () s := fun _ => Task.halts_call rfl rfl

theorem prints_fmt [ToText α] {a : α} : Prints (Display.fmt a) () (text a) := prints_writeStr

theorem prints_writeIf {c : Prop} [Decidable c] {p : Fmt Unit} {s : String} (h : Prints p () s) :
    Prints (writeIf c p) () (if c then s else "") := by
  unfold writeIf
  split
  · exact h
  · exact prints_ret

theorem Prints.seq {p : Fmt β} {f : β → Fmt α} {b : β} {a : α} {text text' : String} (hp : Prints p b text)
    (hf : Prints (f b) a text') : Prints (p >>= f) a (text ++ text') := by
  intro w
  rw [← String.append_assoc]
  exact Task.halts_andThen (hp w) (hf _)

/-- A part that writes nothing. -/
theorem Prints.silent {p : Fmt β} {f : β → Fmt α} {b : β} {a : α} {text : String} (hp : Prints p b "")
    (hf : Prints (f b) a text) : Prints (p >>= f) a text := by
  rw [← String.empty_append (s := text)]
  exact hp.seq hf

theorem Prints.seq_silent {p : Fmt β} {f : β → Fmt α} {b : β} {a : α} {text : String} (hp : Prints p b text)
    (hf : Prints (f b) a "") : Prints (p >>= f) a text := by
  rw [← String.append_empty (s := text)]
  exact hp.seq hf

theorem Prints.of_eq {p : Fmt α} {a : α} {text text' : String} (hp : Prints p a text) (h : text = text') :
    Prints p a text' := h ▸ hp

theorem prints_writeFmt_nil : Prints (writeFmt []) () "" := prints_ret

theorem prints_writeFmt_cons {p : Fmt Unit} {pieces : List (Fmt Unit)} {text text' : String}
    (hp : Prints p () text)
    (h : Prints (writeFmt pieces) () text') : Prints (writeFmt (p :: pieces)) () (text ++ text') := hp.seq h

theorem prints_loop_next {body : σ → Fmt (Ctl σ α)} {s s' : σ} {a : α} {text text' : String}
    (hb : Prints (body s) (.next s') text) (hl : Prints (Task.loop body s') a text') :
    Prints (Task.loop body s) a (text ++ text') := by
  intro w
  rw [← String.append_assoc]
  exact Task.halts_loop_next (hb w) (hl _)

theorem prints_loop_stop {body : σ → Fmt (Ctl σ α)} {s : σ} {a : α} {text : String}
    (hb : Prints (body s) (.stop a) text) : Prints (Task.loop body s) a text :=
  fun w => Task.halts_loop_stop (hb w)

end Interact
