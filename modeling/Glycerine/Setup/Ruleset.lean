import Mathlib.Logic.Function.Basic
import Glycerine.Setup.Nftables
/-!
# Rulesets

The tables of one family by their names, what a batch makes of them, and what becomes of a packet. `Msg.apply` is
the effect of one request: adding a table or a chain that is there keeps it, deleting a table deletes all that is in
it. A batch that begins with adding, deleting and adding a table therefore does not depend on what had its name
(`apply_freshTable`), and no batch touches a table that it does not name (`apply_other`).
-/
namespace Nftables

/-- A base chain of type filter, whose policy is to accept. -/
structure Chain where
  name : String
  hook : Hook
  priority : Int
  rules : List Rule
deriving DecidableEq, Repr

/-- A table: its filter chains, and whatever else is in it. -/
structure Table (α : Type) where
  chains : List Chain
  others : List α
deriving DecidableEq, Repr

abbrev Ruleset (α : Type) := String → Option (Table α)

inductive Verdict where
  | accept
  | queue (num : Nat)
deriving DecidableEq, Repr

/-- The rules are tried in order, and the policy decides about what none of them queues. -/
def Chain.verdict (c : Chain) (p : Packet) : Verdict :=
  match c.rules.findSome? (·.queueOf p) with
  | some q => .queue q
  | none => .accept

/-- What the chains of a table decide at a hook. -/
def Table.verdicts {α : Type} (t : Table α) (hook : Hook) (p : Packet) : List Verdict :=
  (t.chains.filter (·.hook = hook)).map (·.verdict p)

/-- What the table called `table` decides at a hook; a table that is not there decides nothing. -/
def Ruleset.verdicts {α : Type} (rs : Ruleset α) (table : String) (hook : Hook) (p : Packet) : List Verdict :=
  (rs table).elim [] (·.verdicts hook p)

variable {α : Type}

/-! ## Batches -/

def Table.addRule (t : Table α) (chain : String) (rule : Rule) : Table α :=
  { t with chains := t.chains.map fun c => if c.name = chain then { c with rules := c.rules ++ [rule] } else c }

/-- The effect of one request, if there is nothing wrong with it. -/
def Msg.apply (rs : Ruleset α) : Msg → Option (Ruleset α)
  | .addTable name => some (Function.update rs name (some ((rs name).getD ⟨[], []⟩)))
  | .delTable name => (rs name).map fun _ => Function.update rs name none
  | .addChain table name hook priority =>
    (rs table).bind fun t =>
      match t.chains.find? (·.name = name) with
      | some c => if c.hook = hook ∧ c.priority = priority then some rs else none
      | none => some (Function.update rs table
        (some { t with chains := t.chains ++ [⟨name, hook, priority, []⟩] }))
  | .addRule table chain rule =>
    (rs table).bind fun t =>
      if t.chains.any (·.name = chain) then some (Function.update rs table (some (t.addRule chain rule)))
      else none

/-- The effect of a batch, if nothing is wrong with any of its requests. -/
def Batch.apply (rs : Ruleset α) (b : Batch) : Option (Ruleset α) := b.foldlM Msg.apply rs

def Msg.table : Msg → String
  | .addTable name | .delTable name => name
  | .addChain table _ _ _ | .addRule table _ _ => table

/-- A request changes no other table. -/
theorem Msg.apply_other {rs rs' : Ruleset α} {m : Msg} (h : m.apply rs = some rs') {name : String}
    (hn : name ≠ m.table) : rs' name = rs name := by
  cases m with
  | addTable t =>
    cases h
    exact Function.update_of_ne hn _ _
  | delTable t =>
    obtain ⟨_, -, rfl⟩ := Option.map_eq_some_iff.1 h
    exact Function.update_of_ne hn _ _
  | addChain t c hook priority =>
    obtain ⟨tb, -, h⟩ := Option.bind_eq_some_iff.1 h
    split at h
    · split at h
      · cases h
        rfl
      · cases h
    · cases h
      exact Function.update_of_ne hn _ _
  | addRule t c rule =>
    obtain ⟨tb, -, h⟩ := Option.bind_eq_some_iff.1 h
    split at h
    · cases h
      exact Function.update_of_ne hn _ _
    · cases h

/-- A batch that names only one table changes no other. -/
theorem Batch.apply_other {rs rs' : Ruleset α} {b : Batch} (h : b.apply rs = some rs') {name : String}
    (hn : ∀ m ∈ b, name ≠ m.table) : rs' name = rs name := by
  induction b generalizing rs with
  | nil =>
    cases h
    rfl
  | cons m b ih =>
    obtain ⟨rs₁, hm, hb⟩ := Option.bind_eq_some_iff.1 (show (m.apply rs).bind (Batch.apply · b) = some rs' from h)
    rw [ih hb fun m' hm' => hn m' (by simp [hm']), m.apply_other hm (hn m (by simp))]

/-! ## A fresh table -/

/-- The requests that leave a table with one chain of the given rules, whatever was there. -/
def freshTable (table chain : String) (hook : Hook) (priority : Int) (rules : List Rule) : Batch :=
  [.addTable table, .delTable table, .addTable table, .addChain table chain hook priority] ++
    rules.map (.addRule table chain)

section
variable {table chain : String} {hook : Hook} {priority : Int} {rules : List Rule}

theorem apply_addRules {rs : Ruleset α} {rules₀ : List Rule} {others : List α}
    (h : rs table = some ⟨[⟨chain, hook, priority, rules₀⟩], others⟩) :
    Batch.apply rs (rules.map (.addRule table chain)) =
      some (Function.update rs table (some ⟨[⟨chain, hook, priority, rules₀ ++ rules⟩], others⟩)) := by
  induction rules generalizing rs rules₀ with
  | nil =>
    rw [List.append_nil, ← h, Function.update_eq_self]
    rfl
  | cons r rules ih =>
    have hr : Msg.apply rs (.addRule table chain r) =
        some (Function.update rs table (some ⟨[⟨chain, hook, priority, rules₀ ++ [r]⟩], others⟩)) := by
      simp [Msg.apply, h, Table.addRule]
    show (Msg.apply rs (.addRule table chain r)).bind (Batch.apply · (rules.map (.addRule table chain))) = _
    rw [hr, Option.bind_some, ih (Function.update_self ..), Function.update_idem, List.append_assoc]
    rfl

/-- The batch succeeds on every ruleset, and the table is as requested. -/
theorem apply_freshTable (rs : Ruleset α) :
    Batch.apply rs (freshTable table chain hook priority rules) =
      some (Function.update rs table (some ⟨[⟨chain, hook, priority, rules⟩], []⟩)) := by
  have hreset :
    Batch.apply rs [.addTable table, .delTable table, .addTable table, .addChain table chain hook priority] =
      some (Function.update rs table (some ⟨[⟨chain, hook, priority, []⟩], []⟩)) := by
    simp [Batch.apply, Msg.apply]
  unfold freshTable Batch.apply
  rw [List.foldlM_append]
  show (Batch.apply rs _).bind (Batch.apply · _) = _
  rw [hreset, Option.bind_some, apply_addRules (Function.update_self ..), Function.update_idem]
  rfl

end

/-- A chain whose rules all send to one queue sends a packet there if one of them matches it. -/
theorem verdict_eq_queue_iff {c : Chain} {p : Packet} {num : Nat}
    (hq : ∀ r ∈ c.rules, ∀ q, r.queueOf p = some q → q = num) :
    c.verdict p = .queue num ↔ ∃ r ∈ c.rules, r.queueOf p = some num := by
  unfold Chain.verdict
  cases hf : c.rules.findSome? (·.queueOf p) with
  | none =>
    rw [List.findSome?_eq_none_iff] at hf
    refine iff_of_false nofun ?_
    rintro ⟨r, hr, hr'⟩
    rw [hf r hr] at hr'
    cases hr'
  | some q =>
    obtain ⟨r, hr, hr'⟩ := List.exists_of_findSome?_eq_some hf
    obtain rfl := hq r hr q hr'
    exact iff_of_true rfl ⟨r, hr, hr'⟩

/-- And it accepts every other packet. -/
theorem verdict_eq_accept_iff {c : Chain} {p : Packet} :
    c.verdict p = .accept ↔ ∀ r ∈ c.rules, r.queueOf p = none := by
  unfold Chain.verdict
  rw [← List.findSome?_eq_none_iff]
  cases c.rules.findSome? (·.queueOf p) <;> simp

end Nftables
