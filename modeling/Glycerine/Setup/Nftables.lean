/-!
# Rules of nftables

A rule is a list of expressions. Evaluated against a packet, a load puts a part of the packet into a register, a
comparison compares the register with constant bytes and ends the rule if it does not hold, and a queue statement
ends it with a verdict. A load of bytes that the packet does not have ends the rule as well. Comparisons are
bytewise from the first byte on (`bytesLe`), so numbers have to be in network order to be compared as numbers
(`bytesLe_pair`).
-/
namespace Nftables

/-- What a rule can see of a packet. -/
structure Packet where
  iifname : List UInt8
  l4proto : UInt8
  /-- from the first byte of the network header on -/
  network : List UInt8
  /-- from the first byte of the transport header on -/
  transport : List UInt8
deriving DecidableEq, Repr

inductive Load where
  | iifname
  | l4proto
  | network (offset len : Nat)
  | transport (offset len : Nat)
deriving DecidableEq, Repr

inductive CmpOp where
  | eq | gte | lte
deriving DecidableEq, Repr

inductive Expr where
  | load (l : Load)
  | cmp (op : CmpOp) (data : List UInt8)
  | queue (num : Nat)
deriving DecidableEq, Repr

abbrev Rule := List Expr

/-- `len` bytes from `offset` on, if they are there. -/
def field (bs : List UInt8) (offset len : Nat) : Option (List UInt8) :=
  if offset + len ≤ bs.length then some ((bs.drop offset).take len) else none

def Packet.load (p : Packet) : Load → Option (List UInt8)
  | .iifname => some p.iifname
  | .l4proto => some [p.l4proto]
  | .network offset len => field p.network offset len
  | .transport offset len => field p.transport offset len

def bytesLe : List UInt8 → List UInt8 → Bool
  | [], _ => true
  | _ :: _, [] => false
  | a :: as, b :: bs => a < b || a == b && bytesLe as bs

def CmpOp.holds : CmpOp → List UInt8 → List UInt8 → Bool
  | .eq, reg, data => reg == data
  | .gte, reg, data => bytesLe data reg
  | .lte, reg, data => bytesLe reg data

/-- The queue that the rule sends the packet to. -/
def Rule.eval (p : Packet) : List UInt8 → Rule → Option Nat
  | _, [] => none
  | _, .load l :: es =>
    match p.load l with
    | some reg => Rule.eval p reg es
    | none => none
  | reg, .cmp op data :: es => if op.holds reg data then Rule.eval p reg es else none
  | _, .queue num :: _ => some num

def Rule.queueOf (r : Rule) (p : Packet) : Option Nat := Rule.eval p [] r

/-! ## Requests -/

inductive Hook where
  | preRouting | out
deriving DecidableEq, Repr

/-- The requests of a batch; chains are filter chains with policy accept. -/
inductive Msg where
  | addTable (name : String)
  | delTable (name : String)
  | addChain (table name : String) (hook : Hook) (priority : Int)
  | addRule (table chain : String) (rule : Rule)
deriving DecidableEq, Repr

/-- A batch takes effect as a whole or not at all. -/
abbrev Batch := List Msg

def Batch.rules : Batch → List Rule :=
  List.flatMap fun
    | .addRule _ _ rule => [rule]
    | _ => []

/-! ## Evaluation -/

section
variable {p : Packet} {reg data : List UInt8} {es : Rule} {q : Nat}

theorem eval_load {l : Load} :
    Rule.eval p reg (.load l :: es) = some q ↔ ∃ v, p.load l = some v ∧ Rule.eval p v es = some q := by
  rw [Rule.eval]
  cases p.load l <;> simp

theorem eval_cmp {op : CmpOp} :
    Rule.eval p reg (.cmp op data :: es) = some q ↔ op.holds reg data = true ∧ Rule.eval p reg es = some q := by
  rw [Rule.eval]
  cases op.holds reg data <;> simp

theorem eval_queue {num : Nat} : Rule.eval p reg [.queue num] = some q ↔ num = q := by
  rw [Rule.eval, Option.some.injEq]

end

/-! ## Numbers of two bytes -/

/-- The number that two bytes are in network order. -/
def pairNat (hi lo : UInt8) : Nat := hi.toNat * 256 + lo.toNat

theorem bytesLe_pair {a b c d : UInt8} : bytesLe [a, b] [c, d] = true ↔ pairNat a b ≤ pairNat c d := by
  have hb := b.toNat_lt
  have hd := d.toNat_lt
  simp only [bytesLe, Bool.or_eq_true, Bool.and_eq_true, decide_eq_true_eq, beq_iff_eq, Bool.and_true,
    UInt8.lt_iff_toNat_lt, ← UInt8.toNat_inj, pairNat]
  omega

theorem field_pair {bs : List UInt8} {offset : Nat} {v : List UInt8} (h : field bs offset 2 = some v) :
    ∃ a b, v = [a, b] := by
  unfold field at h
  split at h
  · rename_i hlen
    cases h
    have hl : ((bs.drop offset).take 2).length = 2 := by
      rw [List.length_take, List.length_drop]
      omega
    match hv : (bs.drop offset).take 2, hl with
    | [a, b], _ => exact ⟨a, b, rfl⟩
  · cases h

end Nftables
