/-!
# Set operations

A set operation on two covers is decided point by point, from how many members of each cover contain
the point.
-/

namespace Rectilinear

inductive SetOp where
  | and
  | or
  | xor
  | diff
  deriving DecidableEq, Repr

/-- The cover that a rectangle of a set operation comes from. -/
inductive Operand where
  | a
  | b
  deriving DecidableEq, Repr

def Operand.text : Operand → String
  | a => "a"
  | b => "b"

def Operand.other : Operand → Operand
  | a => b
  | b => a

namespace SetOp

def Holds : SetOp → Nat → Nat → Prop
  | and, inA, inB => 0 < inA ∧ 0 < inB
  | or, inA, inB => 0 < inA ∨ 0 < inB
  | xor, inA, inB => ¬ (0 < inA ↔ 0 < inB)
  | diff, inA, inB => 0 < inA ∧ inB = 0

instance (op : SetOp) (inA inB : Nat) : Decidable (op.Holds inA inB) := by
  cases op <;> simp only [Holds] <;> infer_instance

def text : SetOp → String
  | and => "And"
  | or => "Or"
  | xor => "Xor"
  | diff => "Difference"

theorem not_holds_zero (op : SetOp) : ¬ op.Holds 0 0 := by
  cases op <;> simp [Holds]

theorem pos_of_holds {op : SetOp} {inA inB : Nat} (h : op.Holds inA inB) : 0 < inA ∨ 0 < inB := by
  cases op <;> simp only [Holds] at h <;> omega

end SetOp

end Rectilinear
