import Rectilinear.Combine

/-!
# Expressions

Set expressions over rectangles and covers, evaluated with the default settings.  A rectangle stands
for the cover that has it as its only member.
-/

namespace Rectilinear

inductive Expr where
  | rect (r : Rect)
  | cover (c : Cover)
  | not (e : Expr)
  | binary (op : SetOp) (e f : Expr)
  deriving Repr

namespace Expr

def eval : Expr → Except Failure Cover
  | rect r => .ok [r]
  | cover c => .ok c
  | not e => do
      (← e.eval).compl
  | binary op e f => do
      let a ← e.eval
      let b ← f.eval
      Cover.combine {} op a b

/-- The operations of an expression, each after those of its operands. -/
def operations : Expr → List Expr
  | rect _ => []
  | cover _ => []
  | not e => e.operations ++ [not e]
  | binary op e f => e.operations ++ f.operations ++ [binary op e f]

/-- The expression as a formula on the coverage of a point by its operands. -/
def Holds (x y : Int) : Expr → Prop
  | rect r => r.Contains x y
  | cover c => c.Contains x y
  | not e => ¬ e.Holds x y
  | binary .and e f => e.Holds x y ∧ f.Holds x y
  | binary .or e f => e.Holds x y ∨ f.Holds x y
  | binary .xor e f => ¬ (e.Holds x y ↔ f.Holds x y)
  | binary .diff e f => e.Holds x y ∧ ¬ f.Holds x y

end Expr

end Rectilinear
