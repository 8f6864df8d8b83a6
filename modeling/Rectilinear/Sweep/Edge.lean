import Rectilinear.Cover.Basic
import Rectilinear.SetOp

/-!
# Edges

A sweep runs over the rows of the plane from below.  Every rectangle gives it a start edge at its
bottom row and a stop edge at the row above its top.
-/

namespace Rectilinear

inductive Edge.Kind where
  | stop
  | start
  deriving DecidableEq, Repr

/-- In one row, what stops goes before what starts. -/
def Edge.Kind.rank : Edge.Kind → Nat
  | stop => 0
  | start => 1

structure Edge where
  row : Int
  kind : Edge.Kind
  left : Int
  right : Int
  operand : Operand
  deriving DecidableEq, Repr

namespace Edge

def ofRect (operand : Operand) (r : Rect) : List Edge :=
  [⟨r.bottom, .start, r.left, r.right, operand⟩, ⟨r.top + 1, .stop, r.left, r.right, operand⟩]

def ofCover (operand : Operand) (c : Cover) : List Edge :=
  c.flatMap (ofRect operand)

/-!
## Order

Edges are ordered by row, then kind, then left and right end.  Among those that only differ in their
operand, the edges of the first operand go before those of the second.
-/

def Le (e f : Edge) : Prop :=
  e.row < f.row ∨ e.row = f.row ∧
    (e.kind.rank < f.kind.rank ∨ e.kind.rank = f.kind.rank ∧
      (e.left < f.left ∨ e.left = f.left ∧ e.right ≤ f.right))

instance (e f : Edge) : Decidable (e.Le f) :=
  inferInstanceAs (Decidable (_ ∨ _))

def ofOperands (a b : Cover) : List Edge :=
  (ofCover .a a ++ ofCover .b b).mergeSort fun e f => e.Le f

theorem le_trans {e f g : Edge} (hef : e.Le f) (hfg : f.Le g) : e.Le g := by
  simp only [Le] at *
  omega

theorem le_total (e f : Edge) : e.Le f ∨ f.Le e := by
  simp only [Le]
  omega

theorem pairwise_ofOperands (a b : Cover) : (ofOperands a b).Pairwise Le := by
  have htrans : ∀ e f g : Edge,
      decide (e.Le f) = true → decide (f.Le g) = true → decide (e.Le g) = true := by
    intro e f g hef hfg
    simp only [decide_eq_true_eq] at *
    exact le_trans hef hfg
  have htotal : ∀ e f : Edge, (decide (e.Le f) || decide (f.Le e)) = true := by
    intro e f
    simpa using le_total e f
  simpa [ofOperands] using
    List.pairwise_mergeSort htrans htotal (ofCover .a a ++ ofCover .b b)

end Edge

end Rectilinear
