import Rectilinear.Cover.Normalize
import Rectilinear.SetOp

/-!
# Set operations on two rectangles

The result of a set operation on two rectangles can be read off their eight bounds, without a sweep.
The pieces are disjoint, but neighbours among them may still be mergeable.
-/

namespace Rectilinear

inductive ClosedForm where
  /-- A cover that needs no normalizing. -/
  | settled (cover : Cover)
  /-- Pieces that are normalized afterwards. -/
  | pieces (cover : Cover)
  deriving DecidableEq, Repr

namespace ClosedForm

def cover : ClosedForm → Cover
  | settled c => c
  | pieces c => c.normalize

section Monadic

variable {m : Type → Type} [Monad m] (steps : Steps m)

/-!
## Intersection and union

If one rectangle spans the other on an axis, the spanning one stays whole and the other one keeps
the columns that lie left and right of it, or the rows below and above.  Else the two are staggered:
the rows that they share go across both, and what sticks out above them and below is left as it is.
-/

def interM (r s : Rect) : m ClosedForm := do
  let overlap ← r.clipM steps s
  return .settled (if overlap.IsEmpty then [] else [overlap])

def besideM (r s : Rect) : m Cover := do
  let left ← singletonIf (r.left < s.left) do return { r with right := ← steps.prev s.left }
  let right ← singletonIf (s.right < r.right) do return { r with left := ← steps.next s.right }
  return left ++ right

def belowAboveM (r s : Rect) : m Cover := do
  let below ← singletonIf (r.bottom < s.bottom) do return { r with top := ← steps.prev s.bottom }
  let above ← singletonIf (s.top < r.top) do return { r with bottom := ← steps.next s.top }
  return below ++ above

def staggeredM (r s overlap : Rect) : m Cover := do
  let upper := if overlap.top < r.top then r else s
  let lower := if r.bottom < overlap.bottom then r else s
  let above ← singletonIf (overlap.top < upper.top) do
    return { upper with bottom := ← steps.next overlap.top }
  let below ← singletonIf (lower.bottom < overlap.bottom) do
    return { lower with top := ← steps.prev overlap.bottom }
  return ⟨min r.left s.left, max r.right s.right, overlap.bottom, overlap.top⟩ :: above ++ below

def unionM (r s : Rect) : m ClosedForm :=
  if r.IsEmpty ∨ s.IsEmpty ∨ ¬ r.Intersects s then
    pure (.pieces [r, s])
  else if r.Inside s then
    pure (.settled [s])
  else if s.Inside r then
    pure (.settled [r])
  else do
    let overlap ← r.clipM steps s
    if r.bottom = overlap.bottom ∧ r.top = overlap.top then
      return .pieces (s :: (← besideM steps r s))
    else if s.bottom = overlap.bottom ∧ s.top = overlap.top then
      return .pieces (r :: (← besideM steps s r))
    else if r.left = overlap.left ∧ r.right = overlap.right then
      return .pieces (s :: (← belowAboveM steps r s))
    else if s.left = overlap.left ∧ s.right = overlap.right then
      return .pieces (r :: (← belowAboveM steps s r))
    else
      return .pieces (← staggeredM steps r s overlap)

/-!
## Symmetric difference and difference

The points in one of two intersecting rectangles and not the other fall into strips: one for each
side on which they differ, with the rectangle that reaches further there.  Strips on the left and
right have the full height of that rectangle, those below and above only the columns of the overlap.
A difference keeps the strips of the first rectangle.
-/

/-- The rectangle that reaches further, and the operand that it is. -/
def outer (r s : Rect) (further : Prop) [Decidable further] : Rect × Operand :=
  if further then (r, .a) else (s, .b)

def stripsM (r s : Rect) : m (List (Rect × Operand)) := do
  let low := max r.left s.left
  let high := min r.right s.right
  let left := outer r s (r.left < s.left)
  let bottom := outer r s (r.bottom < s.bottom)
  let right := outer r s (s.right < r.right)
  let top := outer r s (s.top < r.top)
  let lefts ← singletonIf (r.left ≠ s.left) do
    return ({ left.1 with right := ← steps.prev low }, left.2)
  let bottoms ← singletonIf (r.bottom ≠ s.bottom) do
    return (⟨low, high, bottom.1.bottom, ← steps.prev (max r.bottom s.bottom)⟩, bottom.2)
  let rights ← singletonIf (r.right ≠ s.right) do
    return ({ right.1 with left := ← steps.next high }, right.2)
  let tops ← singletonIf (r.top ≠ s.top) do
    return (⟨low, high, ← steps.next (min r.top s.top), top.1.top⟩, top.2)
  return lefts ++ bottoms ++ rights ++ tops

def symmDiffM (r s : Rect) : m ClosedForm :=
  if r.IsEmpty ∨ s.IsEmpty ∨ ¬ r.Intersects s then
    pure (.pieces [r, s])
  else if r = s then
    pure (.settled [])
  else do
    return .pieces ((← stripsM steps r s).map Prod.fst)

def diffM (r s : Rect) : m ClosedForm :=
  if r.IsEmpty then
    pure (.settled [])
  else if s.IsEmpty ∨ ¬ r.Intersects s then
    pure (.settled [r])
  else do
    return .pieces (((← stripsM steps r s).filter fun strip => strip.2 = .a).map Prod.fst)

end Monadic

/-!
## Without a monad

Where no step can fail, a closed form is told by its bounds alone.
-/

variable (steps : Steps Id) (r s : Rect)

def inter : ClosedForm :=
  Id.run (interM steps r s)

def beside : Cover :=
  Id.run (besideM steps r s)

def belowAbove : Cover :=
  Id.run (belowAboveM steps r s)

def staggered (overlap : Rect) : Cover :=
  Id.run (staggeredM steps r s overlap)

def union : ClosedForm :=
  Id.run (unionM steps r s)

def strips : List (Rect × Operand) :=
  Id.run (stripsM steps r s)

def symmDiff : ClosedForm :=
  Id.run (symmDiffM steps r s)

def diff : ClosedForm :=
  Id.run (diffM steps r s)

theorem inter_eq :
    inter steps r s =
      .settled (if (r.clipWith steps s).IsEmpty then [] else [r.clipWith steps s]) :=
  rfl

theorem beside_exact :
    beside .exact r s =
      ((if r.left < s.left then [{ r with right := s.left - 1 }] else []) ++
        (if s.right < r.right then [{ r with left := s.right + 1 }] else [])) :=
  rfl

theorem belowAbove_exact :
    belowAbove .exact r s =
      ((if r.bottom < s.bottom then [{ r with top := s.bottom - 1 }] else []) ++
        (if s.top < r.top then [{ r with bottom := s.top + 1 }] else [])) :=
  rfl

theorem staggered_exact (overlap : Rect) :
    staggered .exact r s overlap =
      let upper := if overlap.top < r.top then r else s
      let lower := if r.bottom < overlap.bottom then r else s
      (⟨min r.left s.left, max r.right s.right, overlap.bottom, overlap.top⟩ ::
        (if overlap.top < upper.top then [{ upper with bottom := overlap.top + 1 }] else []) ++
        (if lower.bottom < overlap.bottom then
          [{ lower with top := overlap.bottom - 1 }] else [])) :=
  rfl

theorem union_exact :
    union .exact r s =
      if r.IsEmpty ∨ s.IsEmpty ∨ ¬ r.Intersects s then .pieces [r, s]
      else if r.Inside s then .settled [s]
      else if s.Inside r then .settled [r]
      else
        let overlap : Rect := r.clipWith .exact s
        if r.bottom = overlap.bottom ∧ r.top = overlap.top then .pieces (s :: beside .exact r s)
        else if s.bottom = overlap.bottom ∧ s.top = overlap.top then
          .pieces (r :: beside .exact s r)
        else if r.left = overlap.left ∧ r.right = overlap.right then
          .pieces (s :: belowAbove .exact r s)
        else if s.left = overlap.left ∧ s.right = overlap.right then
          .pieces (r :: belowAbove .exact s r)
        else .pieces (staggered .exact r s overlap) :=
  rfl

theorem strips_exact :
    strips .exact r s =
      let left := outer r s (r.left < s.left)
      let bottom := outer r s (r.bottom < s.bottom)
      let right := outer r s (s.right < r.right)
      let top := outer r s (s.top < r.top)
      ((if r.left ≠ s.left then
        [({ left.1 with right := max r.left s.left - 1 }, left.2)] else []) ++
      (if r.bottom ≠ s.bottom then
        [(⟨max r.left s.left, min r.right s.right, bottom.1.bottom, max r.bottom s.bottom - 1⟩,
          bottom.2)] else []) ++
      (if r.right ≠ s.right then
        [({ right.1 with left := min r.right s.right + 1 }, right.2)] else []) ++
      (if r.top ≠ s.top then
        [(⟨max r.left s.left, min r.right s.right, min r.top s.top + 1, top.1.top⟩, top.2)]
      else [])) :=
  rfl

theorem symmDiff_exact :
    symmDiff .exact r s =
      if r.IsEmpty ∨ s.IsEmpty ∨ ¬ r.Intersects s then .pieces [r, s]
      else if r = s then .settled []
      else .pieces ((strips .exact r s).map Prod.fst) :=
  rfl

theorem diff_exact :
    diff .exact r s =
      if r.IsEmpty then .settled []
      else if s.IsEmpty ∨ ¬ r.Intersects s then .settled [r]
      else .pieces (((strips .exact r s).filter fun strip => strip.2 = .a).map Prod.fst) :=
  rfl

end ClosedForm

namespace SetOp

def closedFormM {m : Type → Type} [Monad m] (steps : Steps m) : SetOp → Rect → Rect → m ClosedForm
  | and => ClosedForm.interM steps
  | or => ClosedForm.unionM steps
  | xor => ClosedForm.symmDiffM steps
  | diff => ClosedForm.diffM steps

def closedForm (steps : Steps Id) : SetOp → Rect → Rect → ClosedForm
  | and => ClosedForm.inter steps
  | or => ClosedForm.union steps
  | xor => ClosedForm.symmDiff steps
  | diff => ClosedForm.diff steps

end SetOp

end Rectilinear
