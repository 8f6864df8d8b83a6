import Rectilinear.Rect.Basic
import Rectilinear.Steps

/-!
# Moving, clipping and resizing rectangles

All of these saturate at the extreme bounds.  An axis that loses its last column or row collapses:
its far bound becomes the one before its low bound.
-/

namespace Rectilinear

/-- The far bound of an axis of a given size. -/
def farBound (offset size : Int) : Int :=
  clamp (offset + size - 1)

/-- The far bound of an axis, collapsed if it lies before the low bound. -/
def Steps.settleFarM {m : Type → Type} [Monad m] (steps : Steps m) (low far : Int) : m Int :=
  if far < low then steps.collapsed low else pure far

def Steps.settleFar (steps : Steps Id) (low far : Int) : Int :=
  Id.run (steps.settleFarM low far)

theorem Steps.settleFar_word (low far : Int) :
    word.settleFar low far = if far < low then Rectilinear.collapsed low else far :=
  rfl

theorem Steps.settleFar_exact (low far : Int) :
    exact.settleFar low far = if far < low then low - 1 else far :=
  rfl

theorem Steps.settleFar_of_le {steps : Steps Id} {low far : Int} (h : low ≤ far) :
    steps.settleFar low far = far :=
  if_neg (Int.not_lt.mpr h)

namespace Rect

/-!
## Position and size

A rectangle can be given by its low corner and its size.  Moving changes the low corner and keeps
the size: on an infinite axis only the low bound moves, and an empty rectangle collapses on both
axes.  Resizing keeps the low corner.
-/

def ofSize (x y width height : Int) : Rect :=
  ⟨x, farBound x width, y, farBound y height⟩

def moveTo (r : Rect) (x y : Int) : Rect :=
  if r.IsEmpty then
    ⟨x, collapsed x, y, collapsed y⟩
  else
    { left := x
      right := if r.InfiniteX then r.right else farBound x r.width
      bottom := y
      top := if r.InfiniteY then r.top else farBound y r.height }

def resize (r : Rect) (width height : Int) : Rect :=
  { r with right := farBound r.left width, top := farBound r.bottom height }

def translate (dx dy : Int) (r : Rect) : Rect :=
  ⟨r.left + dx, r.right + dx, r.bottom + dy, r.top + dy⟩

/-!
## Two rectangles

Clipping leaves the overlap of two rectangles; an axis without overlap collapses.  The hull is the
bounding box of the bounds of both, whether or not they are empty.
-/

def clipM {m : Type → Type} [Monad m] (steps : Steps m) (r s : Rect) : m Rect := do
  let right ← steps.settleFarM (max r.left s.left) (min r.right s.right)
  let top ← steps.settleFarM (max r.bottom s.bottom) (min r.top s.top)
  return ⟨max r.left s.left, right, max r.bottom s.bottom, top⟩

def clipWith (steps : Steps Id) (r s : Rect) : Rect :=
  Id.run (clipM steps r s)

theorem clipWith_eq (steps : Steps Id) (r s : Rect) :
    r.clipWith steps s =
      { left := max r.left s.left
        right := steps.settleFar (max r.left s.left) (min r.right s.right)
        bottom := max r.bottom s.bottom
        top := steps.settleFar (max r.bottom s.bottom) (min r.top s.top) } :=
  rfl

def clip (r s : Rect) : Rect :=
  clipWith .word r s

def hull (r s : Rect) : Rect :=
  ⟨min r.left s.left, max r.right s.right, min r.bottom s.bottom, max r.top s.top⟩

/-!
## Growing and shrinking

Growing moves each side outwards by its amount and shrinking inwards; a negative amount moves the
other way.  Infinite sides stay where they are.
-/

def grow (r : Rect) (left right bottom top : Int) : Rect :=
  let newLeft := if r.InfiniteLeft then r.left else clamp (r.left - left)
  let newRight := if r.InfiniteRight then r.right else clamp (r.right + right)
  let newBottom := if r.InfiniteBottom then r.bottom else clamp (r.bottom - bottom)
  let newTop := if r.InfiniteTop then r.top else clamp (r.top + top)
  { left := newLeft
    right := Steps.word.settleFar newLeft newRight
    bottom := newBottom
    top := Steps.word.settleFar newBottom newTop }

def growAll (r : Rect) (amount : Int) : Rect :=
  r.grow amount amount amount amount

def growAxes (r : Rect) (x y : Int) : Rect :=
  r.grow x x y y

def shrink (r : Rect) (left right bottom top : Int) : Rect :=
  r.grow (clamp (-left)) (clamp (-right)) (clamp (-bottom)) (clamp (-top))

def shrinkAll (r : Rect) (amount : Int) : Rect :=
  r.shrink amount amount amount amount

def shrinkAxes (r : Rect) (x y : Int) : Rect :=
  r.shrink x x y y

end Rect

end Rectilinear
