import Rectilinear.Bounds

/-!
# Rectangles

A rectangle is a set of integer points given by four inclusive bounds.  Bounds may be inverted, in
which case the rectangle is empty; they are kept as given.
-/

namespace Rectilinear

/-- A closed rectangle with sides parallel to the axes. -/
structure Rect where
  left : Int
  right : Int
  bottom : Int
  top : Int
  deriving DecidableEq, Repr

/-- An index that is not below the length of what it indexes. -/
structure OutOfRange where
  index : Nat
  length : Nat
  deriving DecidableEq, Repr

def OutOfRange.message (e : OutOfRange) : String :=
  "Index " ++ toString e.index ++ " out of range (length " ++ toString e.length ++ ")"

namespace Rect

def empty : Rect :=
  ⟨0, -1, 0, -1⟩

/-- The whole plane: all four sides are infinite. -/
def plane : Rect :=
  ⟨minBound, maxBound, minBound, maxBound⟩

instance : Inhabited Rect :=
  ⟨empty⟩

def InRange (r : Rect) : Prop :=
  Rectilinear.InRange r.left ∧ Rectilinear.InRange r.right ∧
    Rectilinear.InRange r.bottom ∧ Rectilinear.InRange r.top

instance (r : Rect) : Decidable r.InRange :=
  inferInstanceAs (Decidable (_ ∧ _))

/-!
## Points

Bounds are inclusive.  A rectangle lies inside another one if each of its sides does, and two
intersect if their bounds overlap on both axes.  For empty rectangles these are conditions on
bounds, not on points.
-/

def IsEmpty (r : Rect) : Prop :=
  r.right < r.left ∨ r.top < r.bottom

def ContainsX (r : Rect) (x : Int) : Prop :=
  r.left ≤ x ∧ x ≤ r.right

def ContainsY (r : Rect) (y : Int) : Prop :=
  r.bottom ≤ y ∧ y ≤ r.top

def Contains (r : Rect) (x y : Int) : Prop :=
  r.ContainsX x ∧ r.ContainsY y

def Inside (r s : Rect) : Prop :=
  s.left ≤ r.left ∧ r.right ≤ s.right ∧ s.bottom ≤ r.bottom ∧ r.top ≤ s.top

def Intersects (r s : Rect) : Prop :=
  r.left ≤ s.right ∧ s.left ≤ r.right ∧ r.bottom ≤ s.top ∧ s.bottom ≤ r.top

instance (r : Rect) : Decidable r.IsEmpty :=
  inferInstanceAs (Decidable (_ ∨ _))

instance (r : Rect) (x : Int) : Decidable (r.ContainsX x) :=
  inferInstanceAs (Decidable (_ ∧ _))

instance (r : Rect) (y : Int) : Decidable (r.ContainsY y) :=
  inferInstanceAs (Decidable (_ ∧ _))

instance (r : Rect) (x y : Int) : Decidable (r.Contains x y) :=
  inferInstanceAs (Decidable (_ ∧ _))

instance (r s : Rect) : Decidable (r.Inside s) :=
  inferInstanceAs (Decidable (_ ∧ _))

instance (r s : Rect) : Decidable (r.Intersects s) :=
  inferInstanceAs (Decidable (_ ∧ _))

theorem not_isEmpty_iff {r : Rect} : ¬ r.IsEmpty ↔ r.left ≤ r.right ∧ r.bottom ≤ r.top := by
  simp only [IsEmpty]
  omega

theorem contains_iff {r : Rect} {x y : Int} :
    r.Contains x y ↔ r.left ≤ x ∧ x ≤ r.right ∧ r.bottom ≤ y ∧ y ≤ r.top := by
  simp only [Contains, ContainsX, ContainsY]
  omega

theorem isEmpty_iff {r : Rect} : r.IsEmpty ↔ ∀ x y, ¬ r.Contains x y := by
  constructor
  · intro h x y
    simp only [IsEmpty, contains_iff] at *
    omega
  · intro h
    have corner := h r.left r.bottom
    simp only [IsEmpty, contains_iff] at *
    omega

theorem Intersects.symm {r s : Rect} (h : r.Intersects s) : s.Intersects r := by
  simp only [Intersects] at *
  omega

/-!
## Sides at the extreme bounds

A side at an extreme bound is infinitely far away, and a rectangle is infinite if any of its sides
is.
-/

def InfiniteLeft (r : Rect) : Prop :=
  r.left = minBound

def InfiniteRight (r : Rect) : Prop :=
  r.right = maxBound

def InfiniteBottom (r : Rect) : Prop :=
  r.bottom = minBound

def InfiniteTop (r : Rect) : Prop :=
  r.top = maxBound

def InfiniteX (r : Rect) : Prop :=
  r.InfiniteLeft ∨ r.InfiniteRight

def InfiniteY (r : Rect) : Prop :=
  r.InfiniteBottom ∨ r.InfiniteTop

def Infinite (r : Rect) : Prop :=
  r.InfiniteX ∨ r.InfiniteY

instance (r : Rect) : Decidable r.InfiniteLeft :=
  inferInstanceAs (Decidable (_ = _))

instance (r : Rect) : Decidable r.InfiniteRight :=
  inferInstanceAs (Decidable (_ = _))

instance (r : Rect) : Decidable r.InfiniteBottom :=
  inferInstanceAs (Decidable (_ = _))

instance (r : Rect) : Decidable r.InfiniteTop :=
  inferInstanceAs (Decidable (_ = _))

instance (r : Rect) : Decidable r.InfiniteX :=
  inferInstanceAs (Decidable (_ ∨ _))

instance (r : Rect) : Decidable r.InfiniteY :=
  inferInstanceAs (Decidable (_ ∨ _))

instance (r : Rect) : Decidable r.Infinite :=
  inferInstanceAs (Decidable (_ ∨ _))

/-!
## Measures

The width is the number of columns, or zero if a horizontal side is infinite.  It is negative if the
sides are inverted by more than one, and saturates.  The height is the same for rows.  By number,
the bounds are left, right, bottom and top.
-/

def width (r : Rect) : Int :=
  if r.InfiniteX then 0 else clamp (r.right - r.left + 1)

def height (r : Rect) : Int :=
  if r.InfiniteY then 0 else clamp (r.top - r.bottom + 1)

def bound (r : Rect) : Nat → Except OutOfRange Int
  | 0 => .ok r.left
  | 1 => .ok r.right
  | 2 => .ok r.bottom
  | 3 => .ok r.top
  | index => .error ⟨index, 4⟩

/-!
## Order

Rectangles are ordered by bottom, then left, then top, then right.
-/

protected def Le (r s : Rect) : Prop :=
  r.bottom < s.bottom ∨ r.bottom = s.bottom ∧
    (r.left < s.left ∨ r.left = s.left ∧
      (r.top < s.top ∨ r.top = s.top ∧ r.right ≤ s.right))

instance : LE Rect :=
  ⟨Rect.Le⟩

instance : LT Rect :=
  ⟨fun r s => r ≤ s ∧ r ≠ s⟩

theorem le_iff {r s : Rect} :
    r ≤ s ↔ r.bottom < s.bottom ∨ r.bottom = s.bottom ∧
      (r.left < s.left ∨ r.left = s.left ∧
        (r.top < s.top ∨ r.top = s.top ∧ r.right ≤ s.right)) :=
  Iff.rfl

instance (r s : Rect) : Decidable (r ≤ s) :=
  decidable_of_iff _ le_iff.symm

instance (r s : Rect) : Decidable (r < s) :=
  inferInstanceAs (Decidable (_ ∧ _))

instance : Ord Rect where
  compare r s := if r = s then .eq else if r ≤ s then .lt else .gt

instance : Min Rect where
  min r s := if r ≤ s then r else s

instance : Max Rect where
  max r s := if r ≤ s then s else r

theorem ext_iff_bounds {r s : Rect} :
    r = s ↔ r.left = s.left ∧ r.right = s.right ∧ r.bottom = s.bottom ∧ r.top = s.top := by
  cases r
  cases s
  simp

protected theorem le_trans {r s t : Rect} (hrs : r ≤ s) (hst : s ≤ t) : r ≤ t := by
  simp only [le_iff] at *
  omega

instance : Trans (fun r s : Rect => r ≤ s) (fun r s => r ≤ s) (fun r s => r ≤ s) :=
  ⟨Rect.le_trans⟩

protected theorem le_antisymm {r s : Rect} (hrs : r ≤ s) (hsr : s ≤ r) : r = s := by
  simp only [le_iff, ext_iff_bounds] at *
  omega

protected theorem le_total (r s : Rect) : r ≤ s ∨ s ≤ r := by
  simp only [le_iff]
  omega

/-!
## Text

Bounds are written in the order in which they are numbered.
-/

def text (r : Rect) : String :=
  "region( " ++ toString r.left ++ ", " ++ toString r.right ++ ", " ++ toString r.bottom ++ ", " ++
    toString r.top ++ " )"

end Rect

end Rectilinear
