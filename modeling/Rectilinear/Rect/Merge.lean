import Rectilinear.Rect.Resize

/-!
# Mergeable rectangles

Two rectangles are mergeable if their bounding box holds no point outside both: one lies inside the
other, or they have equal sides on one axis and overlap or touch on the other.
-/

namespace Rectilinear

/-- The closed intervals from `low` to `high` and from `low'` to `high'` overlap or are adjacent. -/
def Touch (low high low' high' : Int) : Prop :=
  low ≤ high' + 1 ∧ low' ≤ high + 1

instance (low high low' high' : Int) : Decidable (Touch low high low' high') :=
  inferInstanceAs (Decidable (_ ∧ _))

theorem Touch.symm {low high low' high' : Int} (h : Touch low high low' high') :
    Touch low' high' low high :=
  And.symm h

namespace Rect

def Mergeable (r s : Rect) : Prop :=
  s.Inside r ∨ r.Inside s ∨
    r.left = s.left ∧ r.right = s.right ∧ Touch r.bottom r.top s.bottom s.top ∨
    r.bottom = s.bottom ∧ r.top = s.top ∧ Touch r.left r.right s.left s.right

instance (r s : Rect) : Decidable (r.Mergeable s) :=
  inferInstanceAs (Decidable (_ ∨ _))

theorem Mergeable.symm {r s : Rect} (h : r.Mergeable s) : s.Mergeable r := by
  rcases h with hinside | hinside | ⟨hleft, hright, htouch⟩ | ⟨hbottom, htop, htouch⟩
  · exact .inr (.inl hinside)
  · exact .inl hinside
  · exact .inr (.inr (.inl ⟨hleft.symm, hright.symm, htouch.symm⟩))
  · exact .inr (.inr (.inr ⟨hbottom.symm, htop.symm, htouch.symm⟩))

theorem not_isEmpty_hull {r : Rect} (h : ¬ r.IsEmpty) (s : Rect) : ¬ (r.hull s).IsEmpty := by
  simp only [IsEmpty, hull] at *
  omega

theorem Mergeable.contains_hull_iff {r s : Rect} (h : r.Mergeable s) (x y : Int) :
    (r.hull s).Contains x y ↔ r.Contains x y ∨ s.Contains x y := by
  simp only [contains_iff, hull]
  rcases h with hinside | hinside | ⟨hleft, hright, htouch⟩ | ⟨hbottom, htop, htouch⟩
  · simp only [Inside] at hinside
    omega
  · simp only [Inside] at hinside
    omega
  · simp only [Touch] at htouch
    omega
  · simp only [Touch] at htouch
    omega

end Rect

end Rectilinear
