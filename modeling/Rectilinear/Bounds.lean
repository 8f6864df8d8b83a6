/-!
# Bounds

Bounds of rectangles are integers between `minBound` and `maxBound`, both included.  The two extreme
values stand for infinitely far sides.  Arithmetic on bounds outside a set operation saturates at
them.
-/

namespace Rectilinear

def minBound : Int := -2147483648

def maxBound : Int := 2147483647

def InRange (x : Int) : Prop :=
  minBound ≤ x ∧ x ≤ maxBound

instance (x : Int) : Decidable (InRange x) :=
  inferInstanceAs (Decidable (_ ∧ _))

def clamp (x : Int) : Int :=
  max minBound (min x maxBound)

/-- The far bound of an axis that starts at a bound and holds nothing. -/
def collapsed (low : Int) : Int :=
  clamp (low - 1)

theorem inRange_clamp (x : Int) : InRange (clamp x) := by
  simp only [InRange, clamp, minBound, maxBound]
  omega

theorem clamp_of_inRange {x : Int} (h : InRange x) : clamp x = x := by
  simp only [InRange, clamp, minBound, maxBound] at *
  omega

end Rectilinear
