import Rectilinear.Proofs.Axes

/-!
# Growing and shrinking by margins

Growing reaches exactly the points in range that the margins allow, margins of successive changes
add up, and shrinking undoes growing on each side that did not come to its extreme bound.
-/

namespace Rectilinear

structure Margins where
  left : Int
  right : Int
  bottom : Int
  top : Int
  deriving DecidableEq, Repr

namespace Margins

/-- Each margin is in range, and none is negative. -/
def Valid (m : Margins) : Prop :=
  IsAmount m.left ∧ IsAmount m.right ∧ IsAmount m.bottom ∧ IsAmount m.top

instance (m : Margins) : Decidable m.Valid :=
  inferInstanceAs (Decidable (_ ∧ _))

instance : Add Margins :=
  ⟨fun m n => ⟨m.left + n.left, m.right + n.right, m.bottom + n.bottom, m.top + n.top⟩⟩

end Margins

namespace Rect

def growBy (r : Rect) (m : Margins) : Rect :=
  r.grow m.left m.right m.bottom m.top

def shrinkBy (r : Rect) (m : Margins) : Rect :=
  r.shrink m.left m.right m.bottom m.top

theorem columns_growBy (r : Rect) (m : Margins) :
    (r.growBy m).columns = r.columns.grow m.left m.right :=
  rfl

theorem rows_growBy (r : Rect) (m : Margins) :
    (r.growBy m).rows = r.rows.grow m.bottom m.top :=
  rfl

theorem columns_shrinkBy (r : Rect) {m : Margins} (hm : m.Valid) :
    (r.shrinkBy m).columns = r.columns.grow (-m.left) (-m.right) :=
  Axis.shrink_eq r.columns hm.1 hm.2.1

theorem rows_shrinkBy (r : Rect) {m : Margins} (hm : m.Valid) :
    (r.shrinkBy m).rows = r.rows.grow (-m.bottom) (-m.top) :=
  Axis.shrink_eq r.rows hm.2.2.1 hm.2.2.2

section Laws

variable {r : Rect} {m n : Margins} (hr : r.InRange) (hm : m.Valid)

include hr hm

theorem contains_growBy_iff (hproper : ¬ r.IsEmpty) (x' y' : Int) :
    (r.growBy m).Contains x' y' ↔
      Rectilinear.InRange x' ∧ Rectilinear.InRange y' ∧ ∃ x y, r.Contains x y ∧
        (x - m.left ≤ x' ∧ x' ≤ x + m.right) ∧ (y - m.bottom ≤ y' ∧ y' ≤ y + m.top) := by
  rcases not_isEmpty_iff.mp hproper with ⟨hleft, hbottom⟩
  rcases inRange_iff_axes.mp hr with ⟨hcolumns, hrows⟩
  have hx := Axis.mem_grow_iff hcolumns hleft hm.1.1 hm.2.1.1 x'
  have hy := Axis.mem_grow_iff hrows hbottom hm.2.2.1.1 hm.2.2.2.1 y'
  rw [← columns_growBy] at hx
  rw [← rows_growBy] at hy
  constructor
  · rintro ⟨hcolumn, hrow⟩
    rcases hx.mp hcolumn with ⟨hxRange, x, hxr, hreach⟩
    rcases hy.mp hrow with ⟨hyRange, y, hyr, hreach'⟩
    exact ⟨hxRange, hyRange, x, y, ⟨hxr, hyr⟩, hreach, hreach'⟩
  · rintro ⟨hxRange, hyRange, x, y, hxy, hreach, hreach'⟩
    exact ⟨hx.mpr ⟨hxRange, x, hxy.1, hreach⟩, hy.mpr ⟨hyRange, y, hxy.2, hreach'⟩⟩

theorem shrinkBy_growBy (hproper : ¬ r.IsEmpty) :
    (r.growBy m).shrinkBy m =
      { left := if minBound < r.left - m.left then r.left else minBound
        right := if r.right + m.right < maxBound then r.right else maxBound
        bottom := if minBound < r.bottom - m.bottom then r.bottom else minBound
        top := if r.top + m.top < maxBound then r.top else maxBound } := by
  rcases not_isEmpty_iff.mp hproper with ⟨hleft, hbottom⟩
  rcases inRange_iff_axes.mp hr with ⟨hcolumns, hrows⟩
  rw [eq_iff_axes, columns_shrinkBy _ hm, rows_shrinkBy _ hm, columns_growBy, rows_growBy]
  constructor
  · exact Axis.grow_neg_grow hcolumns hleft hm.1.1 hm.2.1.1
  · exact Axis.grow_neg_grow hrows hbottom hm.2.2.1.1 hm.2.2.2.1

theorem inside_shrinkBy_growBy (hproper : ¬ r.IsEmpty) :
    r.Inside ((r.growBy m).shrinkBy m) := by
  simp only [InRange, Rectilinear.InRange] at hr
  rw [shrinkBy_growBy hr hm hproper]
  simp only [Inside]
  split_ifs <;> omega

theorem shrinkBy_growBy_eq_iff (hproper : ¬ r.IsEmpty) :
    (r.growBy m).shrinkBy m = r ↔
      ((r.InfiniteLeft ∨ minBound < r.left - m.left) ∧
        (r.InfiniteRight ∨ r.right + m.right < maxBound)) ∧
      (r.InfiniteBottom ∨ minBound < r.bottom - m.bottom) ∧
        (r.InfiniteTop ∨ r.top + m.top < maxBound) := by
  have hback : ∀ (p : Prop) [Decidable p] (x y : Int), (if p then x else y) = x ↔ x = y ∨ p := by
    intro p _ x y
    by_cases hp : p <;> simp [hp, eq_comm]
  rw [shrinkBy_growBy hr hm hproper, ext_iff_bounds]
  simp only [hback, InfiniteLeft, InfiniteRight, InfiniteBottom, InfiniteTop, and_assoc]

variable (hn : n.Valid)

include hn

theorem growBy_growBy (hproper : ¬ r.IsEmpty) : (r.growBy m).growBy n = r.growBy (m + n) := by
  rcases not_isEmpty_iff.mp hproper with ⟨hleft, hbottom⟩
  rcases inRange_iff_axes.mp hr with ⟨hcolumns, hrows⟩
  simp only [eq_iff_axes, columns_growBy, rows_growBy]
  constructor
  · exact Axis.grow_grow hcolumns hleft hm.1.1 hm.2.1.1 hn.1.1 hn.2.1.1
  · exact Axis.grow_grow hrows hbottom hm.2.2.1.1 hm.2.2.2.1 hn.2.2.1.1 hn.2.2.2.1

theorem shrinkBy_shrinkBy (hsum : (m + n).Valid) :
    (r.shrinkBy m).shrinkBy n = r.shrinkBy (m + n) := by
  rcases inRange_iff_axes.mp hr with ⟨hcolumns, hrows⟩
  rw [eq_iff_axes, columns_shrinkBy _ hn, rows_shrinkBy _ hn, columns_shrinkBy _ hm,
    rows_shrinkBy _ hm, columns_shrinkBy _ hsum, rows_shrinkBy _ hsum]
  constructor
  · exact Axis.grow_neg_grow_neg hcolumns hm.1.1 hm.2.1.1 hn.1.1 hn.2.1.1
  · exact Axis.grow_neg_grow_neg hrows hm.2.2.1.1 hm.2.2.2.1 hn.2.2.1.1 hn.2.2.2.1

omit hn in
/-- Growing reaches the points in range that the margins allow.  Shrinking by the same margins keeps
what was there, and undoes the growth exactly if each side is infinite from the start or stays
before its extreme bound.  Margins add up: shrinking ones for every rectangle, growing ones for
every non-empty one. -/
theorem grow_shrink_laws :
    (¬ r.IsEmpty → ∀ x' y', (r.growBy m).Contains x' y' ↔
      Rectilinear.InRange x' ∧ Rectilinear.InRange y' ∧ ∃ x y, r.Contains x y ∧
        (x - m.left ≤ x' ∧ x' ≤ x + m.right) ∧ (y - m.bottom ≤ y' ∧ y' ≤ y + m.top)) ∧
    (¬ r.IsEmpty → r.Inside ((r.growBy m).shrinkBy m) ∧
      ((r.growBy m).shrinkBy m = r ↔
        ((r.InfiniteLeft ∨ minBound < r.left - m.left) ∧
          (r.InfiniteRight ∨ r.right + m.right < maxBound)) ∧
        (r.InfiniteBottom ∨ minBound < r.bottom - m.bottom) ∧
          (r.InfiniteTop ∨ r.top + m.top < maxBound))) ∧
    ∀ n : Margins, n.Valid → (m + n).Valid →
      (r.shrinkBy m).shrinkBy n = r.shrinkBy (m + n) ∧
        (¬ r.IsEmpty → (r.growBy m).growBy n = r.growBy (m + n)) := by
  refine ⟨contains_growBy_iff hr hm, ?_, ?_⟩
  · intro hproper
    exact ⟨inside_shrinkBy_growBy hr hm hproper, shrinkBy_growBy_eq_iff hr hm hproper⟩
  · intro n hn hsum
    exact ⟨shrinkBy_shrinkBy hr hm hn hsum, growBy_growBy hr hm hn⟩

end Laws

theorem grow_shrink_laws_sticking :
    let r : Rect := ⟨minBound, maxBound - 3, -2, 5⟩
    let m : Margins := ⟨7, 2, 4, 5⟩
    let n : Margins := ⟨maxBound - 7, 9, 0, 3⟩
    r.InRange ∧ m.Valid ∧ n.Valid ∧ (m + n).Valid ∧ ¬ r.IsEmpty ∧
      ((r.growBy m).Contains minBound (-6) ↔
        Rectilinear.InRange minBound ∧ Rectilinear.InRange (-6) ∧ ∃ x y, r.Contains x y ∧
          (x - m.left ≤ minBound ∧ minBound ≤ x + m.right) ∧
            (y - m.bottom ≤ -6 ∧ -6 ≤ y + m.top)) ∧
      (r.growBy m).shrinkBy m = r ∧
      (r.shrinkBy m).shrinkBy n = r.shrinkBy (m + n) ∧
      (r.growBy m).growBy n = r.growBy (m + n) ∧
      r.shrinkBy m = ⟨minBound, maxBound - 5, 2, 1⟩ ∧
      r.growBy (m + n) = ⟨minBound, maxBound, -6, 13⟩ := by
  intro r m n
  have hr : r.InRange := by decide
  have hm : m.Valid := by decide
  have hn : n.Valid := by decide
  have hsum : (m + n).Valid := by decide
  have hproper : ¬ r.IsEmpty := by decide
  rcases grow_shrink_laws hr hm with ⟨hpoints, hback, hadd⟩
  refine ⟨hr, hm, hn, hsum, hproper, hpoints hproper _ _, (hback hproper).2.mpr (by decide),
    (hadd n hn hsum).1, (hadd n hn hsum).2 hproper, by decide, by decide⟩

end Rect

end Rectilinear
