import Rectilinear.Rect.Resize

/-!
# Offsets and sizes

The far bound of an axis is read off its offset and its size, and saturates.  At the greatest bound
this costs no point in range.  At the least bound it can keep an axis from being empty: nothing lies
before that bound, so an axis that starts there has it as a coordinate whatever its size.  A moved
rectangle takes its far bounds from its sizes; these saturate as well, so that an axis longer than
the greatest bound is cut short.
-/

namespace Rectilinear

/-!
## Far bounds

An axis without a size is empty, unless it starts at the least bound.  A moved axis keeps its
length, but no more of it than a saturated size can tell.
-/

theorem le_farBound_iff {offset size x : Int} (hx : InRange x) :
    x ≤ farBound offset size ↔ x < offset + size ∨ x = minBound := by
  simp only [InRange, minBound, maxBound] at hx
  simp only [farBound, clamp, minBound, maxBound]
  omega

theorem farBound_lt_iff {offset size : Int} (hoffset : InRange offset) :
    farBound offset size < offset ↔ size ≤ 0 ∧ offset ≠ minBound := by
  have hle : offset ≤ farBound offset size ↔ offset < offset + size ∨ offset = minBound :=
    le_farBound_iff hoffset
  omega

theorem farBound_clamp {low high offset : Int} (hsides : low ≤ high) (hoffset : InRange offset)
    (hfar : InRange (high + (offset - low))) :
    farBound offset (clamp (high - low + 1)) = offset + min (high - low) (maxBound - 1) := by
  simp only [InRange, minBound, maxBound] at hoffset hfar
  simp only [farBound, clamp, minBound, maxBound]
  omega

namespace Rect

/-!
## Rectangles from a size

The least bound belongs to an axis that starts there, even without a size.
-/

theorem contains_ofSize_iff {x₀ y₀ x y : Int} (width height : Int) (hx : Rectilinear.InRange x)
    (hy : Rectilinear.InRange y) :
    (ofSize x₀ y₀ width height).Contains x y ↔
      (x₀ ≤ x ∧ (x < x₀ + width ∨ x = minBound)) ∧
        (y₀ ≤ y ∧ (y < y₀ + height ∨ y = minBound)) := by
  rw [← le_farBound_iff hx, ← le_farBound_iff hy]
  rfl

theorem isEmpty_ofSize_iff {x₀ y₀ : Int} (width height : Int) (hx₀ : Rectilinear.InRange x₀)
    (hy₀ : Rectilinear.InRange y₀) :
    (ofSize x₀ y₀ width height).IsEmpty ↔
      width ≤ 0 ∧ x₀ ≠ minBound ∨ height ≤ 0 ∧ y₀ ≠ minBound := by
  rw [← farBound_lt_iff hx₀, ← farBound_lt_iff hy₀]
  rfl

/-- The points of a rectangle given by a size are those of the half-open box.  Only the least bound
belongs to an axis that starts there even without a size. -/
theorem ofSize_points {x₀ y₀ : Int} (hx₀ : Rectilinear.InRange x₀) (hy₀ : Rectilinear.InRange y₀)
    (width height : Int) :
    (∀ x y, Rectilinear.InRange x → Rectilinear.InRange y →
      ((ofSize x₀ y₀ width height).Contains x y ↔
        (x₀ ≤ x ∧ (x < x₀ + width ∨ x = minBound)) ∧
          (y₀ ≤ y ∧ (y < y₀ + height ∨ y = minBound)))) ∧
    ((ofSize x₀ y₀ width height).IsEmpty ↔
      width ≤ 0 ∧ x₀ ≠ minBound ∨ height ≤ 0 ∧ y₀ ≠ minBound) ∧
    ∀ r : Rect, r.left = x₀ → r.bottom = y₀ →
      r.resize width height = ofSize x₀ y₀ width height := by
  refine ⟨?_, isEmpty_ofSize_iff width height hx₀ hy₀, ?_⟩
  · intro x y hx hy
    exact contains_ofSize_iff width height hx hy
  · rintro r rfl rfl
    rfl

theorem ofSize_points_saturated :
    Rectilinear.InRange minBound ∧ Rectilinear.InRange (maxBound - 1) ∧
      Rectilinear.InRange maxBound ∧
      ((ofSize minBound (maxBound - 1) 0 9).Contains minBound maxBound ↔
        (minBound ≤ minBound ∧ (minBound < minBound + 0 ∨ minBound = minBound)) ∧
          (maxBound - 1 ≤ maxBound ∧ (maxBound < maxBound - 1 + 9 ∨ maxBound = minBound))) ∧
      ¬ (ofSize minBound (maxBound - 1) 0 9).IsEmpty ∧
      resize ⟨minBound, 3, maxBound - 1, 0⟩ 0 9 = ofSize minBound (maxBound - 1) 0 9 := by
  have hx₀ : Rectilinear.InRange minBound := by decide
  have hy₀ : Rectilinear.InRange (maxBound - 1) := by decide
  have hy : Rectilinear.InRange maxBound := by decide
  rcases ofSize_points hx₀ hy₀ 0 9 with ⟨hpoints, hempty, hresize⟩
  refine ⟨hx₀, hy₀, hy, hpoints _ _ hx₀ hy, ?_, hresize _ rfl rfl⟩
  rw [hempty]
  decide

theorem not_half_open_ofSize :
    ¬ ((ofSize minBound 0 0 1).Contains minBound 0 ↔
        (minBound ≤ minBound ∧ minBound < minBound + 0) ∧ ((0 : Int) ≤ 0 ∧ (0 : Int) < 0 + 1)) ∧
      ¬ ((ofSize minBound 0 0 1).IsEmpty ↔ (0 : Int) ≤ 0 ∨ (1 : Int) ≤ 0) := by
  decide

/-!
## Moved rectangles

A length greater than the greatest bound does not even survive a move to where the rectangle is.
-/

theorem translate_zero (r : Rect) : r.translate 0 0 = r := by
  simp [translate]

section Move

variable {r : Rect} {x y : Int} (hproper : ¬ r.IsEmpty) (hfinite : ¬ r.Infinite)
  (hx : Rectilinear.InRange x) (hy : Rectilinear.InRange y)
  (hright : Rectilinear.InRange (r.right + (x - r.left)))
  (htop : Rectilinear.InRange (r.top + (y - r.bottom)))

include hproper hfinite hx hy hright htop

theorem moveTo_eq :
    r.moveTo x y =
      ⟨x, x + min (r.right - r.left) (maxBound - 1),
        y, y + min (r.top - r.bottom) (maxBound - 1)⟩ := by
  rw [Infinite, not_or] at hfinite
  have hsides := not_isEmpty_iff.mp hproper
  rw [moveTo, if_neg hproper, if_neg hfinite.1, if_neg hfinite.2, width, if_neg hfinite.1, height,
    if_neg hfinite.2, farBound_clamp hsides.1 hx hright, farBound_clamp hsides.2 hy htop]

theorem moveTo_eq_translate_iff :
    r.moveTo x y = r.translate (x - r.left) (y - r.bottom) ↔
      r.right - r.left + 1 ≤ maxBound ∧ r.top - r.bottom + 1 ≤ maxBound := by
  rw [moveTo_eq hproper hfinite hx hy hright htop, ext_iff_bounds]
  simp only [translate]
  omega

/-- A rectangle is moved as it is exactly if neither of its sizes is greater than a bound can be.  A
greater one does not even survive a move to where the rectangle is. -/
theorem moveTo_keeps_size_iff (hr : r.InRange) :
    (r.moveTo x y = r.translate (x - r.left) (y - r.bottom) ↔
      r.right - r.left + 1 ≤ maxBound ∧ r.top - r.bottom + 1 ≤ maxBound) ∧
    (r.moveTo r.left r.bottom = r ↔
      r.right - r.left + 1 ≤ maxBound ∧ r.top - r.bottom + 1 ≤ maxBound) := by
  refine ⟨moveTo_eq_translate_iff hproper hfinite hx hy hright htop, ?_⟩
  have hright' : Rectilinear.InRange (r.right + (r.left - r.left)) := by simpa using hr.2.1
  have htop' : Rectilinear.InRange (r.top + (r.bottom - r.bottom)) := by simpa using hr.2.2.2
  have hstay := moveTo_eq_translate_iff hproper hfinite hr.1 hr.2.2.1 hright' htop'
  rwa [Int.sub_self, Int.sub_self, translate_zero] at hstay

end Move

theorem moveTo_keeps_size_iff_widest :
    Rect.InRange ⟨-5, maxBound - 6, 3, 8⟩ ∧ ¬ Rect.IsEmpty ⟨-5, maxBound - 6, 3, 8⟩ ∧
      ¬ Rect.Infinite ⟨-5, maxBound - 6, 3, 8⟩ ∧ Rectilinear.InRange 1 ∧
      Rectilinear.InRange minBound ∧ Rectilinear.InRange (maxBound - 6 + (1 - -5)) ∧
      Rectilinear.InRange (8 + (minBound - 3)) ∧
      moveTo ⟨-5, maxBound - 6, 3, 8⟩ 1 minBound =
        translate (1 - -5) (minBound - 3) ⟨-5, maxBound - 6, 3, 8⟩ ∧
      moveTo ⟨-5, maxBound - 6, 3, 8⟩ (-5) 3 = ⟨-5, maxBound - 6, 3, 8⟩ := by
  have hr : Rect.InRange ⟨-5, maxBound - 6, 3, 8⟩ := by decide
  have hproper : ¬ Rect.IsEmpty ⟨-5, maxBound - 6, 3, 8⟩ := by decide
  have hfinite : ¬ Rect.Infinite ⟨-5, maxBound - 6, 3, 8⟩ := by decide
  have hx : Rectilinear.InRange 1 := by decide
  have hy : Rectilinear.InRange minBound := by decide
  have hright : Rectilinear.InRange (maxBound - 6 + (1 - -5)) := by decide
  have htop : Rectilinear.InRange (8 + (minBound - 3)) := by decide
  have hmove := moveTo_keeps_size_iff hproper hfinite hx hy hright htop hr
  exact ⟨hr, hproper, hfinite, hx, hy, hright, htop, hmove.1.mpr (by decide),
    hmove.2.mpr (by decide)⟩

theorem moveTo_drops_column :
    Rect.InRange ⟨-1, maxBound - 1, 0, 4⟩ ∧ ¬ Rect.IsEmpty ⟨-1, maxBound - 1, 0, 4⟩ ∧
      ¬ Rect.Infinite ⟨-1, maxBound - 1, 0, 4⟩ ∧
      moveTo ⟨-1, maxBound - 1, 0, 4⟩ (-1) 0 = ⟨-1, maxBound - 2, 0, 4⟩ ∧
      moveTo ⟨-1, maxBound - 1, 0, 4⟩ (-1) 0 ≠ ⟨-1, maxBound - 1, 0, 4⟩ := by
  decide

end Rect

end Rectilinear
