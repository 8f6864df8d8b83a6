import Mathlib.Tactic.SplitIfs
import Rectilinear.Rect.Resize

/-!
# Axes with extreme bounds

A side of an axis moves by its amount, stops at its extreme bound and stays there from then on.
Amounts in one direction add up, and moving back undoes a move that did not end at the extreme
bound.  An axis whose sides cross collapses, and stays collapsed for as long as they move inwards.
-/

namespace Rectilinear

/-- What a side can be shrunk by. -/
def IsAmount (n : Int) : Prop :=
  0 ≤ n ∧ n ≤ maxBound

instance (n : Int) : Decidable (IsAmount n) :=
  inferInstanceAs (Decidable (_ ∧ _))

theorem inRange_max {x y : Int} (hx : InRange x) (hy : InRange y) : InRange (max x y) := by
  simp only [InRange] at *
  omega

theorem inRange_min {x y : Int} (hx : InRange x) (hy : InRange y) : InRange (min x y) := by
  simp only [InRange] at *
  omega

theorem inRange_settleFar {low far : Int} (hfar : InRange far) :
    InRange (Steps.word.settleFar low far) := by
  rw [Steps.settleFar_word]
  split
  · exact inRange_clamp _
  · exact hfar

theorem settleFar_of_lt {low far : Int} (hlow : InRange low) (hfar : InRange far)
    (h : far < low) : Steps.word.settleFar low far = low - 1 := by
  rw [Steps.settleFar_word, if_pos h]
  apply clamp_of_inRange
  simp only [InRange] at *
  omega

/-!
## Single sides

A side is pushed outwards by its amount, or inwards by a negative one.  The far side of an axis
behaves as its low side does in the mirror that exchanges the two extreme bounds.
-/

def pushLow (low amount : Int) : Int :=
  if low = minBound then low else clamp (low - amount)

def pushFar (far amount : Int) : Int :=
  if far = maxBound then far else clamp (far + amount)

/-- The reflection that exchanges the extreme bounds. -/
def mirror (x : Int) : Int :=
  -1 - x

theorem mirror_mirror (x : Int) : mirror (mirror x) = x := by
  simp only [mirror]
  omega

theorem inRange_mirror {x : Int} (h : InRange x) : InRange (mirror x) := by
  simp only [InRange, mirror, minBound, maxBound] at *
  omega

theorem pushFar_eq_mirror (far amount : Int) :
    pushFar far amount = mirror (pushLow (mirror far) amount) := by
  simp only [pushFar, pushLow, mirror, clamp, minBound, maxBound]
  split_ifs <;> omega

section Sides

variable {low far m n x : Int}

theorem inRange_pushLow (hlow : InRange low) (amount : Int) : InRange (pushLow low amount) := by
  rw [pushLow]
  split
  · exact hlow
  · exact inRange_clamp _

theorem inRange_pushFar (hfar : InRange far) (amount : Int) : InRange (pushFar far amount) := by
  rw [pushFar_eq_mirror]
  exact inRange_mirror (inRange_pushLow (inRange_mirror hfar) amount)

theorem pushLow_eq (hlow : InRange low) (hm : 0 ≤ m) :
    pushLow low m = max minBound (low - m) := by
  simp only [InRange] at hlow
  simp only [pushLow, clamp]
  split_ifs <;> omega

theorem pushLow_neg_eq (hlow : InRange low) (hm : 0 ≤ m) :
    pushLow low (-m) = if low = minBound then minBound else min maxBound (low + m) := by
  simp only [InRange] at hlow
  simp only [pushLow, clamp]
  split_ifs <;> omega

theorem pushFar_eq (hfar : InRange far) (hm : 0 ≤ m) :
    pushFar far m = min maxBound (far + m) := by
  rw [pushFar_eq_mirror, pushLow_eq (inRange_mirror hfar) hm]
  simp only [mirror, minBound, maxBound]
  omega

theorem pushLow_le_pushFar (hlow : InRange low) (hfar : InRange far) (h : low ≤ far)
    (hm : 0 ≤ m) (hn : 0 ≤ n) : pushLow low m ≤ pushFar far n := by
  rw [pushLow_eq hlow hm, pushFar_eq hfar hn]
  simp only [InRange] at hlow hfar
  omega

theorem le_pushLow_neg (hlow : InRange low) (hm : 0 ≤ m) : low ≤ pushLow low (-m) := by
  rw [pushLow_neg_eq hlow hm]
  simp only [InRange] at hlow
  split_ifs <;> omega

theorem pushFar_neg_le (hfar : InRange far) (hm : 0 ≤ m) : pushFar far (-m) ≤ far := by
  have hmirror := le_pushLow_neg (inRange_mirror hfar) hm
  rw [pushFar_eq_mirror]
  simp only [mirror] at hmirror ⊢
  omega

/-!
Amounts in one direction add up: what is cut off at an extreme bound stays cut off.
-/

theorem pushLow_pushLow (hlow : InRange low) (hm : 0 ≤ m) (hn : 0 ≤ n) :
    pushLow (pushLow low m) n = pushLow low (m + n) := by
  rw [pushLow_eq (inRange_pushLow hlow m) hn, pushLow_eq hlow hm, pushLow_eq hlow (by omega)]
  omega

theorem pushFar_pushFar (hfar : InRange far) (hm : 0 ≤ m) (hn : 0 ≤ n) :
    pushFar (pushFar far m) n = pushFar far (m + n) := by
  simp only [pushFar_eq_mirror, mirror_mirror, pushLow_pushLow (inRange_mirror hfar) hm hn]

theorem pushLow_neg_pushLow_neg (hlow : InRange low) (hm : 0 ≤ m) (hn : 0 ≤ n) :
    pushLow (pushLow low (-m)) (-n) = pushLow low (-(m + n)) := by
  rw [pushLow_neg_eq (inRange_pushLow hlow _) hn, pushLow_neg_eq hlow hm,
    pushLow_neg_eq hlow (by omega)]
  simp only [InRange, minBound, maxBound] at *
  split_ifs <;> omega

theorem pushFar_neg_pushFar_neg (hfar : InRange far) (hm : 0 ≤ m) (hn : 0 ≤ n) :
    pushFar (pushFar far (-m)) (-n) = pushFar far (-(m + n)) := by
  simp only [pushFar_eq_mirror, mirror_mirror, pushLow_neg_pushLow_neg (inRange_mirror hfar) hm hn]

/-!
A side comes back to where it was, unless it was brought to its extreme bound.
-/

theorem pushLow_neg_pushLow (hlow : InRange low) (hm : 0 ≤ m) :
    pushLow (pushLow low m) (-m) = if minBound < low - m then low else minBound := by
  rw [pushLow_neg_eq (inRange_pushLow hlow m) hm, pushLow_eq hlow hm]
  simp only [InRange] at hlow
  split_ifs <;> omega

theorem pushFar_neg_pushFar (hfar : InRange far) (hm : 0 ≤ m) :
    pushFar (pushFar far m) (-m) = if far + m < maxBound then far else maxBound := by
  simp only [pushFar_eq_mirror, mirror_mirror, pushLow_neg_pushLow (inRange_mirror hfar) hm]
  simp only [mirror, minBound, maxBound]
  split_ifs <;> omega

end Sides

/-!
## Axes

An axis grows on both sides.  Sides that do not cross stay where they were pushed, so that a
coordinate is reached exactly if it is in range and no further than the amounts from one of the
axis.  An axis that collapses in the first of two shrinks does so in their sum, after the same low
side.
-/

structure Axis where
  low : Int
  far : Int
  deriving DecidableEq, Repr

namespace Axis

def InRange (axis : Axis) : Prop :=
  Rectilinear.InRange axis.low ∧ Rectilinear.InRange axis.far

def grow (axis : Axis) (atLow atFar : Int) : Axis :=
  ⟨pushLow axis.low atLow, Steps.word.settleFar (pushLow axis.low atLow) (pushFar axis.far atFar)⟩

def shrink (axis : Axis) (atLow atFar : Int) : Axis :=
  axis.grow (clamp (-atLow)) (clamp (-atFar))

theorem inRange_grow {axis : Axis} (haxis : axis.InRange) (atLow atFar : Int) :
    (axis.grow atLow atFar).InRange :=
  ⟨inRange_pushLow haxis.1 atLow, inRange_settleFar (inRange_pushFar haxis.2 atFar)⟩

theorem shrink_eq (axis : Axis) {m n : Int} (hm : IsAmount m) (hn : IsAmount n) :
    axis.shrink m n = axis.grow (-m) (-n) := by
  have hclamp : ∀ k, IsAmount k → clamp (-k) = -k := by
    intro k hk
    simp only [IsAmount, maxBound] at hk
    apply clamp_of_inRange
    simp only [Rectilinear.InRange, minBound, maxBound]
    omega
  rw [shrink, hclamp m hm, hclamp n hn]

theorem grow_eq_of_le {axis : Axis} {m n : Int} (h : pushLow axis.low m ≤ pushFar axis.far n) :
    axis.grow m n = ⟨pushLow axis.low m, pushFar axis.far n⟩ := by
  rw [grow, Steps.settleFar_word, if_neg (by omega)]

theorem grow_eq_of_lt {axis : Axis} {m n : Int} (haxis : axis.InRange)
    (h : pushFar axis.far n < pushLow axis.low m) :
    axis.grow m n = ⟨pushLow axis.low m, pushLow axis.low m - 1⟩ := by
  rw [grow, settleFar_of_lt (inRange_pushLow haxis.1 m) (inRange_pushFar haxis.2 n) h]

section Laws

variable {axis : Axis} {m n m' n' : Int} (haxis : axis.InRange)

include haxis

theorem grow_eq (h : axis.low ≤ axis.far) (hm : 0 ≤ m) (hn : 0 ≤ n) :
    axis.grow m n = ⟨pushLow axis.low m, pushFar axis.far n⟩ :=
  grow_eq_of_le (pushLow_le_pushFar haxis.1 haxis.2 h hm hn)

theorem low_le_far_grow (h : axis.low ≤ axis.far) (hm : 0 ≤ m) (hn : 0 ≤ n) :
    (axis.grow m n).low ≤ (axis.grow m n).far := by
  rw [grow_eq haxis h hm hn]
  exact pushLow_le_pushFar haxis.1 haxis.2 h hm hn

theorem mem_grow_iff (h : axis.low ≤ axis.far) (hm : 0 ≤ m) (hn : 0 ≤ n) (x' : Int) :
    (axis.grow m n).low ≤ x' ∧ x' ≤ (axis.grow m n).far ↔
      Rectilinear.InRange x' ∧ ∃ x, (axis.low ≤ x ∧ x ≤ axis.far) ∧ x - m ≤ x' ∧ x' ≤ x + n := by
  rw [grow_eq haxis h hm hn, pushLow_eq haxis.1 hm, pushFar_eq haxis.2 hn]
  simp only [InRange, Rectilinear.InRange] at haxis ⊢
  constructor
  · rintro ⟨hlow, hfar⟩
    -- the coordinate of the axis nearest to it
    exact ⟨by omega, max axis.low (min x' axis.far), by omega, by omega⟩
  · rintro ⟨hrange, x, hx, hlow, hfar⟩
    omega

theorem grow_grow (h : axis.low ≤ axis.far) (hm : 0 ≤ m) (hn : 0 ≤ n) (hm' : 0 ≤ m')
    (hn' : 0 ≤ n') : (axis.grow m n).grow m' n' = axis.grow (m + m') (n + n') := by
  have hgrown := low_le_far_grow haxis h hm hn
  rw [grow_eq (inRange_grow haxis m n) hgrown hm' hn', grow_eq haxis h hm hn,
    grow_eq haxis h (by omega) (by omega)]
  simp only [pushLow_pushLow haxis.1 hm hm', pushFar_pushFar haxis.2 hn hn']

theorem far_lt_low_shrink (h : axis.far < axis.low) (hm : IsAmount m) (hn : IsAmount n) :
    (axis.shrink m n).far < (axis.shrink m n).low := by
  have hrises := le_pushLow_neg haxis.1 hm.1
  have hfalls := pushFar_neg_le haxis.2 hn.1
  rw [shrink_eq axis hm hn, grow_eq_of_lt haxis (by omega)]
  dsimp only
  omega

theorem grow_neg_grow_neg (hm : 0 ≤ m) (hn : 0 ≤ n) (hm' : 0 ≤ m') (hn' : 0 ≤ n') :
    (axis.grow (-m) (-n)).grow (-m') (-n') = axis.grow (-(m + m')) (-(n + n')) := by
  have hlow := pushLow_neg_pushLow_neg haxis.1 hm hm'
  have hfar := pushFar_neg_pushFar_neg haxis.2 hn hn'
  have hlowRange := inRange_pushLow haxis.1 (-m)
  have hfarRange := inRange_pushFar haxis.2 (-n)
  by_cases hcross : pushFar axis.far (-n) < pushLow axis.low (-m)
  · have hfirst := grow_eq_of_lt haxis hcross
    have hbefore : Rectilinear.InRange (pushLow axis.low (-m) - 1) := by
      simp only [Rectilinear.InRange] at *
      omega
    have hrises := le_pushLow_neg hlowRange hm'
    have hfalls := pushFar_neg_le hfarRange hn'
    have hfalls' := pushFar_neg_le hbefore hn'
    rw [hfirst, grow_eq_of_lt ⟨hlowRange, hbefore⟩ (by dsimp only; omega), hlow,
      grow_eq_of_lt haxis (by omega)]
  · have hfirst : axis.grow (-m) (-n) = ⟨pushLow axis.low (-m), pushFar axis.far (-n)⟩ :=
      grow_eq_of_le (by omega)
    rw [hfirst, grow, grow, hlow, hfar]

theorem grow_neg_grow (h : axis.low ≤ axis.far) (hm : 0 ≤ m) (hn : 0 ≤ n) :
    (axis.grow m n).grow (-m) (-n) =
      ⟨if minBound < axis.low - m then axis.low else minBound,
        if axis.far + n < maxBound then axis.far else maxBound⟩ := by
  have hlow := pushLow_neg_pushLow haxis.1 hm
  have hfar := pushFar_neg_pushFar haxis.2 hn
  rw [grow_eq haxis h hm hn, grow_eq_of_le, hlow, hfar]
  dsimp only
  rw [hlow, hfar]
  simp only [InRange, Rectilinear.InRange] at haxis
  split_ifs <;> omega

end Laws

end Axis

/-!
## The axes of a rectangle

A rectangle is the product of its columns and its rows, which grow and shrink on their own.
-/

namespace Rect

def columns (r : Rect) : Axis :=
  ⟨r.left, r.right⟩

def rows (r : Rect) : Axis :=
  ⟨r.bottom, r.top⟩

theorem eq_iff_axes {r s : Rect} : r = s ↔ r.columns = s.columns ∧ r.rows = s.rows := by
  simp only [ext_iff_bounds, columns, rows, Axis.mk.injEq, and_assoc]

theorem inRange_iff_axes {r : Rect} : r.InRange ↔ r.columns.InRange ∧ r.rows.InRange := by
  simp only [InRange, Axis.InRange, columns, rows, and_assoc]

theorem isEmpty_iff_axes {r : Rect} :
    r.IsEmpty ↔ r.columns.far < r.columns.low ∨ r.rows.far < r.rows.low :=
  Iff.rfl

section Grow

variable (r : Rect) (left right bottom top : Int)

theorem columns_grow : (r.grow left right bottom top).columns = r.columns.grow left right :=
  rfl

theorem rows_grow : (r.grow left right bottom top).rows = r.rows.grow bottom top :=
  rfl

theorem columns_shrink : (r.shrink left right bottom top).columns = r.columns.shrink left right :=
  rfl

theorem rows_shrink : (r.shrink left right bottom top).rows = r.rows.shrink bottom top :=
  rfl

end Grow

end Rect

end Rectilinear
