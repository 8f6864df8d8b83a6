import Rectilinear.Proofs.Axes

/-!
# Changes of empty rectangles

An empty rectangle stays empty when it is clipped, shrunk or moved, over any sequence of such
changes.  The axis that makes it empty starts after the least bound, so that there is a bound for
its collapsed form.  A move can take both axes to the least bound; there neither of them collapses,
and the rectangle becomes a point.
-/

namespace Rectilinear

namespace Rect

/-- A change that is meant to leave an empty rectangle empty. -/
inductive Change where
  | moveTo (x y : Int)
  | clip (s : Rect)
  | clear
  | shrink (left right bottom top : Int)
  | shrinkAll (amount : Int)
  | shrinkAxes (x y : Int)
  deriving DecidableEq, Repr

namespace Change

def apply (r : Rect) : Change → Rect
  | moveTo x y => r.moveTo x y
  | clip s => r.clip s
  | clear => empty
  | shrink left right bottom top => r.shrink left right bottom top
  | shrinkAll amount => r.shrinkAll amount
  | shrinkAxes x y => r.shrinkAxes x y

def Allowed : Change → Prop
  | moveTo x y => Rectilinear.InRange x ∧ Rectilinear.InRange y
  | clip s => s.InRange
  | clear => True
  | shrink left right bottom top =>
      IsAmount left ∧ IsAmount right ∧ IsAmount bottom ∧ IsAmount top
  | shrinkAll amount => IsAmount amount
  | shrinkAxes x y => IsAmount x ∧ IsAmount y

instance : DecidablePred Allowed
  | moveTo _ _ => inferInstanceAs (Decidable (_ ∧ _))
  | clip s => inferInstanceAs (Decidable s.InRange)
  | clear => inferInstanceAs (Decidable True)
  | shrink _ _ _ _ => inferInstanceAs (Decidable (_ ∧ _))
  | shrinkAll amount => inferInstanceAs (Decidable (IsAmount amount))
  | shrinkAxes _ _ => inferInstanceAs (Decidable (_ ∧ _))

def run (r : Rect) (changes : List Change) : Rect :=
  changes.foldl apply r

theorem run_append_singleton (r : Rect) (changes : List Change) (change : Change) :
    run r (changes ++ [change]) = apply (run r changes) change := by
  rw [run, List.foldl_append]
  rfl

end Change

/-!
## Single changes

An axis that is inverted has no infinite side, and a bound before its low one.  A move collapses an
empty rectangle at its new place, as far as there is a bound to collapse to.
-/

theorem clipped_axis_lt {low far low' far' : Int} (hlow : Rectilinear.InRange low)
    (hfar : Rectilinear.InRange far) (hlow' : Rectilinear.InRange low')
    (hfar' : Rectilinear.InRange far') (h : far < low) :
    Steps.word.settleFar (max low low') (min far far') < max low low' := by
  rw [settleFar_of_lt (inRange_max hlow hlow') (inRange_min hfar hfar') (by omega)]
  omega

section Steps

variable {r s : Rect} (hr : r.InRange)

include hr

theorem isEmpty_clip (hs : s.InRange) (h : r.IsEmpty) : (r.clip s).IsEmpty := by
  rcases h with hx | hy
  · exact .inl (clipped_axis_lt hr.1 hr.2.1 hs.1 hs.2.1 hx)
  · exact .inr (clipped_axis_lt hr.2.2.1 hr.2.2.2 hs.2.2.1 hs.2.2.2 hy)

theorem isEmpty_shrink {left right bottom top : Int} (hleft : IsAmount left)
    (hright : IsAmount right) (hbottom : IsAmount bottom) (htop : IsAmount top) (h : r.IsEmpty) :
    (r.shrink left right bottom top).IsEmpty := by
  rcases inRange_iff_axes.mp hr with ⟨hcolumns, hrows⟩
  rw [isEmpty_iff_axes, columns_shrink, rows_shrink]
  rcases h with hx | hy
  · exact .inl (Axis.far_lt_low_shrink hcolumns hx hleft hright)
  · exact .inr (Axis.far_lt_low_shrink hrows hy hbottom htop)

theorem inRange_clip (hs : s.InRange) : (r.clip s).InRange :=
  ⟨inRange_max hr.1 hs.1, inRange_settleFar (inRange_min hr.2.1 hs.2.1),
    inRange_max hr.2.2.1 hs.2.2.1, inRange_settleFar (inRange_min hr.2.2.2 hs.2.2.2)⟩

theorem inRange_grow (left right bottom top : Int) : (r.grow left right bottom top).InRange := by
  rcases inRange_iff_axes.mp hr with ⟨hcolumns, hrows⟩
  rw [inRange_iff_axes, columns_grow, rows_grow]
  exact ⟨Axis.inRange_grow hcolumns left right, Axis.inRange_grow hrows bottom top⟩

theorem inRange_moveTo {x y : Int} (hx : Rectilinear.InRange x) (hy : Rectilinear.InRange y) :
    (r.moveTo x y).InRange := by
  rw [moveTo]
  split
  · exact ⟨hx, inRange_clamp _, hy, inRange_clamp _⟩
  · refine ⟨hx, ?_, hy, ?_⟩
    · show Rectilinear.InRange (if r.InfiniteX then r.right else farBound x r.width)
      split
      · exact hr.2.1
      · exact inRange_clamp _
    · show Rectilinear.InRange (if r.InfiniteY then r.top else farBound y r.height)
      split
      · exact hr.2.2.2
      · exact inRange_clamp _

end Steps

theorem moveTo_of_isEmpty {r : Rect} (h : r.IsEmpty) {x y : Int} (hx : Rectilinear.InRange x)
    (hy : Rectilinear.InRange y) :
    r.moveTo x y = ⟨x, max minBound (x - 1), y, max minBound (y - 1)⟩ := by
  have hcollapsed : ∀ z, Rectilinear.InRange z → collapsed z = max minBound (z - 1) := by
    intro z hz
    simp only [Rectilinear.InRange, minBound, maxBound] at hz
    simp only [collapsed, clamp, minBound, maxBound]
    omega
  rw [moveTo, if_pos h, hcollapsed x hx, hcollapsed y hy]

theorem isEmpty_moveTo_iff {r : Rect} (h : r.IsEmpty) {x y : Int} (hx : Rectilinear.InRange x)
    (hy : Rectilinear.InRange y) :
    (r.moveTo x y).IsEmpty ↔ ¬ (x = minBound ∧ y = minBound) := by
  simp only [moveTo_of_isEmpty h hx hy, IsEmpty]
  simp only [Rectilinear.InRange] at hx hy
  omega

namespace Change

/-!
## Sequences of changes

Only the move to the corner of the plane makes an empty rectangle non-empty.
-/

section Apply

variable {r : Rect} {change : Change} (hr : r.InRange) (hchange : change.Allowed)

include hr hchange

theorem inRange_apply : (apply r change).InRange := by
  cases change with
  | moveTo x y => exact inRange_moveTo hr hchange.1 hchange.2
  | clip s => exact inRange_clip hr hchange
  | clear => exact (by decide : empty.InRange)
  | shrink left right bottom top => exact inRange_grow hr _ _ _ _
  | shrinkAll amount => exact inRange_grow hr _ _ _ _
  | shrinkAxes x y => exact inRange_grow hr _ _ _ _

theorem isEmpty_apply_iff (h : r.IsEmpty) :
    (apply r change).IsEmpty ↔ change ≠ moveTo minBound minBound := by
  cases change with
  | moveTo x y =>
      rw [ne_eq, moveTo.injEq]
      exact isEmpty_moveTo_iff h hchange.1 hchange.2
  | clip s => exact iff_of_true (isEmpty_clip hr hchange h) (by simp)
  | clear => exact iff_of_true (by decide : empty.IsEmpty) (by simp)
  | shrink left right bottom top =>
      exact iff_of_true
        (isEmpty_shrink hr hchange.1 hchange.2.1 hchange.2.2.1 hchange.2.2.2 h) (by simp)
  | shrinkAll amount =>
      exact iff_of_true (isEmpty_shrink hr hchange hchange hchange hchange h) (by simp)
  | shrinkAxes x y =>
      exact iff_of_true (isEmpty_shrink hr hchange.1 hchange.1 hchange.2 hchange.2 h) (by simp)

end Apply

section Run

variable {r : Rect} {changes : List Change} (hr : r.InRange)
  (hchanges : ∀ change ∈ changes, change.Allowed)

include hr hchanges

theorem inRange_run : (run r changes).InRange := by
  induction changes generalizing r with
  | nil => exact hr
  | cons change changes ih =>
      rcases List.forall_mem_cons.mp hchanges with ⟨hchange, hrest⟩
      exact ih (inRange_apply hr hchange) hrest

theorem isEmpty_run (h : r.IsEmpty) (hcorner : moveTo minBound minBound ∉ changes) :
    (run r changes).IsEmpty := by
  induction changes generalizing r with
  | nil => exact h
  | cons change changes ih =>
      rcases List.forall_mem_cons.mp hchanges with ⟨hchange, hrest⟩
      rw [List.mem_cons, not_or] at hcorner
      have hfirst : (apply r change).IsEmpty :=
        (isEmpty_apply_iff hr hchange h).mpr (Ne.symm hcorner.1)
      exact ih (inRange_apply hr hchange) hrest hfirst hcorner.2

/-- An empty rectangle is empty after each change of a sequence exactly if none of them moves it to
the corner of the plane.  Up to then every move collapses it at its new place. -/
theorem isEmpty_run_iff (h : r.IsEmpty) :
    ((∀ before, before <+: changes → (run r before).IsEmpty) ↔
      moveTo minBound minBound ∉ changes) ∧
    ∀ before x y, before ++ [moveTo x y] <+: changes → moveTo minBound minBound ∉ before →
      run r (before ++ [moveTo x y]) = ⟨x, max minBound (x - 1), y, max minBound (y - 1)⟩ := by
  have hallowed : ∀ before, before <+: changes → ∀ change ∈ before, change.Allowed := by
    intro before hbefore change hchange
    exact hchanges change (hbefore.subset hchange)
  refine ⟨⟨?_, ?_⟩, ?_⟩
  · intro hall hmem
    rcases List.append_of_mem hmem with ⟨before, after, rfl⟩
    have hbefore : before <+: before ++ moveTo minBound minBound :: after :=
      List.prefix_append _ _
    have hthrough : before ++ [moveTo minBound minBound] <+:
        before ++ moveTo minBound minBound :: after := ⟨after, by simp⟩
    -- up to the first move to the corner it is empty, and then it is not
    have hempty := hall _ hthrough
    rw [run_append_singleton] at hempty
    exact (isEmpty_apply_iff (inRange_run hr (hallowed _ hbefore)) (hchanges _ hmem)
      (hall _ hbefore)).mp hempty rfl
  · intro hcorner before hbefore
    exact isEmpty_run hr (hallowed before hbefore) h fun hmem => hcorner (hbefore.subset hmem)
  · intro before x y hthrough hcorner
    have hmove : (moveTo x y).Allowed := hallowed _ hthrough _ (by simp)
    have hbefore : before <+: changes := (List.prefix_append _ _).trans hthrough
    rw [run_append_singleton]
    exact moveTo_of_isEmpty (isEmpty_run hr (hallowed before hbefore) h hcorner) hmove.1 hmove.2

end Run

theorem isEmpty_run_iff_half_collapsed :
    let changes := [shrink 5 0 maxBound 0, moveTo minBound 4, clip plane, moveTo 7 minBound,
      shrinkAll 2]
    Rect.InRange ⟨minBound, maxBound, 3, 1⟩ ∧ (∀ change ∈ changes, change.Allowed) ∧
      Rect.IsEmpty ⟨minBound, maxBound, 3, 1⟩ ∧ moveTo minBound minBound ∉ changes ∧
      (∀ before, before <+: changes → (run ⟨minBound, maxBound, 3, 1⟩ before).IsEmpty) ∧
      run ⟨minBound, maxBound, 3, 1⟩ [shrink 5 0 maxBound 0, moveTo minBound 4] =
        ⟨minBound, minBound, 4, 3⟩ := by
  intro changes
  have hr : Rect.InRange ⟨minBound, maxBound, 3, 1⟩ := by decide
  have hchanges : ∀ change ∈ changes, change.Allowed := by decide
  have hempty : Rect.IsEmpty ⟨minBound, maxBound, 3, 1⟩ := by decide
  have hcorner : moveTo minBound minBound ∉ changes := by decide
  rcases isEmpty_run_iff hr hchanges hempty with ⟨hkept, hmoved⟩
  exact ⟨hr, hchanges, hempty, hcorner, hkept.mpr hcorner,
    hmoved [shrink 5 0 maxBound 0] minBound 4 (by decide) (by decide)⟩

theorem not_isEmpty_moveTo_corner :
    empty.InRange ∧ empty.IsEmpty ∧ (moveTo minBound minBound).Allowed ∧
      run empty [moveTo minBound minBound] = ⟨minBound, minBound, minBound, minBound⟩ ∧
      ¬ (run empty [moveTo minBound minBound]).IsEmpty := by
  decide

end Change

end Rect

end Rectilinear
