import Rectilinear.Proofs.Pieces

/-!
# Closed forms are exact

For every two rectangles, empty ones included, the closed form of a set operation is a canonical
cover of the points for which the operation holds.
-/

namespace Rectilinear

namespace Cover

theorem partitions_nil {points : Int → Int → Prop} (h : ∀ x y, ¬ points x y) :
    Partitions [] points :=
  ⟨proper_nil, by simp [InRange], List.Pairwise.nil, by simpa using h⟩

theorem partitions_singleton {r : Rect} (hr : r.InRange) (hproper : ¬ r.IsEmpty) :
    Partitions [r] r.Contains :=
  ⟨proper_singleton hproper, by simpa [InRange] using hr, List.pairwise_singleton _ _,
    by simp⟩

theorem partitions_nonempty_pair {r s : Rect} (hr : r.InRange) (hs : s.InRange)
    (h : r.IsEmpty ∨ s.IsEmpty ∨ ¬ r.Intersects s) :
    (nonempty [r, s]).Partitions fun x y => r.Contains x y ∨ s.Contains x y := by
  refine ⟨proper_nonempty _, ?_, ?_, ?_⟩
  · apply inRange_nonempty
    simp [InRange, hr, hs]
  · by_cases hrempty : r.IsEmpty
    · by_cases hsempty : s.IsEmpty <;> simp [Apart, nonempty, hrempty, hsempty]
    · by_cases hsempty : s.IsEmpty
      · simp [Apart, nonempty, hrempty, hsempty]
      · simp only [hrempty, hsempty, false_or] at h
        simp [Apart, nonempty, hrempty, hsempty, h]
  · intro x y
    rw [contains_nonempty]
    simp

theorem partitions_nonempty_pair_symmDiff {r s : Rect} (hr : r.InRange) (hs : s.InRange)
    (h : r.IsEmpty ∨ s.IsEmpty ∨ ¬ r.Intersects s) :
    (nonempty [r, s]).Partitions fun x y => ¬ (r.Contains x y ↔ s.Contains x y) := by
  refine (partitions_nonempty_pair hr hs h).congr ?_
  intro x y
  have hnot : ¬ (r.Contains x y ∧ s.Contains x y) := by
    rintro ⟨hrxy, hsxy⟩
    rcases h with hempty | hempty | hnot
    · exact hrxy.not_isEmpty hempty
    · exact hsxy.not_isEmpty hempty
    · exact hnot (hrxy.intersects hsxy)
  tauto

end Cover

namespace ClosedForm

/-- What a closed form gives is canonical and covers the points asked for. -/
structure Exact (form : ClosedForm) (points : Int → Int → Prop) : Prop where
  canonical : form.cover.Canonical
  partitions : form.cover.Partitions points

theorem Exact.canonical_and_contains_iff {form : ClosedForm} {points : Int → Int → Prop}
    (h : form.Exact points) :
    form.cover.Canonical ∧ ∀ x y, form.cover.Contains x y ↔ points x y :=
  ⟨h.canonical, h.partitions.contains_iff⟩

theorem exact_nil {points : Int → Int → Prop} (h : ∀ x y, ¬ points x y) :
    Exact (.settled []) points :=
  ⟨Cover.canonical_nil, Cover.partitions_nil h⟩

theorem exact_singleton {r : Rect} {points : Int → Int → Prop} (hr : r.InRange)
    (hproper : ¬ r.IsEmpty) (h : ∀ x y, r.Contains x y ↔ points x y) :
    Exact (.settled [r]) points :=
  ⟨Cover.canonical_singleton hproper, (Cover.partitions_singleton hr hproper).congr h⟩

theorem exact_pieces {c : Cover} {points : Int → Int → Prop} (h : c.nonempty.Partitions points) :
    Exact (.pieces c) points :=
  ⟨h.normalize.1, h.normalize.2⟩

/-!
## The four operations

An intersection is read off the overlap, and the two differences off the overhangs.  A union has a
case for each way in which one of the rectangles can span the other, and one for staggered
rectangles.  Swapped rectangles give the same points in every case.
-/

section Forms

variable {r s : Rect} (hr : r.InRange) (hs : s.InRange)

include hr hs

theorem exact_inter : (inter .exact r s).Exact fun x y => r.Contains x y ∧ s.Contains x y := by
  simp only [Rect.InRange, InRange] at hr hs
  rw [inter_eq]
  by_cases hempty : (r.clipWith .exact s).IsEmpty
  · rw [if_pos hempty]
    apply exact_nil
    intro x y hxy
    exact Rect.isEmpty_iff.mp hempty x y (Rect.contains_clipWith_iff.mpr hxy)
  · rw [if_neg hempty]
    refine exact_singleton ?_ hempty fun x y => Rect.contains_clipWith_iff
    simp only [Rect.not_isEmpty_iff, Rect.InRange, InRange, Rect.clipWith_eq,
      Steps.settleFar_exact] at hempty ⊢
    split_ifs at hempty ⊢ <;> omega

theorem exact_symmDiff :
    (symmDiff .exact r s).Exact fun x y => ¬ (r.Contains x y ↔ s.Contains x y) := by
  rw [symmDiff_exact]
  split
  · rename_i hapart
    exact exact_pieces (Cover.partitions_nonempty_pair_symmDiff hr hs hapart)
  · rename_i hoverlap
    split
    · rename_i heq
      apply exact_nil
      simp [heq]
    · have hoverhangs := Rect.partitions_overhangs (Rect.Overlap.of_not hr hs hoverlap)
      exact exact_pieces (hoverhangs.perm (perm_strips r s).symm).nonempty

theorem exact_diff : (diff .exact r s).Exact fun x y => r.Contains x y ∧ ¬ s.Contains x y := by
  rw [diff_exact]
  split
  · rename_i hempty
    apply exact_nil
    rintro x y ⟨hrxy, _⟩
    exact hrxy.not_isEmpty hempty
  · rename_i hrproper
    split
    · rename_i hapart
      refine exact_singleton hr hrproper ?_
      intro x y
      rw [iff_self_and]
      intro hrxy hsxy
      rcases hapart with hempty | hnot
      · exact hsxy.not_isEmpty hempty
      · exact hnot (hrxy.intersects hsxy)
    · rename_i hoverlap
      have hnot : ¬ (r.IsEmpty ∨ s.IsEmpty ∨ ¬ r.Intersects s) := by
        rw [not_or]
        exact ⟨hrproper, hoverlap⟩
      have hpieces := Rect.partitions_overhang (Rect.Overlap.of_not hr hs hnot)
      rw [← stripsOf_a] at hpieces
      exact exact_pieces hpieces.nonempty

theorem exact_union : (union .exact r s).Exact fun x y => r.Contains x y ∨ s.Contains x y := by
  rw [union_exact]
  split
  · rename_i hapart
    exact exact_pieces (Cover.partitions_nonempty_pair hr hs hapart)
  · rename_i hnot
    have h := Rect.Overlap.of_not hr hs hnot
    have hswap : ∀ x y, s.Contains x y ∨ r.Contains x y ↔ r.Contains x y ∨ s.Contains x y :=
      fun x y => or_comm
    rw [h.clipWith_eq]
    simp only
    split
    · rename_i hinside
      refine exact_singleton hs h.right.2 ?_
      intro x y
      exact (or_iff_right_of_imp hinside.contains).symm
    split
    · rename_i hinside
      refine exact_singleton hr h.left.2 ?_
      intro x y
      exact (or_iff_left_of_imp hinside.contains).symm
    split
    · exact exact_pieces (partitions_cons_beside h (by omega) (by omega)).nonempty
    split
    · have hpieces := partitions_cons_beside h.symm (by omega) (by omega)
      exact exact_pieces (hpieces.congr hswap).nonempty
    split
    · exact exact_pieces (partitions_cons_belowAbove h (by omega) (by omega)).nonempty
    split
    · have hpieces := partitions_cons_belowAbove h.symm (by omega) (by omega)
      exact exact_pieces (hpieces.congr hswap).nonempty
    · rename_i hrows hrows' _ _
      -- neither spans the other's columns or rows, so that one begins and ends below the other
      by_cases hlower : r.bottom < s.bottom
      · rw [staggered_of_lower hlower (by omega)]
        exact exact_pieces (partitions_steps h hlower (by omega)).nonempty
      · rw [staggered_of_upper (by omega) (by omega)]
        exact exact_pieces ((partitions_steps h.symm (by omega) (by omega)).congr hswap).nonempty

/-- The four closed forms are canonical covers of the points that are in both rectangles, in one or
both, in exactly one, and in the first alone. -/
theorem closed_forms_exact :
    ((inter .word r s).cover.Canonical ∧
      ∀ x y, (inter .word r s).cover.Contains x y ↔ r.Contains x y ∧ s.Contains x y) ∧
    ((union .word r s).cover.Canonical ∧
      ∀ x y, (union .word r s).cover.Contains x y ↔ r.Contains x y ∨ s.Contains x y) ∧
    ((symmDiff .word r s).cover.Canonical ∧
      ∀ x y, (symmDiff .word r s).cover.Contains x y ↔ ¬ (r.Contains x y ↔ s.Contains x y)) ∧
    ((diff .word r s).cover.Canonical ∧
      ∀ x y, (diff .word r s).cover.Contains x y ↔ r.Contains x y ∧ ¬ s.Contains x y) := by
  have hinter : inter .word r s = inter .exact r s := closedForm_word_eq hr hs .and
  have hunion : union .word r s = union .exact r s := closedForm_word_eq hr hs .or
  have hsymmDiff : symmDiff .word r s = symmDiff .exact r s := closedForm_word_eq hr hs .xor
  have hdiff : diff .word r s = diff .exact r s := closedForm_word_eq hr hs .diff
  rw [hinter, hunion, hsymmDiff, hdiff]
  exact ⟨(exact_inter hr hs).canonical_and_contains_iff,
    (exact_union hr hs).canonical_and_contains_iff,
    (exact_symmDiff hr hs).canonical_and_contains_iff,
    (exact_diff hr hs).canonical_and_contains_iff⟩

end Forms

theorem closed_forms_exact_inverted :
    Rect.InRange ⟨minBound, 6, 2, maxBound⟩ ∧ Rect.InRange ⟨4, 1, 3, 5⟩ ∧
      Rect.Inside ⟨4, 1, 3, 5⟩ ⟨minBound, 6, 2, maxBound⟩ ∧
      (union .word ⟨minBound, 6, 2, maxBound⟩ ⟨4, 1, 3, 5⟩).cover.Canonical ∧
      ∀ x y, (union .word ⟨minBound, 6, 2, maxBound⟩ ⟨4, 1, 3, 5⟩).cover.Contains x y ↔
        Rect.Contains ⟨minBound, 6, 2, maxBound⟩ x y ∨ Rect.Contains ⟨4, 1, 3, 5⟩ x y := by
  have hr : Rect.InRange ⟨minBound, 6, 2, maxBound⟩ := by decide
  have hs : Rect.InRange ⟨4, 1, 3, 5⟩ := by decide
  exact ⟨hr, hs, by decide, (closed_forms_exact hr hs).2.1⟩

end ClosedForm

end Rectilinear
