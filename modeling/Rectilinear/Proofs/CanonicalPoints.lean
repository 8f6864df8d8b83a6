import Rectilinear.Proofs.Apart

/-!
# Canonical covers by their points

Whether a cover is canonical is decided by comparing bounds.  For non-empty rectangles every one of
these comparisons says something about points: which points one rectangle has, which two of them
share, and whether the points of two are those of a single one.
-/

namespace Rectilinear

namespace Rect

/-!
## Mergeable rectangles

The corners of a bounding box lie in the one or the other rectangle only if one of the rectangles is
the box, or both have a side of it in common.  What is left then is a gap between the two.
-/

theorem inside_iff_contains {r s : Rect} (hr : ¬ r.IsEmpty) :
    r.Inside s ↔ ∀ x y, r.Contains x y → s.Contains x y := by
  constructor
  · intro h x y hxy
    exact h.contains hxy
  · intro h
    have hcorners := contains_corners hr
    have hlow := h _ _ hcorners.1
    have hhigh := h _ _ hcorners.2
    simp only [Inside, contains_iff] at *
    omega

/-- The corners on the one diagonal belong to different rectangles, and each of the other corners
belongs to one of them. -/
theorem mergeable_of_corners {r s : Rect}
    (hlow : r.Contains (r.hull s).left (r.hull s).bottom)
    (hhigh : s.Contains (r.hull s).right (r.hull s).top)
    (h : ∀ x y, (r.hull s).Contains x y → r.Contains x y ∨ s.Contains x y) : r.Mergeable s := by
  have hr := hlow.not_isEmpty
  have hsides := not_isEmpty_iff.mp (not_isEmpty_hull hr s)
  have hleftTop := h (r.hull s).left (r.hull s).top (by rw [contains_iff]; omega)
  have hrightBottom := h (r.hull s).right (r.hull s).bottom (by rw [contains_iff]; omega)
  -- there is no gap between `r` and `s` in the columns, or in the rows
  have hbeside := h (r.right + 1) r.bottom
  have habove := h r.left (r.top + 1)
  simp only [hull, contains_iff] at *
  rcases hleftTop with hleftTop | hleftTop
  · rcases hrightBottom with hrightBottom | hrightBottom
    · left
      simp only [Inside]
      omega
    · right; right; right
      simp only [Touch]
      omega
  · rcases hrightBottom with hrightBottom | hrightBottom
    · right; right; left
      simp only [Touch]
      omega
    · right; left
      simp only [Inside]
      omega

theorem mergeable_of_contains_hull {r s : Rect} (hr : ¬ r.IsEmpty)
    (h : ∀ x y, (r.hull s).Contains x y → r.Contains x y ∨ s.Contains x y) : r.Mergeable s := by
  have hcorners := contains_corners (not_isEmpty_hull hr s)
  rcases h _ _ hcorners.1 with hlow | hlow
  · rcases h _ _ hcorners.2 with hhigh | hhigh
    · left
      simp only [hull, contains_iff, Inside] at *
      omega
    · exact mergeable_of_corners hlow hhigh h
  · rcases h _ _ hcorners.2 with hhigh | hhigh
    · rw [hull_comm] at hlow hhigh h
      exact (mergeable_of_corners hlow hhigh fun x y hxy => (h x y hxy).symm).symm
    · right; left
      simp only [hull, contains_iff, Inside] at *
      omega

theorem mergeable_iff_contains_hull {r s : Rect} (hr : ¬ r.IsEmpty) :
    r.Mergeable s ↔ ∀ x y, (r.hull s).Contains x y → r.Contains x y ∨ s.Contains x y :=
  ⟨fun h x y => (h.contains_hull_iff x y).mp, mergeable_of_contains_hull hr⟩

theorem mergeable_iff_exists {r s : Rect} (hr : ¬ r.IsEmpty) (hs : ¬ s.IsEmpty) :
    r.Mergeable s ↔ ∃ t : Rect, ∀ x y, t.Contains x y ↔ r.Contains x y ∨ s.Contains x y := by
  constructor
  · intro h
    exact ⟨r.hull s, h.contains_hull_iff⟩
  · rintro ⟨t, ht⟩
    have hrt : r.Inside t := (inside_iff_contains hr).mpr fun x y hxy => (ht x y).mpr (.inl hxy)
    have hst : s.Inside t := (inside_iff_contains hs).mpr fun x y hxy => (ht x y).mpr (.inr hxy)
    apply mergeable_of_contains_hull hr
    intro x y hxy
    have hbox := (inside_iff_contains (not_isEmpty_hull hr s)).mp (hull_inside hrt hst)
    exact (ht x y).mp (hbox x y hxy)

end Rect

namespace Cover

/-!
## Canonical covers

Each member of a canonical cover has a point, the members increase strictly, no point is in two
members, and the points of no two members are those of one rectangle.
-/

theorem apart_iff_coverage {c : Cover} (h : c.Proper) :
    c.Apart ↔ ∀ x y, c.coverage x y ≤ 1 := by
  constructor
  · exact Apart.coverage_le_one
  · intro hcoverage
    induction c with
    | nil => exact List.Pairwise.nil
    | cons r c ih =>
        have hcons : ∀ x y, coverage (r :: c) x y =
            coverage c x y + if r.Contains x y then 1 else 0 := by
          intro x y
          simp [coverage, List.countP_cons]
        refine List.pairwise_cons.mpr ⟨?_, ih (fun s hs => h s (by simp [hs])) ?_⟩
        · intro s hs hintersects
          rcases (Rect.intersects_iff_exists (h r (by simp)) (h s (by simp [hs]))).mp hintersects
            with ⟨x, y, hrxy, hsxy⟩
          have hpos : 0 < coverage c x y := coverage_pos_iff.mpr ⟨s, hs, hsxy⟩
          have hle := hcoverage x y
          rw [hcons, if_pos hrxy] at hle
          omega
        · intro x y
          have hle := hcoverage x y
          rw [hcons] at hle
          omega

theorem pairwise_lt_iff {c : Cover} (hproper : c.Proper) (hapart : c.Apart) :
    c.Pairwise (· < ·) ↔ c.Pairwise (· ≤ ·) := by
  constructor
  · intro h
    exact h.imp fun hrs => hrs.1
  · intro h
    exact h.imp₂ (fun _ _ hle hne => ⟨hle, hne⟩) (hapart.nodup hproper)

theorem canonical_iff_points {c : Cover} :
    c.Canonical ↔
      (∀ r ∈ c, ∃ x y, r.Contains x y) ∧ c.Pairwise (· < ·) ∧ (∀ x y, c.coverage x y ≤ 1) ∧
        c.Pairwise fun r s =>
          ¬ ∃ t : Rect, ∀ x y, t.Contains x y ↔ r.Contains x y ∨ s.Contains x y := by
  have hpoints : (∀ r ∈ c, ∃ x y, r.Contains x y) ↔ c.Proper := by
    simp only [Proper, Rect.isEmpty_iff, not_forall, not_not]
  rw [hpoints, canonical_iff]
  refine and_congr_right fun hproper => ?_
  rw [← apart_iff_coverage hproper]
  have hmerge : c.Unmergeable ↔ c.Pairwise fun r s =>
      ¬ ∃ t : Rect, ∀ x y, t.Contains x y ↔ r.Contains x y ∨ s.Contains x y := by
    refine List.Pairwise.iff_of_mem fun {r s} hr hs => ?_
    rw [Rect.mergeable_iff_exists (hproper r hr) (hproper s hs)]
  rw [← hmerge]
  constructor
  · rintro ⟨hsorted, hapart, hunmergeable⟩
    exact ⟨(pairwise_lt_iff hproper hapart).mpr hsorted, hapart, hunmergeable⟩
  · rintro ⟨hstrict, hapart, hunmergeable⟩
    exact ⟨(pairwise_lt_iff hproper hapart).mp hstrict, hapart, hunmergeable⟩

/-- What is compared by bounds is a condition on points, for covers and for two rectangles. -/
theorem canonical_and_mergeable_by_points :
    (∀ c : Cover, c.Canonical ↔
      (∀ r ∈ c, ∃ x y, r.Contains x y) ∧ c.Pairwise (· < ·) ∧ (∀ x y, c.coverage x y ≤ 1) ∧
        c.Pairwise fun r s =>
          ¬ ∃ t : Rect, ∀ x y, t.Contains x y ↔ r.Contains x y ∨ s.Contains x y) ∧
      ∀ r s : Rect, ¬ r.IsEmpty → ¬ s.IsEmpty →
        (r.Mergeable s ↔
          ∀ x y, (r.hull s).Contains x y → r.Contains x y ∨ s.Contains x y) :=
  ⟨fun _ => canonical_iff_points, fun _ _ hr _ => Rect.mergeable_iff_contains_hull hr⟩

theorem canonical_and_mergeable_by_points_adjacent :
    ¬ Rect.IsEmpty ⟨0, 3, 0, 5⟩ ∧ ¬ Rect.IsEmpty ⟨0, 3, 6, maxBound⟩ ∧
      (Rect.Mergeable ⟨0, 3, 0, 5⟩ ⟨0, 3, 6, maxBound⟩ ↔
        ∀ x y, (Rect.hull ⟨0, 3, 0, 5⟩ ⟨0, 3, 6, maxBound⟩).Contains x y →
          Rect.Contains ⟨0, 3, 0, 5⟩ x y ∨ Rect.Contains ⟨0, 3, 6, maxBound⟩ x y) := by
  have hlower : ¬ Rect.IsEmpty ⟨0, 3, 0, 5⟩ := by decide
  have hupper : ¬ Rect.IsEmpty ⟨0, 3, 6, maxBound⟩ := by decide
  exact ⟨hlower, hupper, canonical_and_mergeable_by_points.2 _ _ hlower hupper⟩

end Cover

end Rectilinear
