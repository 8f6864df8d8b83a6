import Rectilinear.Proofs.CanonicalPoints

/-!
# Bounding boxes of many rectangles

The hull of a rectangle with the members of a cover, one after the other, is the least rectangle
that all of them lie inside, in whatever order they come.  Bounds count as they are given, also
those of a rectangle without points.  The hull is therefore the bounding box of the covered points
exactly if no empty rectangle reaches out of that box.
-/

namespace Rectilinear

namespace Rect

/-!
## Hulls as least upper bounds

A hull lies inside exactly those rectangles in which all its parts lie.  So it does not matter in
which order they are taken, nor which of them is the first.
-/

theorem Inside.antisymm {r s : Rect} (hrs : r.Inside s) (hsr : s.Inside r) : r = s := by
  simp only [Inside, ext_iff_bounds] at *
  omega

theorem hull_inside_iff {r s t : Rect} : (r.hull s).Inside t ↔ r.Inside t ∧ s.Inside t := by
  constructor
  · intro h
    exact ⟨(inside_hull_left r s).trans h, (inside_hull_right r s).trans h⟩
  · rintro ⟨hr, hs⟩
    exact hull_inside hr hs

theorem hull_eq_left_iff {r s : Rect} : r.hull s = r ↔ s.Inside r := by
  constructor
  · intro h
    have hinside := inside_hull_right r s
    rwa [h] at hinside
  · exact hull_of_inside

end Rect

namespace Cover

def hullFrom (r : Rect) (c : Cover) : Rect :=
  c.foldl Rect.hull r

/-- The smallest rectangle that contains the points of a cover. -/
structure IsBox (c : Cover) (box : Rect) : Prop where
  contains : ∀ x y, c.Contains x y → box.Contains x y
  inside : ∀ t : Rect, (∀ x y, c.Contains x y → t.Contains x y) → box.Inside t

section HullFrom

variable {r s t : Rect} {c d : Cover}

theorem hullFrom_inside_iff : (hullFrom r c).Inside t ↔ ∀ s ∈ r :: c, s.Inside t := by
  induction c generalizing r with
  | nil => simp [hullFrom]
  | cons s c ih =>
      have hrest : (hullFrom (r.hull s) c).Inside t ↔ ∀ u ∈ r.hull s :: c, u.Inside t := ih
      simp only [List.forall_mem_cons, Rect.hull_inside_iff, and_assoc] at hrest ⊢
      exact hrest

theorem inside_hullFrom (h : s ∈ r :: c) : s.Inside (hullFrom r c) :=
  hullFrom_inside_iff.mp (Rect.inside_refl _) s h

theorem hullFrom_inside_of_subset (h : ∀ t ∈ r :: c, t ∈ s :: d) :
    (hullFrom r c).Inside (hullFrom s d) := by
  rw [hullFrom_inside_iff]
  intro t ht
  exact inside_hullFrom (h t ht)

theorem hullFrom_eq_of_perm (h : (r :: c).Perm (s :: d)) : hullFrom s d = hullFrom r c := by
  apply Rect.Inside.antisymm
  · exact hullFrom_inside_of_subset fun t => h.mem_iff.mpr
  · exact hullFrom_inside_of_subset fun t => h.mem_iff.mp

theorem contains_hullFrom {x y : Int} (h : Contains (r :: c) x y) :
    (hullFrom r c).Contains x y := by
  rcases h with ⟨s, hs, hxy⟩
  exact (inside_hullFrom hs).contains hxy

end HullFrom

/-!
## The bounding box of the points

A rectangle that contains the points of a cover has the non-empty members of it inside, but not
necessarily the empty ones.
-/

theorem inside_of_forall_contains {c : Cover} {s t : Rect}
    (ht : ∀ x y, c.Contains x y → t.Contains x y) (hs : s ∈ c) (hproper : ¬ s.IsEmpty) :
    s.Inside t := by
  rw [Rect.inside_iff_contains hproper]
  intro x y hxy
  exact ht x y ⟨s, hs, hxy⟩

theorem exists_isBox {c : Cover} (h : ∃ s ∈ c, ¬ s.IsEmpty) : ∃ box, c.IsBox box := by
  rcases h with ⟨s, hs, hproper⟩
  have hmem : s ∈ c.nonempty := List.mem_filter.mpr ⟨hs, by simpa using hproper⟩
  cases hmembers : c.nonempty with
  | nil =>
      rw [hmembers] at hmem
      exact absurd hmem List.not_mem_nil
  | cons first rest =>
      refine ⟨hullFrom first rest, ?_, ?_⟩
      · intro x y hxy
        rw [← contains_nonempty, hmembers] at hxy
        exact contains_hullFrom hxy
      · intro t ht
        rw [hullFrom_inside_iff, ← hmembers]
        intro u hu
        exact inside_of_forall_contains ht (List.mem_filter.mp hu).1 (proper_nonempty c u hu)

theorem isBox_hullFrom_iff {r box : Rect} {c : Cover} (h : IsBox (r :: c) box) :
    IsBox (r :: c) (hullFrom r c) ↔ ∀ s ∈ r :: c, s.IsEmpty → s.Inside box := by
  constructor
  · intro hhull s hs _
    exact (inside_hullFrom hs).trans (hhull.inside box h.contains)
  · intro hempty
    have hinside : (hullFrom r c).Inside box := by
      rw [hullFrom_inside_iff]
      intro s hs
      by_cases hs' : s.IsEmpty
      · exact hempty s hs hs'
      · exact inside_of_forall_contains h.contains hs hs'
    refine ⟨fun x y hxy => contains_hullFrom hxy, ?_⟩
    intro t ht
    exact hinside.trans (h.inside t ht)

/-- The hull is the least rectangle that all of the rectangles lie inside, in any order.  If they
have a point, it is the bounding box of their points exactly if the empty ones lie inside that box.
-/
theorem hullFrom_is_bounding_box (r : Rect) (c : Cover) :
    (∀ t : Rect, (hullFrom r c).Inside t ↔ ∀ s ∈ r :: c, s.Inside t) ∧
    (∀ s d, (r :: c).Perm (s :: d) → hullFrom s d = hullFrom r c) ∧
    (∀ s : Rect, r.hull s = r ↔ s.Inside r) ∧
    (∀ x y, Contains (r :: c) x y → (hullFrom r c).Contains x y) ∧
    ((∃ s ∈ r :: c, ¬ s.IsEmpty) →
      ∃ box, IsBox (r :: c) box ∧
        (IsBox (r :: c) (hullFrom r c) ↔ ∀ s ∈ r :: c, s.IsEmpty → s.Inside box)) := by
  refine ⟨fun t => hullFrom_inside_iff, fun s d => hullFrom_eq_of_perm,
    fun s => Rect.hull_eq_left_iff, fun x y => contains_hullFrom, ?_⟩
  intro hproper
  rcases exists_isBox hproper with ⟨box, hbox⟩
  exact ⟨box, hbox, isBox_hullFrom_iff hbox⟩

theorem hullFrom_is_bounding_box_between :
    (∃ s ∈ [Rect.empty, ⟨-3, 4, 2, maxBound⟩, ⟨5, 6, -5, 6⟩], ¬ s.IsEmpty) ∧
      List.Perm [Rect.empty, ⟨-3, 4, 2, maxBound⟩, ⟨5, 6, -5, 6⟩]
        [⟨5, 6, -5, 6⟩, Rect.empty, ⟨-3, 4, 2, maxBound⟩] ∧
      hullFrom ⟨5, 6, -5, 6⟩ [Rect.empty, ⟨-3, 4, 2, maxBound⟩] = ⟨-3, 6, -5, maxBound⟩ ∧
      IsBox [Rect.empty, ⟨-3, 4, 2, maxBound⟩, ⟨5, 6, -5, 6⟩] ⟨-3, 6, -5, maxBound⟩ := by
  have hproper : ∃ s ∈ [Rect.empty, ⟨-3, 4, 2, maxBound⟩, ⟨5, 6, -5, 6⟩], ¬ s.IsEmpty := by decide
  have hperm : List.Perm [Rect.empty, ⟨-3, 4, 2, maxBound⟩, ⟨5, 6, -5, 6⟩]
      [⟨5, 6, -5, 6⟩, Rect.empty, ⟨-3, 4, 2, maxBound⟩] := by decide
  rcases hullFrom_is_bounding_box Rect.empty [⟨-3, 4, 2, maxBound⟩, ⟨5, 6, -5, 6⟩] with
    ⟨_, horder, _, _, hpoints⟩
  rcases hpoints hproper with ⟨box, hbox, hiff⟩
  have hcorner := hbox.contains (-3) 2 (by decide)
  have hcorner' := hbox.contains 6 (-5) (by decide)
  have hempty : Rect.empty.Inside box := by
    simp only [Rect.contains_iff, Rect.Inside, Rect.empty] at *
    omega
  refine ⟨hproper, hperm, horder _ _ hperm, hiff.mpr ?_⟩
  intro s hs hs'
  simp only [List.mem_cons, List.not_mem_nil, or_false] at hs
  rcases hs with rfl | rfl | rfl
  · exact hempty
  · exact absurd hs' (by decide)
  · exact absurd hs' (by decide)

theorem not_isBox_hullFrom_empty :
    hullFrom Rect.empty [⟨5, 6, 5, 6⟩] = ⟨0, 6, 0, 6⟩ ∧
      ¬ IsBox [Rect.empty, ⟨5, 6, 5, 6⟩] (hullFrom Rect.empty [⟨5, 6, 5, 6⟩]) ∧
      Rect.hull ⟨5, 6, 5, 6⟩ Rect.empty ≠ ⟨5, 6, 5, 6⟩ := by
  refine ⟨by decide, ?_, by decide⟩
  intro h
  have hpoints : ∀ x y, Contains [Rect.empty, ⟨5, 6, 5, 6⟩] x y →
      Rect.Contains ⟨5, 6, 5, 6⟩ x y := by
    intro x y hxy
    rcases (contains_cons _ _ _ _).mp hxy with hempty | hxy
    · exact absurd hempty (Rect.isEmpty_iff.mp (by decide) x y)
    · simpa using hxy
  exact absurd (h.inside _ hpoints) (by decide)

end Cover

end Rectilinear
