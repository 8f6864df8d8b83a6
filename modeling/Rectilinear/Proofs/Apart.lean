import Mathlib.Data.List.Pairwise
import Mathlib.Data.List.Perm.Subperm
import Mathlib.Tactic.Tauto
import Rectilinear.Cover.Canonical

/-!
# Disjoint covers

The members of a canonical cover are proper, that is non-empty, and apart, that is pairwise
disjoint.  Disjointness is a condition on bounds; for proper members it says that no point lies in
two of them, so that a point is covered at most once.
-/

namespace Rectilinear

namespace Rect

/-!
## Common points

Proper rectangles intersect exactly when they have a point in common.
-/

theorem intersects_iff_exists {r s : Rect} (hr : ¬ r.IsEmpty) (hs : ¬ s.IsEmpty) :
    r.Intersects s ↔ ∃ x y, r.Contains x y ∧ s.Contains x y := by
  rw [not_isEmpty_iff] at hr hs
  constructor
  · intro h
    refine ⟨max r.left s.left, max r.bottom s.bottom, ?_, ?_⟩
    · simp only [contains_iff, Intersects] at *
      omega
    · simp only [contains_iff, Intersects] at *
      omega
  · rintro ⟨x, y, hrxy, hsxy⟩
    simp only [contains_iff, Intersects] at *
    omega

theorem Contains.intersects {r s : Rect} {x y : Int} (hr : r.Contains x y)
    (hs : s.Contains x y) : r.Intersects s := by
  simp only [contains_iff, Intersects] at *
  omega

theorem Contains.not_isEmpty {r : Rect} {x y : Int} (h : r.Contains x y) : ¬ r.IsEmpty := by
  intro hempty
  exact isEmpty_iff.mp hempty x y h

theorem contains_corners {r : Rect} (h : ¬ r.IsEmpty) :
    r.Contains r.left r.bottom ∧ r.Contains r.right r.top := by
  rw [not_isEmpty_iff] at h
  simp only [contains_iff]
  omega

/-!
## Nested rectangles and bounding boxes

A bounding box is the least rectangle in which both rectangles lie.  That of mergeable rectangles is
disjoint from what both are disjoint from, as it has no further points.
-/

theorem inside_refl (r : Rect) : r.Inside r := by
  simp [Inside]

theorem Inside.trans {r s t : Rect} (hrs : r.Inside s) (hst : s.Inside t) : r.Inside t := by
  simp only [Inside] at *
  omega

theorem Inside.contains {r s : Rect} (h : r.Inside s) {x y : Int} (hxy : r.Contains x y) :
    s.Contains x y := by
  simp only [Inside, contains_iff] at *
  omega

theorem Intersects.mono {r s t : Rect} (h : t.Intersects r) (hrs : r.Inside s) :
    t.Intersects s := by
  simp only [Intersects, Inside] at *
  omega

theorem inside_hull_left (r s : Rect) : r.Inside (r.hull s) := by
  simp only [Inside, hull]
  omega

theorem inside_hull_right (r s : Rect) : s.Inside (r.hull s) := by
  simp only [Inside, hull]
  omega

theorem hull_inside {r s t : Rect} (hr : r.Inside t) (hs : s.Inside t) : (r.hull s).Inside t := by
  simp only [Inside, hull] at *
  omega

theorem hull_of_inside {r s : Rect} (h : s.Inside r) : r.hull s = r := by
  simp only [Inside, hull, ext_iff_bounds] at *
  omega

theorem hull_comm (r s : Rect) : r.hull s = s.hull r := by
  simp only [hull, Int.min_comm r.left, Int.max_comm r.right, Int.min_comm r.bottom,
    Int.max_comm r.top]

theorem clipWith_comm (steps : Steps Id) (r s : Rect) :
    r.clipWith steps s = s.clipWith steps r := by
  simp only [clipWith_eq, Int.max_comm r.left, Int.min_comm r.right, Int.max_comm r.bottom,
    Int.min_comm r.top]

theorem inRange_hull {r s : Rect} (hr : r.InRange) (hs : s.InRange) : (r.hull s).InRange := by
  simp only [InRange, Rectilinear.InRange, hull] at *
  omega

theorem Mergeable.not_intersects_hull {r s t : Rect} (h : r.Mergeable s) (hr : ¬ r.IsEmpty)
    (hs : ¬ s.IsEmpty) (ht : ¬ t.IsEmpty) (hrt : ¬ r.Intersects t) (hst : ¬ s.Intersects t) :
    ¬ (r.hull s).Intersects t := by
  rw [intersects_iff_exists (not_isEmpty_hull hr s) ht]
  rw [intersects_iff_exists hr ht] at hrt
  rw [intersects_iff_exists hs ht] at hst
  rintro ⟨x, y, hxy, htxy⟩
  rcases (h.contains_hull_iff x y).mp hxy with hrxy | hsxy
  · exact hrt ⟨x, y, hrxy, htxy⟩
  · exact hst ⟨x, y, hsxy, htxy⟩

/-!
## Exchanged axes

What holds of columns holds of rows, in the rectangle with its axes exchanged.
-/

def transpose (r : Rect) : Rect :=
  ⟨r.bottom, r.top, r.left, r.right⟩

theorem contains_transpose {r : Rect} {x y : Int} :
    r.transpose.Contains x y ↔ r.Contains y x := by
  simp only [transpose, contains_iff]
  omega

theorem isEmpty_transpose {r : Rect} : r.transpose.IsEmpty ↔ r.IsEmpty := by
  simp only [transpose, IsEmpty]
  omega

theorem inRange_transpose {r : Rect} : r.transpose.InRange ↔ r.InRange := by
  simp only [transpose, InRange]
  tauto

theorem intersects_transpose {r s : Rect} :
    r.transpose.Intersects s.transpose ↔ r.Intersects s := by
  simp only [transpose, Intersects]
  omega

theorem inside_transpose {r s : Rect} : r.transpose.Inside s.transpose ↔ r.Inside s := by
  simp only [Inside, transpose]
  tauto

theorem mergeable_transpose {r s : Rect} : r.transpose.Mergeable s.transpose ↔ r.Mergeable s := by
  simp only [Mergeable, inside_transpose]
  simp only [transpose]
  tauto

end Rect

namespace Cover

/-!
## Proper and disjoint members

A cover is proper if all its members are non-empty, apart if no two of them intersect, and
unmergeable if no two are mergeable.  None of this depends on the order of the members.  Order
itself need only be compared between neighbours, since it is transitive.
-/

def Proper (c : Cover) : Prop :=
  ∀ r ∈ c, ¬ r.IsEmpty

def Apart (c : Cover) : Prop :=
  c.Pairwise fun r s => ¬ r.Intersects s

def Unmergeable (c : Cover) : Prop :=
  c.Pairwise fun r s => ¬ r.Mergeable s

/-- The members split a set of points into rectangles. -/
structure Partitions (c : Cover) (points : Int → Int → Prop) : Prop where
  proper : c.Proper
  inRange : c.InRange
  apart : c.Apart
  contains_iff : ∀ x y, c.Contains x y ↔ points x y

theorem Partitions.congr {c : Cover} {points points' : Int → Int → Prop}
    (h : c.Partitions points) (hpoints : ∀ x y, points x y ↔ points' x y) :
    c.Partitions points' :=
  ⟨h.proper, h.inRange, h.apart, fun x y => (h.contains_iff x y).trans (hpoints x y)⟩

theorem Partitions.eq_nil {c : Cover} {points : Int → Int → Prop} (h : c.Partitions points)
    (hnone : ∀ x y, ¬ points x y) : c = [] := by
  rw [List.eq_nil_iff_forall_not_mem]
  intro r hr
  have hcorner := (Rect.contains_corners (h.proper r hr)).1
  exact hnone r.left r.bottom ((h.contains_iff _ _).mp ⟨r, hr, hcorner⟩)

theorem Partitions.map_transpose {c : Cover} {points : Int → Int → Prop}
    (h : c.Partitions points) : Partitions (c.map Rect.transpose) fun x y => points y x := by
  constructor
  · intro r hr
    rcases List.mem_map.mp hr with ⟨s, hs, rfl⟩
    rw [Rect.isEmpty_transpose]
    exact h.proper s hs
  · intro r hr
    rcases List.mem_map.mp hr with ⟨s, hs, rfl⟩
    exact Rect.inRange_transpose.mpr (h.inRange s hs)
  · refine List.pairwise_map.mpr (List.Pairwise.imp ?_ h.apart)
    intro r s hrs hintersects
    exact hrs (Rect.intersects_transpose.mp hintersects)
  · intro x y
    rw [← h.contains_iff]
    simp only [Contains, List.mem_map, exists_exists_and_eq_and, Rect.contains_transpose]

theorem apart_ite (p : Prop) [Decidable p] (r : Rect) : Apart (if p then [r] else []) := by
  split
  · exact List.pairwise_singleton _ _
  · exact List.Pairwise.nil

theorem pairwise_le_iff {c : Cover} :
    c.Pairwise (· ≤ ·) ↔ ∀ neighbours ∈ c.zip c.tail, neighbours.1 ≤ neighbours.2 := by
  induction c with
  | nil => simp
  | cons r c ih =>
      cases c with
      | nil => simp
      | cons s c =>
          have hfirst : (∀ neighbours ∈ (r :: s :: c).zip (r :: s :: c).tail,
              neighbours.1 ≤ neighbours.2) ↔ r ≤ s ∧
              ∀ neighbours ∈ (s :: c).zip (s :: c).tail, neighbours.1 ≤ neighbours.2 :=
            List.forall_mem_cons
          rw [List.pairwise_cons, hfirst, ← ih]
          refine and_congr_left fun hrest => ⟨fun h => h s (by simp), fun hrs => ?_⟩
          have hle := (List.pairwise_cons.mp hrest).1
          exact List.forall_mem_cons.mpr ⟨hrs, fun t ht => Rect.le_trans hrs (hle t ht)⟩

theorem canonical_iff {c : Cover} :
    c.Canonical ↔ c.Proper ∧ c.Pairwise (· ≤ ·) ∧ c.Apart ∧ c.Unmergeable := by
  simp only [Canonical, Proper, Apart, Unmergeable, List.pairwise_and_iff, pairwise_le_iff]

theorem Canonical.proper {c : Cover} (h : c.Canonical) : c.Proper :=
  (canonical_iff.mp h).1

theorem Canonical.apart {c : Cover} (h : c.Canonical) : c.Apart :=
  (canonical_iff.mp h).2.2.1

theorem Canonical.unmergeable {c : Cover} (h : c.Canonical) : c.Unmergeable :=
  (canonical_iff.mp h).2.2.2

theorem proper_nil : Proper [] :=
  canonical_nil.proper

theorem proper_singleton {r : Rect} (h : ¬ r.IsEmpty) : Proper [r] :=
  (canonical_singleton h).proper

theorem proper_plane : Proper [Rect.plane] :=
  proper_singleton (by decide)

theorem proper_nonempty (c : Cover) : c.nonempty.Proper := by
  intro r hr
  simpa using (List.mem_filter.mp hr).2

theorem Proper.nonempty_eq {c : Cover} (h : c.Proper) : c.nonempty = c := by
  rw [nonempty, List.filter_eq_self]
  intro r hr
  simpa using h r hr

theorem inRange_nonempty {c : Cover} (h : c.InRange) : c.nonempty.InRange := by
  intro r hr
  exact h r (List.mem_filter.mp hr).1

theorem Proper.perm {c d : Cover} (h : c.Proper) (hcd : c.Perm d) : d.Proper := by
  intro r hr
  exact h r (hcd.mem_iff.mpr hr)

theorem Apart.perm {c d : Cover} (h : c.Apart) (hcd : c.Perm d) : d.Apart :=
  hcd.pairwise h fun hrs hsr => hrs hsr.symm

theorem Unmergeable.perm {c d : Cover} (h : c.Unmergeable) (hcd : c.Perm d) : d.Unmergeable :=
  hcd.pairwise h fun hrs hsr => hrs hsr.symm

theorem contains_perm {c d : Cover} (hcd : c.Perm d) (x y : Int) :
    c.Contains x y ↔ d.Contains x y := by
  simp only [Contains, hcd.mem_iff]

theorem Partitions.perm {c d : Cover} {points : Int → Int → Prop} (h : c.Partitions points)
    (hcd : c.Perm d) : d.Partitions points := by
  refine ⟨h.proper.perm hcd, ?_, h.apart.perm hcd, ?_⟩
  · intro r hr
    exact h.inRange r (hcd.mem_iff.mpr hr)
  · intro x y
    exact (contains_perm hcd x y).symm.trans (h.contains_iff x y)

/-!
## Points

A point is in at most one of disjoint members, which therefore do not repeat.
-/

theorem coverage_nonempty (c : Cover) (x y : Int) : c.nonempty.coverage x y = c.coverage x y := by
  simp only [coverage, nonempty, List.countP_filter]
  apply List.countP_congr
  intro r _
  simp only [Bool.and_eq_true, decide_eq_true_eq, and_iff_left_iff_imp]
  exact Rect.Contains.not_isEmpty

theorem Apart.coverage_le_one {c : Cover} (h : c.Apart) (x y : Int) : c.coverage x y ≤ 1 := by
  induction c with
  | nil => simp [coverage]
  | cons r c ih =>
      rcases List.pairwise_cons.mp h with ⟨hr, hc⟩
      have ihc : coverage c x y ≤ 1 := ih hc
      simp only [coverage, List.countP_cons] at *
      by_cases hxy : r.Contains x y
      · have hnone : c.countP (fun s => s.Contains x y) = 0 := by
          rw [List.countP_eq_zero]
          intro s hs hsxy
          simp only [decide_eq_true_eq] at hsxy
          exact hr s hs (hxy.intersects hsxy)
        simp [hnone, hxy]
      · simpa [hxy] using ihc

theorem Apart.nodup {c : Cover} (h : c.Apart) (hproper : c.Proper) : c.Nodup := by
  refine List.Pairwise.imp_of_mem ?_ h
  intro r s hr _ hrs heq
  subst heq
  have hcorner := (Rect.contains_corners (hproper r hr)).1
  exact hrs (hcorner.intersects hcorner)

theorem Apart.not_intersects {c : Cover} (h : c.Apart) {r s : Rect} (hr : r ∈ c) (hs : s ∈ c)
    (hne : r ≠ s) : ¬ r.Intersects s := by
  have : Std.Symm fun r s : Rect => ¬ r.Intersects s := ⟨fun _ _ hrs hsr => hrs hsr.symm⟩
  exact List.Pairwise.forall h hr hs hne

theorem Apart.eq_of_contains {c : Cover} (h : c.Apart) {r s : Rect} (hr : r ∈ c) (hs : s ∈ c)
    {x y : Int} (hrxy : r.Contains x y) (hsxy : s.Contains x y) : r = s := by
  by_contra hne
  exact h.not_intersects hr hs hne (hrxy.intersects hsxy)

theorem Unmergeable.not_mergeable {c : Cover} (h : c.Unmergeable) {r s : Rect} (hr : r ∈ c)
    (hs : s ∈ c) (hne : r ≠ s) : ¬ r.Mergeable s := by
  have : Std.Symm fun r s : Rect => ¬ r.Mergeable s := ⟨fun _ _ hrs hsr => hrs hsr.symm⟩
  exact List.Pairwise.forall h hr hs hne

/-- Two partitions of the same points are equal up to order once one holds the members of the other:
nothing is left for a further member to cover. -/
theorem Partitions.perm_of_subset {c d : Cover} {points : Int → Int → Prop}
    (hc : c.Partitions points) (hd : d.Partitions points) (hsub : ∀ r ∈ c, r ∈ d) : c.Perm d := by
  have hcnodup := hc.apart.nodup hc.proper
  have hdnodup := hd.apart.nodup hd.proper
  refine (List.perm_ext_iff_of_nodup hcnodup hdnodup).mpr ?_
  intro r
  constructor
  · exact hsub r
  · intro hr
    have hcorner := (Rect.contains_corners (hd.proper r hr)).1
    have hpoint := (hd.contains_iff _ _).mp ⟨r, hr, hcorner⟩
    rcases (hc.contains_iff _ _).mpr hpoint with ⟨s, hs, hscorner⟩
    rw [hd.apart.eq_of_contains hr (hsub s hs) hcorner hscorner]
    exact hs

theorem sorted_eq_of_perm {c d : Cover} (hcd : c.Perm d) : c.sorted = d.sorted := by
  have hperm : c.sorted.Perm d.sorted :=
    (perm_sorted c).trans (hcd.trans (perm_sorted d).symm)
  refine hperm.eq_of_pairwise ?_ (pairwise_sorted c) (pairwise_sorted d)
  intro r s _ _ hrs hsr
  exact Rect.le_antisymm hrs hsr

end Cover

end Rectilinear
