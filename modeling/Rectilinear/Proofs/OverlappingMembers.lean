import Rectilinear.Proofs.Adjoining
import Rectilinear.Proofs.Repeats

/-!
# Covers with overlapping members

Merging may leave members that overlap.  Where one of two overlapping members first takes in a third
one that borders on it, the other one need not fit the larger rectangle any more.  This cannot
happen where every member that overlaps another one is mergeable with all that it adjoins: the
normal form is then disjoint, in whatever order the members stand.
-/

namespace Rectilinear

namespace Cover

/-!
## The condition

A member that overlaps another one has to be mergeable with its surroundings.  Members that only
border on each other are free.
-/

/-- The rectangle is mergeable with every member that it adjoins. -/
def MergeableWithAdjoining (c : Cover) (r : Rect) : Prop :=
  ∀ s ∈ c, r.Adjoins s → r.Mergeable s

instance (c : Cover) (r : Rect) : Decidable (c.MergeableWithAdjoining r) :=
  inferInstanceAs (Decidable (∀ s ∈ c, r.Adjoins s → r.Mergeable s))

/-- A member that intersects a different one is mergeable with every member that it adjoins. -/
def OverlappingMergeable (c : Cover) : Prop :=
  ∀ r ∈ c, ∀ s ∈ c, r ≠ s → r.Intersects s → c.MergeableWithAdjoining r

instance (c : Cover) : Decidable c.OverlappingMergeable :=
  inferInstanceAs (Decidable (∀ r ∈ c, ∀ s ∈ c, r ≠ s → r.Intersects s →
    c.MergeableWithAdjoining r))

/-!
## What merges keep

The members of a cover grow together.  At every point, a rectangle that has grown still holds a
member of the cover that it grew from; and where two such rectangles overlap, these members are two
different ones.
-/

structure PartAt (c : Cover) (r : Rect) (x y : Int) (o : Rect) : Prop where
  mem : o ∈ c
  inside : o.Inside r
  contains : o.Contains x y

theorem PartAt.mono {c : Cover} {r s o : Rect} {x y : Int} (h : c.PartAt r x y o)
    (hrs : r.Inside s) : c.PartAt s x y o :=
  ⟨h.mem, h.inside.trans hrs, h.contains⟩

def Shares (c : Cover) (r s : Rect) : Prop :=
  ∀ x y, r.Contains x y → s.Contains x y →
    ∃ o o', o ≠ o' ∧ c.PartAt r x y o ∧ c.PartAt s x y o'

theorem Shares.symm {c : Cover} {r s : Rect} (h : c.Shares r s) : c.Shares s r := by
  intro x y hs hr
  rcases h x y hr hs with ⟨o, o', hne, ho, ho'⟩
  exact ⟨o', o, hne.symm, ho', ho⟩

theorem Shares.hull {c : Cover} {r s t : Rect} (hrs : r.Mergeable s) (hr : c.Shares r t)
    (hs : c.Shares s t) : c.Shares (r.hull s) t := by
  intro x y hxy ht
  rcases (hrs.contains_hull_iff x y).mp hxy with hxy | hxy
  · rcases hr x y hxy ht with ⟨o, o', hne, ho, ho'⟩
    exact ⟨o, o', hne, ho.mono (Rect.inside_hull_left r s), ho'⟩
  · rcases hs x y hxy ht with ⟨o, o', hne, ho, ho'⟩
    exact ⟨o, o', hne, ho.mono (Rect.inside_hull_right r s), ho'⟩

/-- The rectangles of `d` have grown from the members of `c`. -/
structure Grown (c d : Cover) : Prop where
  covered : ∀ r ∈ d, ∀ x y, r.Contains x y → ∃ o, c.PartAt r x y o
  fits : ∀ r ∈ d, ∀ o ∈ c, c.MergeableWithAdjoining o → o.Intersects r → o.Mergeable r
  shares : d.Pairwise c.Shares

theorem Grown.refl {c : Cover} (h : c.Nodup) : Grown c c := by
  constructor
  · intro r hr x y hxy
    exact ⟨r, hr, Rect.inside_refl r, hxy⟩
  · intro r hr o _ hadjoining hintersects
    exact hadjoining r hr hintersects.adjoins
  · refine List.Pairwise.imp_of_mem ?_ h
    intro r s hr hs hne x y hrxy hsxy
    exact ⟨r, s, hne, ⟨hr, Rect.inside_refl r, hrxy⟩, ⟨hs, Rect.inside_refl s, hsxy⟩⟩

theorem Grown.perm {c d e : Cover} (h : Grown c d) (hde : d.Perm e) : Grown c e := by
  constructor
  · intro r hr
    exact h.covered r (hde.mem_iff.mpr hr)
  · intro r hr
    exact h.fits r (hde.mem_iff.mpr hr)
  · exact hde.pairwise h.shares fun hrs => hrs.symm

theorem Grown.spans_of_adjoins {c d : Cover} (h : Grown c d) (hc : c.Proper) (hd : d.Proper)
    {r o : Rect} (hr : r ∈ d) (ho : o ∈ c) (hadjoining : c.MergeableWithAdjoining o)
    (hor : ¬ o.Intersects r) (hadjoins : o.Adjoins r) : o.ColumnsIn r ∨ o.RowsIn r := by
  rcases hadjoins.exists_contains (hc o ho) (hd r hr) with ⟨x, y, hxy, hnear⟩
  rcases h.covered r hr x y hxy with ⟨t, ht⟩
  have hot : ¬ o.Intersects t := fun hintersects => hor (hintersects.mono ht.inside)
  have hsides := ht.inside
  have hproper := Rect.not_isEmpty_iff.mp (hc o ho)
  have hproper' := Rect.not_isEmpty_iff.mp (hc t ht.mem)
  rcases hadjoining t ht.mem (hnear t ht.contains) with hinside | hinside | ⟨hleft, hright, _⟩ |
      ⟨hbottom, htop, _⟩
  · simp only [Rect.Inside, Rect.Intersects] at hinside hot
    omega
  · simp only [Rect.Inside, Rect.Intersects] at hinside hot
    omega
  · left
    simp only [Rect.Inside, Rect.ColumnsIn] at *
    omega
  · right
    simp only [Rect.Inside, Rect.RowsIn] at *
    omega

theorem Grown.mergeable_hull {c d : Cover} (h : Grown c d) (hc : c.Proper) (hd : d.Proper)
    {r s o : Rect} (hr : r ∈ d) (hs : s ∈ d) (hrs : r.Mergeable s) (ho : o ∈ c)
    (hadjoining : c.MergeableWithAdjoining o) (hintersects : o.Intersects (r.hull s)) :
    o.Mergeable (r.hull s) := by
  by_cases hor : o.Intersects r
  · have hr' := h.fits r hr o ho hadjoining hor
    by_cases hos : o.Intersects s
    · exact hr'.hull_of_intersects (h.fits s hs o ho hadjoining hos) hor hos
    · exact hrs.hull_of_not_intersects hr' hor hos (h.spans_of_adjoins hc hd hs ho hadjoining hos)
  · have hos : o.Intersects s := by
      by_contra hos
      exact hrs.not_intersects_hull (hd r hr) (hd s hs) (hc o ho) (fun hro => hor hro.symm)
        (fun hso => hos hso.symm) hintersects.symm
    rw [Rect.hull_comm]
    exact hrs.symm.hull_of_not_intersects (h.fits s hs o ho hadjoining hos) hos hor
      (h.spans_of_adjoins hc hd hr ho hadjoining hor)

theorem Grown.hull {c d : Cover} {r s : Rect} (h : Grown c (r :: s :: d)) (hc : c.Proper)
    (hd : Proper (r :: s :: d)) (hrs : r.Mergeable s) : Grown c (r.hull s :: d) := by
  have hr : r ∈ r :: s :: d := by simp
  have hs : s ∈ r :: s :: d := by simp
  constructor
  · intro t ht x y hxy
    rcases List.mem_cons.mp ht with rfl | ht
    · rcases (hrs.contains_hull_iff x y).mp hxy with hxy | hxy
      · rcases h.covered r hr x y hxy with ⟨o, ho⟩
        exact ⟨o, ho.mono (Rect.inside_hull_left r s)⟩
      · rcases h.covered s hs x y hxy with ⟨o, ho⟩
        exact ⟨o, ho.mono (Rect.inside_hull_right r s)⟩
    · exact h.covered t (by simp [ht]) x y hxy
  · intro t ht o ho hadjoining hintersects
    rcases List.mem_cons.mp ht with rfl | ht
    · exact h.mergeable_hull hc hd hr hs hrs ho hadjoining hintersects
    · exact h.fits t (by simp [ht]) o ho hadjoining hintersects
  · rcases List.pairwise_cons.mp h.shares with ⟨hrd, hrest⟩
    rcases List.pairwise_cons.mp hrest with ⟨hsd, hdd⟩
    refine List.pairwise_cons.mpr ⟨?_, hdd⟩
    intro t ht
    exact .hull hrs (hrd t (by simp [ht])) (hsd t ht)

theorem Merges.grown {c d e : Cover} (h : Merges d e) (hc : c.Proper) (hd : d.Proper)
    (hgrown : Grown c d) : Grown c e := by
  induction h with
  | perm hde => exact hgrown.perm hde
  | hull d hrs => exact hgrown.hull hc hd hrs
  | trans hde _ ihde ihef => exact ihef (hde.proper hd) (ihde hd hgrown)

/-!
## Disjoint normal forms

Grown rectangles do not cross: the different members that they hold at the crossing would have the
same columns and the same rows.  Those that overlap are therefore mergeable, which no two are in a
normal form.
-/

theorem Grown.not_crossing {c d : Cover} (h : Grown c d) (hoverlapping : c.OverlappingMergeable)
    {r s : Rect} (hr : r ∈ d) (hs : s ∈ d) (hshares : c.Shares r s) {x x' y y' : Int} :
    ¬ Rect.Crossing r s x x' y y' := by
  intro hcross
  rcases hshares x y hcross.contains.1 hcross.contains.2 with ⟨o, o', hne, ho, ho'⟩
  have hintersects : o.Intersects o' := ho.contains.intersects ho'.contains
  have hadjoining : c.MergeableWithAdjoining o :=
    hoverlapping o ho.mem o' ho'.mem hne hintersects
  have hadjoining' : c.MergeableWithAdjoining o' :=
    hoverlapping o' ho'.mem o ho.mem hne.symm hintersects.symm
  have hos := h.fits s hs o ho.mem hadjoining (ho.contains.intersects hcross.contains.2)
  have hor' := h.fits r hr o' ho'.mem hadjoining' (ho'.contains.intersects hcross.contains.1)
  -- members that `r` has taken in beyond the columns of `s`, and `s` beyond the rows of `r`
  rcases h.covered r hr x' y ⟨hcross.column.1, hcross.contains.1.2⟩ with ⟨t, ht⟩
  rcases h.covered s hs x y' ⟨hcross.contains.2.1, hcross.row.1⟩ with ⟨u, hu⟩
  have hts : t.Contains x y → t.Mergeable s := by
    intro hxy
    have hne' : t ≠ o' := by
      rintro rfl
      exact hcross.column.2 (ho'.inside.contains ht.contains).1
    have hadjoiningt := hoverlapping t ht.mem o' ho'.mem hne' (hxy.intersects ho'.contains)
    exact h.fits s hs t ht.mem hadjoiningt (hxy.intersects hcross.contains.2)
  have hur : u.Contains x y → u.Mergeable r := by
    intro hxy
    have hne' : u ≠ o := by
      rintro rfl
      exact hcross.row.2 (ho.inside.contains hu.contains).2
    have hadjoiningu := hoverlapping u hu.mem o ho.mem hne' (hxy.intersects ho.contains)
    exact h.fits r hr u hu.mem hadjoiningu (hxy.intersects hcross.contains.1)
  have hrows := hcross.same_rows ho.inside ho'.inside ht.inside ho.contains ho'.contains
    ht.contains hos hts (hadjoining t ht.mem) (hadjoining' t ht.mem)
  have hcolumns := hcross.same_columns ho.inside ho'.inside hu.inside ho.contains ho'.contains
    hu.contains hor' hur (hadjoining u hu.mem) (hadjoining' u hu.mem)
  exact hne (Rect.ext_iff_bounds.mpr ⟨hcolumns.1, hcolumns.2, hrows.1, hrows.2⟩)

theorem Grown.mergeable_of_intersects {c d : Cover} (h : Grown c d)
    (hoverlapping : c.OverlappingMergeable) (hd : d.Proper) {r s : Rect} (hr : r ∈ d) (hs : s ∈ d)
    (hshares : c.Shares r s) (hintersects : r.Intersects s) : r.Mergeable s := by
  rw [hintersects.mergeable_iff]
  constructor
  · by_contra hnot
    rw [not_or] at hnot
    rcases Rect.exists_crossing (hd s hs) (hd r hr) hintersects.symm hnot.1 hnot.2 with
      ⟨x, x', y, y', hcross⟩
    exact h.not_crossing hoverlapping hs hr hshares.symm hcross
  · by_contra hnot
    rw [not_or] at hnot
    rcases Rect.exists_crossing (hd r hr) (hd s hs) hintersects hnot.2 hnot.1 with
      ⟨x, x', y, y', hcross⟩
    exact h.not_crossing hoverlapping hr hs hshares hcross

theorem apart_normalize_of_nodup {c : Cover} (hnodup : c.Nodup) (hproper : c.Proper)
    (hoverlapping : c.OverlappingMergeable) : c.normalize.Apart := by
  have hmerges : Merges c c.normalize := by
    have hmerges := merges_normalize c
    rwa [hproper.nonempty_eq] at hmerges
  have hgrown : Grown c c.normalize := hmerges.grown hproper hproper (Grown.refl hnodup)
  have hunmergeable := unmergeable_normalize c
  refine (hgrown.shares.and hunmergeable).imp_of_mem ?_
  rintro r s hr hs ⟨hshares, hnot⟩ hintersects
  exact hnot (hgrown.mergeable_of_intersects hoverlapping (proper_normalize c) hr hs hshares
    hintersects)

/-- The normal form is canonical where every member that intersects a different one is mergeable
with all that it adjoins, however the members are ordered or repeated.  The condition is sufficient
only: a cover that does not meet it may still have a canonical normal form, in some of its orders or
in all of them. -/
theorem canonical_normalize_of_overlappingMergeable {c : Cover}
    (h : c.nonempty.OverlappingMergeable) : c.normalize.Canonical := by
  rcases exists_nodup_normalize_eq c.nonempty with ⟨d, hnodup, hmem, hnormalize⟩
  have hproper : d.Proper := by
    intro r hr
    exact proper_nonempty c r ((hmem r).mp hr)
  have hoverlapping : d.OverlappingMergeable := by
    intro r hr s hs hne hintersects t ht
    exact h r ((hmem r).mp hr) s ((hmem s).mp hs) hne hintersects t ((hmem t).mp ht)
  have hapart := apart_normalize_of_nodup hnodup hproper hoverlapping
  rw [hnormalize, normalize_nonempty] at hapart
  exact canonical_iff.mpr
    ⟨proper_normalize c, pairwise_sorted _, hapart, unmergeable_normalize c⟩

theorem canonical_normalize_of_overlappingMergeable_stacked :
    OverlappingMergeable (nonempty [⟨0, 3, 4, maxBound⟩, ⟨1, 2, 1, 2⟩, ⟨0, 3, -3, -1⟩,
        ⟨10, 12, 0, 5⟩, ⟨0, 3, 0, 5⟩, ⟨9, 1, 0, 5⟩, ⟨13, 15, 0, 9⟩, ⟨0, 3, 0, 5⟩]) ∧
      Canonical (normalize [⟨0, 3, 4, maxBound⟩, ⟨1, 2, 1, 2⟩, ⟨0, 3, -3, -1⟩, ⟨10, 12, 0, 5⟩,
        ⟨0, 3, 0, 5⟩, ⟨9, 1, 0, 5⟩, ⟨13, 15, 0, 9⟩, ⟨0, 3, 0, 5⟩]) := by
  have hoverlapping : OverlappingMergeable (nonempty [⟨0, 3, 4, maxBound⟩, ⟨1, 2, 1, 2⟩,
      ⟨0, 3, -3, -1⟩, ⟨10, 12, 0, 5⟩, ⟨0, 3, 0, 5⟩, ⟨9, 1, 0, 5⟩, ⟨13, 15, 0, 9⟩,
      ⟨0, 3, 0, 5⟩]) := by
    decide
  exact ⟨hoverlapping, canonical_normalize_of_overlappingMergeable hoverlapping⟩

/-- The overlapping members come first here, and merge before the one that only borders on them. -/
example : ¬ OverlappingMergeable [⟨3, 3, 0, 1⟩, ⟨3, 3, 1, 2⟩, ⟨4, 4, 0, 1⟩] ∧
    normalize [⟨3, 3, 0, 1⟩, ⟨3, 3, 1, 2⟩, ⟨4, 4, 0, 1⟩] = [⟨3, 3, 0, 2⟩, ⟨4, 4, 0, 1⟩] :=
  ⟨by decide, by cbv⟩

/-!
## Overlapping normal forms

It is not enough that overlapping members are nested or have equal sides.
-/

theorem not_apart_normalize {r s t : Rect} (hr : ¬ r.IsEmpty) (hs : ¬ s.IsEmpty)
    (ht : ¬ t.IsEmpty) (hrs : r.Mergeable s) (hintersects : (r.hull s).Intersects t)
    (hnot : ¬ (r.hull s).Mergeable t) : ¬ (normalize [r, s, t]).Apart := by
  have hproper : Proper [r, s, t] := by simp [Proper, hr, hs, ht]
  have hunmergeable : Unmergeable [r.hull s, t] := by simp [Unmergeable, hnot]
  have hpass : mergePass [r, s, t] = [r.hull s, t] := by
    rw [mergePass, absorb_cons hrs, absorb_of_forall (by simpa using hnot),
      mergePass_of_unmergeable (List.pairwise_singleton _ _)]
  have hmerged : (mergeAll [r, s, t]).cover = [r.hull s, t] := by
    rw [← cover_mergeAll_mergePass, hpass, mergeAll_of_unmergeable hunmergeable]
  have hnormalize : normalize [r, s, t] = sorted [r.hull s, t] := by
    simp only [normalize, normalization, hproper.nonempty_eq, hmerged]
  rw [hnormalize]
  intro hapart
  have hpair : Apart [r.hull s, t] := hapart.perm (perm_sorted _)
  exact (List.pairwise_cons.mp hpair).1 t (by simp) hintersects

theorem not_canonical_normalize_bordered :
    (∀ r ∈ ([⟨4, 4, 0, 1⟩, ⟨3, 3, 0, 1⟩, ⟨3, 3, 1, 2⟩] : Cover),
        ∀ s ∈ ([⟨4, 4, 0, 1⟩, ⟨3, 3, 0, 1⟩, ⟨3, 3, 1, 2⟩] : Cover), r.Intersects s →
          r.Inside s ∨ s.Inside r ∨ (r.left = s.left ∧ r.right = s.right) ∨
            (r.bottom = s.bottom ∧ r.top = s.top)) ∧
      ¬ Canonical (normalize [⟨4, 4, 0, 1⟩, ⟨3, 3, 0, 1⟩, ⟨3, 3, 1, 2⟩]) := by
  refine ⟨by decide, fun hcanonical => ?_⟩
  exact not_apart_normalize (by decide) (by decide) (by decide) (by decide) (by decide)
    (by decide) hcanonical.apart

end Cover

end Rectilinear
