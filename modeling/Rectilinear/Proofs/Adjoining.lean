import Rectilinear.Proofs.Apart

/-!
# Adjoining rectangles

Rectangles that overlap are mergeable if the one that reaches further on an axis spans the other one
on the other axis.  In this form the condition passes to bounding boxes, and where it fails the two
rectangles cross.
-/

namespace Rectilinear

namespace Rect

/-!
## Common edges

Two rectangles adjoin if they overlap or share a part of an edge.  Then some point of the one is so
close to the other that whatever contains it adjoins the other too.  A rectangle that reaches beyond
another one does so from a column of it to the next one.
-/
def Adjoins (r s : Rect) : Prop :=
  Touch r.left r.right s.left s.right ∧ r.bottom ≤ s.top ∧ s.bottom ≤ r.top ∨
    Touch r.bottom r.top s.bottom s.top ∧ r.left ≤ s.right ∧ s.left ≤ r.right

instance (r s : Rect) : Decidable (r.Adjoins s) :=
  inferInstanceAs (Decidable (_ ∨ _))

def ColumnsIn (r s : Rect) : Prop :=
  s.left ≤ r.left ∧ r.right ≤ s.right

def RowsIn (r s : Rect) : Prop :=
  s.bottom ≤ r.bottom ∧ r.top ≤ s.top

theorem inside_iff {r s : Rect} : r.Inside s ↔ r.ColumnsIn s ∧ r.RowsIn s := by
  simp only [Inside, ColumnsIn, RowsIn]
  omega

theorem adjoins_transpose {r s : Rect} : r.transpose.Adjoins s.transpose ↔ r.Adjoins s := by
  simp only [Adjoins, transpose]
  tauto

theorem Intersects.adjoins {r s : Rect} (h : r.Intersects s) : r.Adjoins s := by
  simp only [Intersects, Adjoins, Touch] at *
  omega

theorem adjoins_of_next_column {r s : Rect} {x x' y : Int} (hx : x' = x + 1 ∨ x = x' + 1)
    (hr : r.Contains x y) (hs : s.Contains x' y) : r.Adjoins s := by
  simp only [contains_iff, Adjoins, Touch] at *
  omega

theorem Adjoins.exists_contains {r s : Rect} (h : r.Adjoins s) (hr : ¬ r.IsEmpty)
    (hs : ¬ s.IsEmpty) :
    ∃ x y, s.Contains x y ∧ ∀ t : Rect, t.Contains x y → r.Adjoins t := by
  rw [not_isEmpty_iff] at hr hs
  refine ⟨max s.left (min s.right r.left), max s.bottom (min s.top r.bottom), ?_, ?_⟩
  · rw [contains_iff]
    omega
  · intro t ht
    rw [contains_iff] at ht
    simp only [Adjoins, Touch] at *
    omega

theorem exists_next_column {r s : Rect} (hs : ¬ s.IsEmpty) (hrs : r.Intersects s)
    (h : ¬ r.ColumnsIn s) :
    ∃ x x', (x' = x + 1 ∨ x = x' + 1) ∧ r.ContainsX x ∧ s.ContainsX x ∧ r.ContainsX x' ∧
      ¬ s.ContainsX x' := by
  rw [not_isEmpty_iff] at hs
  simp only [Intersects, ColumnsIn, ContainsX] at *
  by_cases hleft : r.left < s.left
  · exact ⟨s.left, s.left - 1, by omega⟩
  · exact ⟨s.right, s.right + 1, by omega⟩

theorem exists_next_row {r s : Rect} (hs : ¬ s.IsEmpty) (hrs : r.Intersects s)
    (h : ¬ r.RowsIn s) :
    ∃ y y', (y' = y + 1 ∨ y = y' + 1) ∧ r.ContainsY y ∧ s.ContainsY y ∧ r.ContainsY y' ∧
      ¬ s.ContainsY y' := by
  rw [← isEmpty_transpose] at hs
  exact exists_next_column hs (intersects_transpose.mpr hrs) h

/-!
## Mergeable overlaps

On each axis, the rectangle that reaches further has to span the other one on the other axis.  What
is mergeable with two rectangles that it overlaps is mergeable with their bounding box; if it
overlaps only one of them, it must not adjoin the other one without spanning it.
-/

theorem Intersects.mergeable_iff {r s : Rect} (h : r.Intersects s) :
    r.Mergeable s ↔ (s.ColumnsIn r ∨ r.RowsIn s) ∧ (s.RowsIn r ∨ r.ColumnsIn s) := by
  have hcolumns : Touch r.left r.right s.left s.right := by
    simp only [Intersects, Touch] at *
    omega
  have hrows : Touch r.bottom r.top s.bottom s.top := by
    simp only [Intersects, Touch] at *
    omega
  simp only [Mergeable, hcolumns, hrows, and_true, inside_iff]
  simp only [ColumnsIn, RowsIn]
  omega

theorem hull_columnsIn {r s t : Rect} :
    (r.hull s).ColumnsIn t ↔ r.ColumnsIn t ∧ s.ColumnsIn t := by
  simp only [ColumnsIn, hull]
  omega

theorem hull_rowsIn {r s t : Rect} : (r.hull s).RowsIn t ↔ r.RowsIn t ∧ s.RowsIn t := by
  simp only [RowsIn, hull]
  omega

theorem columnsIn_hull {r s t : Rect} (h : t.ColumnsIn r ∨ t.ColumnsIn s) :
    t.ColumnsIn (r.hull s) := by
  simp only [ColumnsIn, hull] at *
  omega

theorem rowsIn_hull {r s t : Rect} (h : t.RowsIn r ∨ t.RowsIn s) : t.RowsIn (r.hull s) := by
  simp only [RowsIn, hull] at *
  omega

theorem Intersects.hull {r t : Rect} (h : t.Intersects r) (s : Rect) :
    t.Intersects (r.hull s) := by
  simp only [Intersects, Rect.hull] at *
  omega

theorem Mergeable.hull_of_intersects {r s t : Rect} (hr : t.Mergeable r) (hs : t.Mergeable s)
    (hrt : t.Intersects r) (hst : t.Intersects s) : t.Mergeable (r.hull s) := by
  rw [hrt.mergeable_iff] at hr
  rw [hst.mergeable_iff] at hs
  rw [(hrt.hull s).mergeable_iff, hull_columnsIn, hull_rowsIn]
  constructor
  · rcases hr.1 with hcolumns | hrows
    · rcases hs.1 with hcolumns' | hrows
      · exact .inl ⟨hcolumns, hcolumns'⟩
      · exact .inr (rowsIn_hull (.inr hrows))
    · exact .inr (rowsIn_hull (.inl hrows))
  · rcases hr.2 with hrows | hcolumns
    · rcases hs.2 with hrows' | hcolumns
      · exact .inl ⟨hrows, hrows'⟩
      · exact .inr (columnsIn_hull (.inr hcolumns))
    · exact .inr (columnsIn_hull (.inl hcolumns))

/-- Here `t` overlaps `r` only.  If `s` reaches further to the side than the two, then it goes on in
the rows of `r` and so adjoins `t`. -/
theorem columnsIn_or_rowsIn_hull {r s t : Rect} (hrs : r.Mergeable s) (hr : t.Mergeable r)
    (hrt : t.Intersects r) (hst : ¬ t.Intersects s)
    (h : t.Adjoins s → t.ColumnsIn s ∨ t.RowsIn s) :
    (r.hull s).ColumnsIn t ∨ t.RowsIn (r.hull s) := by
  rcases (hrt.mergeable_iff.mp hr).1 with hcolumns | hrows
  · rcases hrs with hinside | hinside | ⟨hleft, hright, _⟩ | ⟨hbottom, htop, htouch⟩
    · rw [hull_of_inside hinside]
      exact .inl hcolumns
    · exact absurd (hrt.mono hinside) hst
    · left
      simp only [ColumnsIn, hull] at *
      omega
    · by_cases hside : s.ColumnsIn t
      · exact .inl (hull_columnsIn.mpr ⟨hcolumns, hside⟩)
      · have hadjoins : t.Adjoins s := by
          simp only [Intersects, Adjoins, Touch, ColumnsIn] at *
          omega
        rcases h hadjoins with hcolumns' | hrows
        · exfalso
          simp only [Intersects, Adjoins, Touch, ColumnsIn] at *
          omega
        · exact .inr (rowsIn_hull (.inr hrows))
  · exact .inr (rowsIn_hull (.inl hrows))

/-- What is mergeable with the one of two mergeable rectangles that it overlaps is mergeable with
their bounding box, unless it adjoins the other one and spans it on no axis. -/
theorem Mergeable.hull_of_not_intersects {r s t : Rect} (hrs : r.Mergeable s) (hr : t.Mergeable r)
    (hrt : t.Intersects r) (hst : ¬ t.Intersects s)
    (h : t.Adjoins s → t.ColumnsIn s ∨ t.RowsIn s) : t.Mergeable (r.hull s) := by
  rw [(hrt.hull s).mergeable_iff]
  refine ⟨columnsIn_or_rowsIn_hull hrs hr hrt hst h, ?_⟩
  have htransposed := columnsIn_or_rowsIn_hull (mergeable_transpose.mpr hrs)
    (mergeable_transpose.mpr hr) (intersects_transpose.mpr hrt)
    (fun hts => hst (intersects_transpose.mp hts))
    (fun hadjoins => (h (adjoins_transpose.mp hadjoins)).symm)
  exact htransposed

/-!
## Crossing rectangles

Overlapping rectangles that are not mergeable cross somewhere: from a common point, the one goes on
to a column of its own and the other to a row of its own.  Members that lie in the two and are
mergeable with all that they adjoin have equal rows and columns at that point.
-/

structure Crossing (r s : Rect) (x x' y y' : Int) : Prop where
  nextColumn : x' = x + 1 ∨ x = x' + 1
  nextRow : y' = y + 1 ∨ y = y' + 1
  contains : r.Contains x y ∧ s.Contains x y
  column : r.ContainsX x' ∧ ¬ s.ContainsX x'
  row : s.ContainsY y' ∧ ¬ r.ContainsY y'

theorem Crossing.transpose {r s : Rect} {x x' y y' : Int} (h : Crossing r s x x' y y') :
    Crossing s.transpose r.transpose y y' x x' :=
  ⟨h.nextRow, h.nextColumn,
    ⟨contains_transpose.mpr h.contains.2, contains_transpose.mpr h.contains.1⟩, h.row, h.column⟩

theorem exists_crossing {r s : Rect} (hr : ¬ r.IsEmpty) (hs : ¬ s.IsEmpty)
    (hrs : r.Intersects s) (hcolumns : ¬ r.ColumnsIn s) (hrows : ¬ s.RowsIn r) :
    ∃ x x' y y', Crossing r s x x' y y' := by
  rcases exists_next_column hs hrs hcolumns with ⟨x, x', hx, hrx, hsx, hcolumn⟩
  rcases exists_next_row hr hrs.symm hrows with ⟨y, y', hy, hsy, hry, hrow⟩
  exact ⟨x, x', y, y', hx, hy, ⟨⟨hrx, hry⟩, hsx, hsy⟩, hcolumn, hrow⟩

theorem Crossing.not_containsX {r s o : Rect} {x x' y y' : Int} (h : Crossing r s x x' y y')
    (ho : o.Inside r) (hos : o.Mergeable s) (hxy : o.Contains x y) : ¬ o.ContainsX x' := by
  have hintersects : o.Intersects s := hxy.intersects h.contains.2
  have hcolumn := h.column
  have hrow := h.row
  rcases (hintersects.mergeable_iff.mp hos).2 with hrows | hcolumns
  · simp only [RowsIn, Inside, ContainsX, ContainsY] at *
    omega
  · simp only [ColumnsIn, ContainsX] at *
    omega

theorem Mergeable.same_rows {r s : Rect} {x x' y : Int} (h : r.Mergeable s)
    (hr : r.Contains x y) (hr' : ¬ r.ContainsX x') (hs : s.Contains x' y)
    (hs' : ¬ s.ContainsX x) : r.bottom = s.bottom ∧ r.top = s.top := by
  simp only [contains_iff, ContainsX] at hr hr' hs hs'
  rcases h with hinside | hinside | ⟨hleft, hright, _⟩ | ⟨hbottom, htop, _⟩
  · simp only [Inside] at hinside
    omega
  · simp only [Inside] at hinside
    omega
  · omega
  · exact ⟨hbottom, htop⟩

theorem Crossing.same_rows {r s o o' t : Rect} {x x' y y' : Int} (h : Crossing r s x x' y y')
    (ho : o.Inside r) (ho' : o'.Inside s) (ht : t.Inside r) (hoxy : o.Contains x y)
    (hoxy' : o'.Contains x y) (htxy : t.Contains x' y) (hos : o.Mergeable s)
    (hts : t.Contains x y → t.Mergeable s) (hot : o.Adjoins t → o.Mergeable t)
    (hot' : o'.Adjoins t → o'.Mergeable t) : o.bottom = o'.bottom ∧ o.top = o'.top := by
  have hox : ¬ o.ContainsX x' := h.not_containsX ho hos hoxy
  have hox' : ¬ o'.ContainsX x' := by
    have hcolumn := h.column.2
    simp only [Inside, ContainsX] at *
    omega
  have htx : ¬ t.ContainsX x := by
    intro hx
    have hxy : t.Contains x y := ⟨hx, htxy.2⟩
    exact h.not_containsX ht (hts hxy) hxy htxy.1
  have hrows := (hot (adjoins_of_next_column h.nextColumn hoxy htxy)).same_rows hoxy hox htxy htx
  have hrows' :=
    (hot' (adjoins_of_next_column h.nextColumn hoxy' htxy)).same_rows hoxy' hox' htxy htx
  exact ⟨hrows.1.trans hrows'.1.symm, hrows.2.trans hrows'.2.symm⟩

theorem Crossing.same_columns {r s o o' t : Rect} {x x' y y' : Int}
    (h : Crossing r s x x' y y') (ho : o.Inside r) (ho' : o'.Inside s) (ht : t.Inside s)
    (hoxy : o.Contains x y) (hoxy' : o'.Contains x y) (htxy : t.Contains x y')
    (hor : o'.Mergeable r) (htr : t.Contains x y → t.Mergeable r)
    (hot : o.Adjoins t → o.Mergeable t) (hot' : o'.Adjoins t → o'.Mergeable t) :
    o.left = o'.left ∧ o.right = o'.right := by
  have hrows := h.transpose.same_rows (inside_transpose.mpr ho') (inside_transpose.mpr ho)
    (inside_transpose.mpr ht) (contains_transpose.mpr hoxy') (contains_transpose.mpr hoxy)
    (contains_transpose.mpr htxy) (mergeable_transpose.mpr hor)
    (fun hxy => mergeable_transpose.mpr (htr (contains_transpose.mp hxy)))
    (fun hadjoins => mergeable_transpose.mpr (hot' (adjoins_transpose.mp hadjoins)))
    (fun hadjoins => mergeable_transpose.mpr (hot (adjoins_transpose.mp hadjoins)))
  exact ⟨hrows.1.symm, hrows.2.symm⟩

end Rect

end Rectilinear
