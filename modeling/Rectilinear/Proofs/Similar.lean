import Rectilinear.Proofs.Seams

/-!
# Similar sweeps

What a sweep emits depends on its edges through their places, through which columns have equal
counts, and through where the operation holds.  Edges in another order, or with their operands
swapped under a symmetric operation, agree in all of this and so give the same rectangles in the
same order.
-/

namespace Rectilinear

namespace Edge

/-- Edges that separate the same columns, and for which operations hold in the same columns. -/
structure Similar (op op' : SetOp) (edges others : List Edge) : Prop where
  active_iff : ∀ x y, (∀ operand, active operand edges x = active operand edges y) ↔
    ∀ operand, active operand others x = active operand others y
  holds_iff : ∀ x, op.Holds (active .a edges x) (active .b edges x) ↔
    op'.Holds (active .a others x) (active .b others x)

section Places

variable {edges others : List Edge} {p q : Edge}

theorem exists_mem_places (edges : List Edge) {P : Edge → Prop} (hP : ∀ e, P e.place ↔ P e) :
    (∃ p ∈ places edges, P p) ↔ ∃ e ∈ edges, P e := by
  constructor
  · rintro ⟨p, hp, hPp⟩
    rcases mem_places.mp hp with ⟨e, he, rfl⟩
    exact ⟨e, he, (hP e).mp hPp⟩
  · rintro ⟨e, he, hPe⟩
    exact ⟨e.place, mem_places.mpr ⟨e, he, rfl⟩, (hP e).mpr hPe⟩

theorem exists_iff_of_places (hplaces : ∀ p, p ∈ places edges ↔ p ∈ places others)
    {P : Edge → Prop} (hP : ∀ e, P e.place ↔ P e) :
    (∃ e ∈ edges, P e) ↔ ∃ e ∈ others, P e := by
  rw [← exists_mem_places edges hP, ← exists_mem_places others hP]
  simp only [hplaces]

theorem mem_places_below : q ∈ places (below p edges) ↔ q ∈ places edges ∧ ¬ p.Le q := by
  simp only [mem_places, mem_below]
  constructor
  · rintro ⟨e, ⟨he, hle⟩, rfl⟩
    exact ⟨⟨e, he, rfl⟩, hle⟩
  · rintro ⟨⟨e, he, rfl⟩, hle⟩
    exact ⟨e, ⟨he, hle⟩, rfl⟩

theorem lastRow_le_of_places (hothers : Schedule others)
    (hplaces : ∀ p, p ∈ places edges ↔ p ∈ places others) {x : Int}
    (hspanned : ∃ e ∈ edges, e.Spans x) : lastRow edges x ≤ lastRow others x := by
  rcases exists_lastRow hspanned with ⟨e, he, hspans, hrow⟩
  have hplace : ∃ f ∈ edges, f.Spans x ∧ f.row = e.row := ⟨e, he, hspans, rfl⟩
  rcases (exists_iff_of_places hplaces fun _ => Iff.rfl).mp hplace with ⟨f, hf, hfspans, hfrow⟩
  have hle := hothers.row_le_lastRow f hf hfspans
  omega

theorem lastRow_eq_of_places (h : Schedule edges) (hothers : Schedule others)
    (hplaces : ∀ p, p ∈ places edges ↔ p ∈ places others) (x : Int) :
    lastRow edges x = lastRow others x := by
  have hspans : (∃ e ∈ edges, e.Spans x) ↔ ∃ e ∈ others, e.Spans x :=
    exists_iff_of_places hplaces fun _ => Iff.rfl
  by_cases hspanned : ∃ e ∈ edges, e.Spans x
  · exact Int.le_antisymm (lastRow_le_of_places hothers hplaces hspanned)
      (lastRow_le_of_places h (fun p => (hplaces p).symm) (hspans.mp hspanned))
  · rw [lastRow_of_forall_not_spans fun e he hx => hspanned ⟨e, he, hx⟩,
      lastRow_of_forall_not_spans fun e he hx => hspanned (hspans.mpr ⟨e, he, hx⟩)]

end Places

theorem Similar.seam_iff {op op' : SetOp} {edges others : List Edge}
    (h : Similar op op' edges others) (hedges : Schedule edges) (hothers : Schedule others)
    (hplaces : ∀ p, p ∈ places edges ↔ p ∈ places others) (coalesce : Bool) (x : Int) :
    Seam coalesce op edges x ↔ Seam coalesce op' others x := by
  cases coalesce with
  | true =>
      have hrow := lastRow_eq_of_places hedges hothers hplaces
      simp only [Seam, Alike, if_true, h.active_iff, h.holds_iff, hrow]
  | false =>
      exact exists_iff_of_places hplaces fun _ => Iff.rfl

end Edge

namespace Sweep

/-- What a band on some columns adds at an edge, by the state of its first column. -/
def strip (op : SetOp) (edges : List Edge) (edge : Edge) (columns : Int × Int) : Cover :=
  if op.Holds (Edge.active .a edges columns.1) (Edge.active .b edges columns.1) ∧
      Edge.lastRow edges columns.1 < edge.row then
    [⟨columns.1, columns.2, Edge.lastRow edges columns.1, edge.row - 1⟩]
  else []

section Steps

variable {coalesce : Bool} {op op' : SetOp} {edges others : List Edge} {edge : Edge}

theorem Tracks.released_eq {bands : List Band} (h : Tracks coalesce op edges bands)
    (hedge : edge.OnLine) :
    Band.released op edge bands =
      ((Band.inside edge bands).map fun band => (band.left, band.right)).flatMap
        (strip op edges edge) := by
  rw [Band.released, List.flatMap_map]
  apply List.flatMap_congr
  intro band hband
  have hbounds := (Band.tiles_parts h.tiles hedge).2.1.bounds band hband
  rcases Band.fits_inside h.fits band hband band.left ⟨Int.le_refl _, hbounds.2.1⟩ with
    ⟨hcounts, hopen⟩
  rw [Band.covered, strip, ← hcounts .a, ← hcounts .b]
  by_cases hholds : band.Holds op
  · rw [hopen hholds]
    rfl
  · have hnot : ¬ op.Holds (band.countOf .a) (band.countOf .b) := hholds
    simp only [hholds, hnot, false_and, if_false]

theorem released_eq_of_similar (h : Edge.Schedule edges) (hothers : Edge.Schedule others)
    (hplaces : ∀ p, p ∈ Edge.places edges ↔ p ∈ Edge.places others)
    (hsimilar : Edge.Similar op op' edges others) (hedge : edge.OnLine) :
    Band.released op edge (through coalesce op edges).bands =
      Band.released op' edge (through coalesce op' others).bands := by
  have htracks : Tracks coalesce op edges _ := tracks_through h
  have htracks' : Tracks coalesce op' others _ := tracks_through hothers
  have hcolumns := Band.columns_eq_of_cutAt
    ((cutAt_through coalesce op h).parts hedge).2.1
    ((cutAt_through coalesce op' hothers).parts hedge).2.1
    (Band.tiles_parts htracks.tiles hedge).2.1 (Band.tiles_parts htracks'.tiles hedge).2.1
    fun x _ _ => hsimilar.seam_iff h hothers hplaces coalesce x
  have hstrip : strip op edges edge = strip op' others edge := by
    funext columns
    have hrow := Edge.lastRow_eq_of_places h hothers hplaces columns.1
    simp only [strip, hrow, hsimilar.holds_iff]
  rw [htracks.released_eq hedge, htracks'.released_eq hedge, hcolumns, hstrip]

theorem emitted_eq_of_similar (h : Edge.Schedule edges) (hothers : Edge.Schedule others)
    (hplaces : ∀ p, p ∈ Edge.places edges ↔ p ∈ Edge.places others)
    (hsimilar : ∀ p, Edge.Similar op op' (Edge.below p edges) (Edge.below p others)) :
    (through coalesce op edges).emitted = (through coalesce op' others).emitted := by
  rw [emitted_through h, emitted_through hothers,
    Edge.places_eq h.pairwise hothers.pairwise hplaces]
  apply List.flatMap_congr
  intro p hp
  have hedge : p.OnLine := by
    rcases Edge.mem_places.mp hp with ⟨e, he, rfl⟩
    exact (hothers.onLine e he).place
  refine released_eq_of_similar (Edge.schedule_below h p) (Edge.schedule_below hothers p) ?_
    (hsimilar p) hedge
  intro q
  rw [Edge.mem_places_below, Edge.mem_places_below, hplaces]

end Steps

end Sweep

end Rectilinear
