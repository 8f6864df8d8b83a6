import Rectilinear.Proofs.Advance

/-!
# What a sweep emits

Below the last edge that spans a column, the rectangles emitted so far cover exactly the points for
which the operation holds.  A step adds, for every band that the edge spans, the rows since the band
was opened; over these rows the coverage of the band's columns does not change.  The new rectangles
lie above all earlier ones in their columns, so that emitted rectangles are disjoint.
-/

namespace Rectilinear

namespace Edge

section Rows

variable {edges : List Edge} {edge : Edge} {x y : Int}

theorem Schedule.row_le_lastRow (h : Schedule edges) :
    ∀ e ∈ edges, e.Spans x → e.row ≤ lastRow edges x := by
  induction h with
  | nil => simp
  | @snoc edges edge _ hedge ih =>
      intro e he hspans
      rw [lastRow_append_singleton]
      rcases List.mem_append.mp he with he | he
      · by_cases hlast : edge.Spans x
        · rw [if_pos hlast]
          exact (hedge.ordered e he).row_le
        · rw [if_neg hlast]
          exact ih e he hspans
      · rw [List.mem_singleton.mp he] at hspans ⊢
        exact Int.le_of_eq (if_pos hspans).symm

theorem lastRow_le_of_forall_le (h : ∀ e ∈ edges, e.Le edge) (hrow : minBound ≤ edge.row) :
    lastRow edges x ≤ edge.row := by
  by_cases hspans : ∃ e ∈ edges, e.Spans x
  · rcases exists_lastRow hspans with ⟨e, he, _, hlast⟩
    rw [← hlast]
    exact (h e he).row_le
  · have hline := lastRow_of_forall_not_spans fun e he hx => hspans ⟨e, he, hx⟩
    rw [hline]
    simp only [Band.line, minBound] at *
    omega

theorem Admits.lastRow_le (h : Admits edges edge) : lastRow edges x ≤ edge.row :=
  lastRow_le_of_forall_le h.ordered h.row_ge

theorem Schedule.depth_of_lastRow_le (h : Schedule edges) (operand : Operand)
    (hy : lastRow edges x ≤ y) : depth operand edges x y = active operand edges x := by
  have hcount : ∀ kind, count kind operand (upTo y edges) x = count kind operand edges x := by
    intro kind
    rw [count, upTo, List.countP_filter, count]
    apply List.countP_congr
    intro e he
    simp only [Bool.and_eq_true, decide_eq_true_eq, and_iff_left_iff_imp]
    intro hspans
    exact Int.le_trans (h.row_le_lastRow e he hspans.2.2) hy
  rw [depth, active, active, hcount, hcount]

theorem depth_append_singleton (operand : Operand) (h : y < edge.row ∨ ¬ edge.Spans x) :
    depth operand (edges ++ [edge]) x y = depth operand edges x y := by
  have hcount : ∀ kind, count kind operand (upTo y (edges ++ [edge])) x =
      count kind operand (upTo y edges) x := by
    intro kind
    have hlast : count kind operand (upTo y [edge]) x = 0 := by
      rw [count, upTo, List.countP_filter, List.countP_eq_zero]
      intro e he
      rw [List.mem_singleton.mp he]
      simp only [Bool.and_eq_true, decide_eq_true_eq]
      rintro ⟨⟨_, _, hspans⟩, hrow⟩
      rcases h with hlt | hbeside
      · omega
      · exact hbeside hspans
    rw [upTo, List.filter_append, ← upTo, ← upTo, count_append, hlast, Nat.add_zero]
  rw [depth, active, hcount, hcount, ← active, ← depth]

end Rows

end Edge

namespace Band

/-!
## One step

From its last edge on, the coverage of a column is what the edges leave active, and a new edge
changes it only from its own row on.  So what a band covered since it was opened lies between the
last edge of its columns and the new one.
-/

theorem mem_released {op : SetOp} {edge : Edge} {bands : List Band} {r : Rect} :
    r ∈ released op edge bands ↔
      ∃ band ∈ inside edge bands, band.Holds op ∧ band.openRow < edge.row ∧
        r = ⟨band.left, band.right, band.openRow, edge.row - 1⟩ := by
  simp only [released, List.mem_flatMap, covered, List.mem_ite_nil_right,
    List.mem_singleton, and_assoc]

theorem apart_released {op : SetOp} {edge : Edge} {bands : List Band} {low high : Int}
    (h : Tiles low high (inside edge bands)) : (released op edge bands).Apart := by
  rw [Cover.Apart, released, List.pairwise_flatMap]
  constructor
  · intro band _
    rw [covered]
    split
    · exact List.pairwise_singleton _ _
    · exact List.Pairwise.nil
  · refine h.pairwise_lt.imp ?_
    intro band next hlt r hr s hs hintersects
    simp only [covered, List.mem_ite_nil_right, List.mem_singleton] at hr hs
    rw [hr.2, hs.2] at hintersects
    simp only [Rect.Intersects] at hintersects
    omega

end Band

namespace Sweep

/-- A point lies below the last edge of its column, and the operation holds for its coverage. -/
def Settled (op : SetOp) (edges : List Edge) (x y : Int) : Prop :=
  y < Edge.lastRow edges x ∧ op.Holds (Edge.depth .a edges x y) (Edge.depth .b edges x y)

section Step

variable {coalesce : Bool} {op : SetOp} {edges : List Edge} {edge : Edge} {bands : List Band}
  {emitted : Cover} {x y : Int}

theorem Tracks.contains_released_iff (h : Tracks coalesce op edges bands)
    (hedge : Edge.Admits edges edge) :
    (Band.released op edge bands).Contains x y ↔
      edge.Spans x ∧ Edge.lastRow edges x ≤ y ∧ y < edge.row ∧
        op.Holds (Edge.active .a edges x) (Edge.active .b edges x) := by
  have hinside := (Band.tiles_parts h.tiles hedge.toOnLine).2.1
  have hfits : ∀ band ∈ Band.inside edge bands, band.Fits op edges := Band.fits_inside h.fits
  constructor
  · rintro ⟨r, hr, hxy⟩
    rcases Band.mem_released.mp hr with ⟨band, hband, hholds, _, rfl⟩
    simp only [Rect.contains_iff] at hxy
    have hbounds := hinside.bounds band hband
    rcases hfits band hband x ⟨hxy.1, hxy.2.1⟩ with ⟨hcounts, hopen⟩
    refine ⟨⟨by omega, by omega⟩, ?_, by omega, ?_⟩
    · rw [← hopen hholds]
      exact hxy.2.2.1
    · rw [← hcounts .a, ← hcounts .b]
      exact hholds
  · rintro ⟨hspans, hlow, hhigh, hholds⟩
    rcases hinside.exists_spans hspans.1 hspans.2 with ⟨band, hband, hx⟩
    rcases hfits band hband x hx with ⟨hcounts, hopen⟩
    have hbandHolds : band.Holds op := by
      rw [← hcounts .a, ← hcounts .b] at hholds
      exact hholds
    have hrow := hopen hbandHolds
    refine ⟨_, Band.mem_released.mpr ⟨band, hband, hbandHolds, by omega, rfl⟩, ?_⟩
    simp only [Band.Spans, Rect.contains_iff] at hx ⊢
    omega

theorem Tracks.released_bounds (h : Tracks coalesce op edges bands)
    (hedges : Edge.Schedule edges) (hedge : Edge.Admits edges edge) :
    ∀ r ∈ Band.released op edge bands, ¬ r.IsEmpty ∧ r.InRange := by
  intro r hr
  rcases Band.mem_released.mp hr with ⟨band, hband, hholds, hlt, rfl⟩
  have hbounds := (Band.tiles_parts h.tiles hedge.toOnLine).2.1.bounds band hband
  have hspans : band.Spans band.left := ⟨Int.le_refl _, hbounds.2.1⟩
  have hrow := (Band.fits_inside h.fits band hband).openRow_bounds hedges hspans hholds
  have hleft := hedge.left_ge
  have hright := hedge.right_le
  have htop := hedge.row_le
  simp only [Rect.not_isEmpty_iff, Rect.InRange, InRange]
  omega

theorem settled_append_singleton_iff (hedges : Edge.Schedule edges)
    (hedge : Edge.Admits edges edge) :
    Settled op (edges ++ [edge]) x y ↔
      Settled op edges x y ∨
        edge.Spans x ∧ Edge.lastRow edges x ≤ y ∧ y < edge.row ∧
          op.Holds (Edge.active .a edges x) (Edge.active .b edges x) := by
  have hlast := hedge.lastRow_le (x := x)
  rw [Settled, Settled, Edge.lastRow_append_singleton]
  by_cases hspans : edge.Spans x
  · rw [if_pos hspans]
    by_cases hy : y < edge.row
    · rw [Edge.depth_append_singleton .a (.inl hy), Edge.depth_append_singleton .b (.inl hy)]
      -- below the last edge nothing is new, and above it the depth is what is active
      by_cases hold : y < Edge.lastRow edges x
      · simp only [hold, hy, hspans, true_and]
        constructor
        · exact Or.inl
        · rintro (hholds | hnew)
          · exact hholds
          · omega
      · have hge : Edge.lastRow edges x ≤ y := by omega
        rw [hedges.depth_of_lastRow_le .a hge, hedges.depth_of_lastRow_le .b hge]
        simp [hold, hy, hspans, hge]
    · simp only [hy, false_and, and_false, or_false, false_iff]
      omega
  · rw [if_neg hspans, Edge.depth_append_singleton .a (.inr hspans),
      Edge.depth_append_singleton .b (.inr hspans)]
    simp [hspans]

/-- A step adds what lies between the last edges and the new one. -/
theorem Tracks.partitions_append_released (htracks : Tracks coalesce op edges bands)
    (hedges : Edge.Schedule edges) (hedge : Edge.Admits edges edge)
    (h : emitted.Partitions (Settled op edges)) :
    Cover.Partitions (emitted ++ Band.released op edge bands)
      (Settled op (edges ++ [edge])) := by
  have hbounds := htracks.released_bounds hedges hedge
  constructor
  · intro r hr
    rcases List.mem_append.mp hr with hr | hr
    · exact h.proper r hr
    · exact (hbounds r hr).1
  · intro r hr
    rcases List.mem_append.mp hr with hr | hr
    · exact h.inRange r hr
    · exact (hbounds r hr).2
  · have hinside := (Band.tiles_parts htracks.tiles hedge.toOnLine).2.1
    refine List.pairwise_append.mpr ⟨h.apart, Band.apart_released hinside, ?_⟩
    intro r hr s hs hintersects
    -- a common point would lie both below and above the last edge in its column
    rcases (Rect.intersects_iff_exists (h.proper r hr) (hbounds s hs).1).mp hintersects with
      ⟨x, y, hrxy, hsxy⟩
    have hbelow := ((h.contains_iff x y).mp ⟨r, hr, hrxy⟩).1
    have habove := ((htracks.contains_released_iff hedge).mp ⟨s, hs, hsxy⟩).2.1
    omega
  · intro x y
    rw [Cover.contains_append, h.contains_iff, htracks.contains_released_iff hedge,
      settled_append_singleton_iff hedges hedge]

end Step

theorem partitions_through (coalesce : Bool) (op : SetOp) {edges : List Edge}
    (h : Edge.Schedule edges) :
    (through coalesce op edges).emitted.Partitions (Settled op edges) := by
  induction h with
  | nil =>
      refine ⟨by simp [through, initial, Cover.Proper], by simp [through, initial, Cover.InRange],
        List.Pairwise.nil, ?_⟩
      intro x y
      have hholds := op.not_holds_zero
      simp [through, initial, Settled, Edge.depth, Edge.active, Edge.upTo, Edge.count, hholds]
  | snoc hedges hedge ih =>
      rw [through_append_singleton]
      exact (tracks_through hedges).partitions_append_released hedges hedge ih

/-!
## Whole sweeps

After the last edge nothing is left above: a covered point lies below the stop edge of the member
that covers it.
-/

section Whole

variable {a b : Cover} (ha : a.Proper) (hb : b.Proper) (hsa : a.Sweepable) (hsb : b.Sweepable)

include ha hb hsa hsb

theorem ofOperands_eq (arith : Arith) (coalesce : Bool) (op : SetOp) :
    ofOperands arith coalesce op a b = .ok (through coalesce op (Edge.ofOperands a b)) :=
  run_eq (Edge.schedule_ofOperands ha hb hsa hsb)

theorem settled_ofOperands_iff (op : SetOp) (x y : Int) :
    Settled op (Edge.ofOperands a b) x y ↔ op.Holds (a.coverage x y) (b.coverage x y) := by
  rw [Settled, Edge.depth_ofOperands ha hb, Edge.depth_ofOperands ha hb, Edge.coverOf,
    Edge.coverOf, and_iff_right_iff_imp]
  intro hholds
  have hmember : ∃ operand, ∃ r ∈ Edge.coverOf a b operand, r.Contains x y := by
    rcases SetOp.pos_of_holds hholds with hinA | hinB
    · exact ⟨.a, Cover.coverage_pos_iff.mp hinA⟩
    · exact ⟨.b, Cover.coverage_pos_iff.mp hinB⟩
  rcases hmember with ⟨operand, r, hr, hxy⟩
  have hstop := (Edge.schedule_ofOperands ha hb hsa hsb).row_le_lastRow (x := x) _
    (Edge.edge_mem_ofOperands hr .stop) hxy.1
  have htop := hxy.2.2
  simp only [Edge.Kind.edgeOf, Edge.Kind.rowOf] at hstop
  omega

theorem partitions_ofOperands (coalesce : Bool) (op : SetOp) :
    (through coalesce op (Edge.ofOperands a b)).emitted.Partitions fun x y =>
      op.Holds (a.coverage x y) (b.coverage x y) := by
  have hthrough := partitions_through coalesce op (Edge.schedule_ofOperands ha hb hsa hsb)
  refine ⟨hthrough.proper, hthrough.inRange, hthrough.apart, ?_⟩
  intro x y
  exact (hthrough.contains_iff x y).trans (settled_ofOperands_iff ha hb hsa hsb op x y)

end Whole

end Sweep

end Rectilinear
