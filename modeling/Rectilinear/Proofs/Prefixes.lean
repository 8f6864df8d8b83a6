import Rectilinear.Proofs.Emission

/-!
# Sweeps on the way

What a sweep has done is settled below the last edge of each column: the edges still to come lie at
that row or above it, so that the edges so far tell how often the point is covered by the operands
as a whole.  After the last edge every member that has started has stopped.
-/

namespace Rectilinear

namespace Edge

section Prefix

variable {a b : Cover} {edges more : List Edge}

theorem count_ofOperands (kind : Kind) (operand : Operand) (x : Int) (a b : Cover) :
    count kind operand (ofOperands a b) x =
      (coverOf a b operand).countP fun r => r.ContainsX x := by
  have hcount := count_filter_ofOperands kind operand (fun _ => True) x a b
  simpa using hcount

variable (h : ofOperands a b = edges ++ more) (ha : a.Proper) (hb : b.Proper)
  (hsa : a.Sweepable) (hsb : b.Sweepable)

include h ha hb hsa hsb

theorem lastRow_le_of_mem_rest {x : Int} : ∀ f ∈ more, lastRow edges x ≤ f.row := by
  have hsorted := pairwise_ofOperands a b
  rw [h, List.pairwise_append] at hsorted
  intro f hf
  apply lastRow_le_of_forall_le
  · intro e he
    exact hsorted.2.2 e he f hf
  · have hmem : f ∈ ofOperands a b := by simp [h, hf]
    exact ((schedule_ofOperands ha hb hsa hsb).row_bounds f hmem).1

theorem depth_of_lt_lastRow (operand : Operand) {x y : Int} (hy : y < lastRow edges x) :
    depth operand edges x y = (coverOf a b operand).coverage x y := by
  have hrest : upTo y more = [] := by
    rw [upTo, List.filter_eq_nil_iff]
    intro f hf
    have hrow := lastRow_le_of_mem_rest h ha hb hsa hsb (x := x) f hf
    simp only [decide_eq_true_eq]
    omega
  rw [← depth_ofOperands ha hb, h, depth, depth, upTo, upTo, List.filter_append, ← upTo, ← upTo,
    hrest, List.append_nil]

end Prefix

end Edge

namespace Sweep

/-- What a sweep over two covers has done after some of their edges.  The bands tile the columns.
Each of them counts, for all of its columns, the members that have started and not stopped; where
the operation holds, it was opened by the last edge in these columns.  Below the last edges the
result is complete. -/
structure Reached (op : SetOp) (a b : Cover) (edges : List Edge) (sweep : Sweep) : Prop where
  tiles : Band.Tiles minBound maxBound sweep.bands
  counts : ∀ band ∈ sweep.bands, ∀ x, band.Spans x → ∀ operand,
    band.countOf operand + Edge.count .stop operand edges x = Edge.count .start operand edges x
  openRow_eq : ∀ band ∈ sweep.bands, ∀ x, band.Spans x → band.Holds op →
    band.openRow = Edge.lastRow edges x
  emitted : sweep.emitted.Partitions fun x y =>
    y < Edge.lastRow edges x ∧ op.Holds (a.coverage x y) (b.coverage x y)

section Operands

variable {a b : Cover} (ha : a.Proper) (hb : b.Proper) (hsa : a.Sweepable) (hsb : b.Sweepable)

include ha hb hsa hsb

theorem reached_through (coalesce : Bool) (op : SetOp) {edges more : List Edge}
    (h : Edge.ofOperands a b = edges ++ more) :
    Reached op a b edges (through coalesce op edges) := by
  have hedges : Edge.Schedule edges := Edge.schedule_of_ofOperands_eq h ha hb hsa hsb
  have htracks : Tracks coalesce op edges (through coalesce op edges).bands :=
    tracks_through hedges
  refine ⟨htracks.tiles, ?_, ?_, (partitions_through coalesce op hedges).congr ?_⟩
  · intro band hband x hx operand
    have hstopped := hedges.count_stop_le operand x
    rw [(htracks.fits band hband x hx).1 operand, Edge.active]
    omega
  · intro band hband x hx
    exact (htracks.fits band hband x hx).2
  · intro x y
    apply and_congr_right
    intro hy
    rw [Edge.depth_of_lt_lastRow h ha hb hsa hsb .a hy,
      Edge.depth_of_lt_lastRow h ha hb hsa hsb .b hy]
    rfl

omit ha hb hsa hsb in
theorem Reached.countOf_eq_zero {op : SetOp} {sweep : Sweep}
    (h : Reached op a b (Edge.ofOperands a b) sweep) :
    ∀ band ∈ sweep.bands, ∀ operand, band.countOf operand = 0 := by
  intro band hband operand
  have hsides := h.tiles.bounds band hband
  have hcounts := h.counts band hband band.left ⟨Int.le_refl _, hsides.2.1⟩ operand
  rw [Edge.count_ofOperands, Edge.count_ofOperands] at hcounts
  omega

/-- On every prefix of its edges a sweep succeeds with the bands and rectangles that the edges call
for, and after the last edge no count is left. -/
theorem reached_of_isPrefix (arith : Arith) (coalesce : Bool) (op : SetOp) :
    (∀ edges, edges <+: Edge.ofOperands a b →
      ∃ sweep, run arith coalesce op edges = .ok sweep ∧ Reached op a b edges sweep) ∧
    ∃ sweep, ofOperands arith coalesce op a b = .ok sweep ∧
      ∀ band ∈ sweep.bands, band.inA = 0 ∧ band.inB = 0 := by
  constructor
  · rintro edges ⟨more, hmore⟩
    have hedges : Edge.Schedule edges :=
      Edge.schedule_of_ofOperands_eq hmore.symm ha hb hsa hsb
    exact ⟨_, run_eq hedges, reached_through ha hb hsa hsb coalesce op hmore.symm⟩
  · refine ⟨_, ofOperands_eq ha hb hsa hsb arith coalesce op, ?_⟩
    have hreached := reached_through ha hb hsa hsb coalesce op (List.append_nil _).symm
    intro band hband
    exact ⟨hreached.countOf_eq_zero band hband .a, hreached.countOf_eq_zero band hband .b⟩

end Operands

theorem reached_of_isPrefix_overlapping :
    let a : Cover := [⟨0, 4, 0, 4⟩, ⟨2, 6, 2, maxBound⟩, ⟨0, 4, 0, 4⟩]
    let b : Cover := [⟨minBound, maxBound, 3, 5⟩, ⟨1, 1, minBound, 3⟩]
    a.Proper ∧ b.Proper ∧ a.Sweepable ∧ b.Sweepable ∧
      (Edge.ofOperands a b).take 5 <+: Edge.ofOperands a b ∧
      (∃ sweep, run .word true .xor ((Edge.ofOperands a b).take 5) = .ok sweep ∧
        Reached .xor a b ((Edge.ofOperands a b).take 5) sweep) ∧
      ∃ sweep, ofOperands .word true .xor a b = .ok sweep ∧
        ∀ band ∈ sweep.bands, band.inA = 0 ∧ band.inB = 0 := by
  intro a b
  have ha : a.Proper := show ∀ r ∈ a, ¬ r.IsEmpty by decide
  have hb : b.Proper := show ∀ r ∈ b, ¬ r.IsEmpty by decide
  have hsa : a.Sweepable := Cover.sweepable_of_length (by decide) (by decide)
  have hsb : b.Sweepable := Cover.sweepable_of_length (by decide) (by decide)
  have hprefix := List.take_prefix 5 (Edge.ofOperands a b)
  rcases reached_of_isPrefix ha hb hsa hsb .word true .xor with ⟨hreached, hlast⟩
  exact ⟨ha, hb, hsa, hsb, hprefix, hreached _ hprefix, hlast⟩

end Sweep

end Rectilinear
