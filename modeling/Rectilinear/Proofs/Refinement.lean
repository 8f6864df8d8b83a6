import Rectilinear.Proofs.PairSweep
import Rectilinear.Proofs.Symmetry

/-!
# Closed forms and the sweep

On two single rectangles a sweep that joins its bands ends with the closed form, piece for piece,
except for a union.
-/

namespace Rectilinear

namespace Cover

section Pair

variable {r s : Rect} (hr : r.InRange ∧ ¬ r.IsEmpty) (hs : s.InRange ∧ ¬ s.IsEmpty)

include hr hs

theorem partitions_emitted_pair (op : SetOp) :
    (Sweep.through true op (Edge.ofOperands [r] [s])).emitted.Partitions fun x y =>
      op.Holds (coverage [r] x y) (coverage [s] x y) :=
  Sweep.partitions_ofOperands (Edge.proper_pair hr.2 hs.2 .a) (Edge.proper_pair hr.2 hs.2 .b)
    (sweepable_singleton hr.1) (sweepable_singleton hs.1) true op

theorem emitted_pair_comm {op : SetOp} (hop : op ≠ .diff) :
    (Sweep.through true op (Edge.ofOperands [r] [s])).emitted =
      (Sweep.through true op (Edge.ofOperands [s] [r])).emitted :=
  Sweep.emitted_comm (Edge.proper_pair hr.2 hs.2 .a) (Edge.proper_pair hr.2 hs.2 .b)
    (sweepable_singleton hr.1) (sweepable_singleton hs.1) hop true

theorem swept_eq_of_subset {op : SetOp} (hsub : ∀ t ∈ (op.closedForm .exact r s).cover,
    t ∈ (Sweep.through true op (Edge.ofOperands [r] [s])).emitted) :
    swept true op [r] [s] = (op.closedForm .exact r s).cover := by
  have hform := SetOp.exact_closedForm hr.1 hs.1 op
  exact Combination.swept_eq_of_mem_emitted (sweepable_singleton hr.1) (sweepable_singleton hs.1)
    (Edge.proper_pair hr.2 hs.2 .a) (Edge.proper_pair hr.2 hs.2 .b) hform.canonical
    hform.partitions hsub

theorem swept_and : swept true .and [r] [s] = (SetOp.and.closedForm .exact r s).cover := by
  apply swept_eq_of_subset hr hs
  simp only [SetOp.closedForm, ClosedForm.inter_eq, ClosedForm.cover]
  split
  · simp
  · rename_i hproper
    have h : Rect.Overlap r s := by
      refine ⟨hr, hs, ?_⟩
      simp only [Rect.not_isEmpty_iff, Rect.clipWith_eq, Steps.settleFar_exact] at hproper
      simp only [Rect.Intersects]
      split_ifs at hproper <;> omega
    intro t ht
    rw [List.mem_singleton.mp ht, h.clipWith_eq]
    -- whichever rectangle stops first releases the overlap
    rcases Edge.le_total (Edge.Kind.stop.edgeOf .a r) (Edge.Kind.stop.edgeOf .b s) with hle | hle
    · rw [Int.min_eq_left (Edge.top_le_of_stop_le hle)]
      exact Sweep.mem_emitted_overlap h (by decide) hle
    · rw [Int.min_eq_right (Edge.top_le_of_stop_le hle), Int.max_comm r.left, Int.max_comm r.bottom,
        Int.min_comm r.right, emitted_pair_comm hr hs (by decide)]
      exact Sweep.mem_emitted_overlap h.symm (by decide) hle

/-- Rectangles apart from each other may be mergeable, so that it is the pieces that are compared
here, before they are normalized. -/
theorem swept_xor_of_apart (hapart : ¬ r.Intersects s) :
    swept true .xor [r] [s] = normalize [r, s] := by
  have hpieces := partitions_nonempty_pair_symmDiff hr.1 hs.1 (.inr (.inr hapart))
  have hproper : Proper [r, s] := by
    simp [Proper, hr.2, hs.2]
  rw [hproper.nonempty_eq] at hpieces
  have hpoints : ∀ x y, SetOp.xor.Holds (coverage [r] x y) (coverage [s] x y) ↔
      ¬ (r.Contains x y ↔ s.Contains x y) := by
    intro x y
    simp only [SetOp.Holds, coverage_singleton_pos]
  have hperm := hpieces.perm_of_subset ((partitions_emitted_pair hr hs .xor).congr hpoints) ?_
  · exact normalize_eq_of_perm_pair hperm.symm
  · intro t ht
    simp only [List.mem_cons, List.not_mem_nil, or_false] at ht
    rcases ht with rfl | rfl
    · exact Sweep.mem_emitted_of_apart hr hs hapart (by decide)
    · rw [emitted_pair_comm hr hs (by decide)]
      exact Sweep.mem_emitted_of_apart hs hr (fun hintersects => hapart hintersects.symm)
        (by decide)

theorem swept_xor : swept true .xor [r] [s] = (SetOp.xor.closedForm .exact r s).cover := by
  by_cases hintersects : r.Intersects s
  · have h : Rect.Overlap r s := ⟨hr, hs, hintersects⟩
    have hnot : ¬ (r.IsEmpty ∨ s.IsEmpty ∨ ¬ r.Intersects s) := by
      simp [hr.2, hs.2, hintersects]
    apply swept_eq_of_subset hr hs
    simp only [SetOp.closedForm, ClosedForm.symmDiff_exact, if_neg hnot]
    split
    · simp [ClosedForm.cover]
    · have hperm := ClosedForm.perm_strips r s
      have hpieces := (Rect.partitions_overhangs h).perm hperm.symm
      have hun := (Rect.unmergeable_overhangs h).perm hperm.symm
      intro t ht
      rw [ClosedForm.cover, mem_normalize_of_unmergeable hpieces.proper hun, hperm.mem_iff] at ht
      rcases List.mem_append.mp ht with ht | ht
      · exact Sweep.mem_emitted_of_mem_overhang h (by decide) ht
      · rw [emitted_pair_comm hr hs (by decide)]
        exact Sweep.mem_emitted_of_mem_overhang h.symm (by decide) ht
  · rw [swept_xor_of_apart hr hs hintersects, SetOp.closedForm, ClosedForm.symmDiff_exact,
      if_pos (.inr (.inr hintersects))]
    rfl

theorem swept_diff : swept true .diff [r] [s] = (SetOp.diff.closedForm .exact r s).cover := by
  apply swept_eq_of_subset hr hs
  simp only [SetOp.closedForm, ClosedForm.diff_exact, if_neg hr.2]
  split
  · rename_i happart
    intro t ht
    rw [List.mem_singleton.mp ht]
    exact Sweep.mem_emitted_of_apart hr hs (happart.resolve_left hs.2) (by decide)
  · rename_i hoverlap
    rw [not_or, not_not] at hoverlap
    have h : Rect.Overlap r s := ⟨hr, hs, hoverlap.2⟩
    have hstrips := ClosedForm.stripsOf_a r s
    rw [ClosedForm.stripsOf] at hstrips
    intro t ht
    rw [hstrips, ClosedForm.cover, mem_normalize_of_unmergeable
      (Rect.partitions_overhang h).proper (Rect.unmergeable_overhang h)] at ht
    exact Sweep.mem_emitted_of_mem_overhang h (by decide) ht

end Pair

/-- The switch for the closed forms changes no list, except for a union. -/
theorem combine_fast_eq_swept {op : SetOp} (hop : op ≠ .or) {r s : Rect} (hr : r.InRange)
    (hs : s.InRange) :
    ∃ c, combine { coalesceBands := true, pairwiseFastPath := true } op [r] [s] = .ok c ∧
      combine { coalesceBands := true, pairwiseFastPath := false } op [r] [s] = .ok c := by
  have hsr := sweepable_singleton hr
  have hss := sweepable_singleton hs
  have hslow := Combination.outcome_ofNonempty hsr.nonempty hss.nonempty (proper_nonempty [r])
    (proper_nonempty [s]) .word { coalesceBands := true, pairwiseFastPath := false } op (by simp)
  by_cases hproper : ¬ r.IsEmpty ∧ ¬ s.IsEmpty
  · have hr' : nonempty [r] = [r] := Proper.nonempty_eq (by simpa [Proper] using hproper.1)
    have hs' : nonempty [s] = [s] := Proper.nonempty_eq (by simpa [Proper] using hproper.2)
    refine ⟨_, ?_, hslow⟩
    rw [combine, Combination.ofOperands, hr', hs',
      Combination.outcome_ofNonempty_singletons _ _ rfl hr hs]
    cases op with
    | and => rw [swept_and ⟨hr, hproper.1⟩ ⟨hs, hproper.2⟩]
    | or => exact absurd rfl hop
    | xor => rw [swept_xor ⟨hr, hproper.1⟩ ⟨hs, hproper.2⟩]
    | diff => rw [swept_diff ⟨hr, hproper.1⟩ ⟨hs, hproper.2⟩]
  · refine ⟨_, ?_, hslow⟩
    apply Combination.outcome_ofNonempty hsr.nonempty hss.nonempty (proper_nonempty [r])
      (proper_nonempty [s])
    rintro ⟨_, hlength, hlength'⟩
    apply hproper
    constructor
    · intro hempty
      simp [nonempty, hempty] at hlength
    · intro hempty
      simp [nonempty, hempty] at hlength'

theorem combine_fast_eq_swept_crossing :
    SetOp.xor ≠ .or ∧ ∃ c,
      combine { coalesceBands := true, pairwiseFastPath := true } .xor
        [⟨minBound, 6, 2, 4⟩] [⟨1, 3, 0, maxBound⟩] = .ok c ∧
      combine { coalesceBands := true, pairwiseFastPath := false } .xor
        [⟨minBound, 6, 2, 4⟩] [⟨1, 3, 0, maxBound⟩] = .ok c :=
  ⟨by decide, combine_fast_eq_swept (by decide) (by decide) (by decide)⟩

end Cover

end Rectilinear
