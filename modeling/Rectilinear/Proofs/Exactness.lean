import Rectilinear.Combine
import Rectilinear.Proofs.ClosedForms
import Rectilinear.Proofs.Emission

/-!
# Set operations are exact

A set operation on two operands succeeds, and gives the canonical cover of the points for which it
holds.  Neither the settings nor the arithmetic have a part in this.
-/

namespace Rectilinear

namespace Cover

theorem coverage_singleton_pos {r : Rect} {x y : Int} : 0 < coverage [r] x y ↔ r.Contains x y := by
  rw [coverage_pos_iff]
  simp

end Cover

theorem SetOp.exact_closedForm {r s : Rect} (hr : r.InRange) (hs : s.InRange) (op : SetOp) :
    (op.closedForm .exact r s).Exact fun x y =>
      op.Holds (Cover.coverage [r] x y) (Cover.coverage [s] x y) := by
  have hzero : ∀ x y, Cover.coverage [s] x y = 0 ↔ ¬ s.Contains x y := by
    intro x y
    rw [← Cover.coverage_singleton_pos]
    omega
  cases op <;> simp only [SetOp.Holds, Cover.coverage_singleton_pos, hzero, SetOp.closedForm]
  · exact ClosedForm.exact_inter hr hs
  · exact ClosedForm.exact_union hr hs
  · exact ClosedForm.exact_symmDiff hr hs
  · exact ClosedForm.exact_diff hr hs

def Cover.swept (coalesce : Bool) (op : SetOp) (a b : Cover) : Cover :=
  Cover.normalize (Sweep.through coalesce op (Edge.ofOperands a b)).emitted

namespace Combination

/-- A combination without an error, whose cover is canonical and has the points asked for. -/
def Exact (combination : Combination) (points : Int → Int → Prop) : Prop :=
  ∃ c, combination.outcome = .ok c ∧ c.Canonical ∧ c.Partitions points

section Operands

variable {a b : Cover} (hsa : a.Sweepable) (hsb : b.Sweepable)

include hsa hsb

section Proper

variable (ha : a.Proper) (hb : b.Proper)

include ha hb

theorem swept_exact (coalesce : Bool) (op : SetOp) :
    (Cover.swept coalesce op a b).Canonical ∧
      (Cover.swept coalesce op a b).Partitions fun x y =>
        op.Holds (a.coverage x y) (b.coverage x y) :=
  (Sweep.partitions_ofOperands ha hb hsa hsb coalesce op).nonempty.normalize

theorem swept_eq_of_mem_emitted {coalesce : Bool} {op : SetOp} {c : Cover} (hc : c.Canonical)
    (hpartitions : c.Partitions fun x y => op.Holds (a.coverage x y) (b.coverage x y))
    (hsub : ∀ r ∈ c, r ∈ (Sweep.through coalesce op (Edge.ofOperands a b)).emitted) :
    Cover.swept coalesce op a b = c := by
  have hperm := hpartitions.perm_of_subset
    (Sweep.partitions_ofOperands ha hb hsa hsb coalesce op) hsub
  have hparts := Cover.canonical_iff.mp hc
  rw [Cover.swept, ← Cover.normalize_eq_of_perm hparts.1 hparts.2.2.2 hperm,
    Cover.normalize_of_canonical hc]

theorem outcome_ofSweep (arith : Arith) (coalesce : Bool) (op : SetOp) :
    (ofSweep arith coalesce op a b).outcome = .ok (Cover.swept coalesce op a b) := by
  simp only [ofSweep, Sweep.ofOperands_eq ha hb hsa hsb arith coalesce op]
  rfl

/-- All but two single rectangles on the fast path is swept.  Where an empty operand decides the
result early, a sweep would give nothing as well. -/
theorem outcome_ofNonempty (arith : Arith) (settings : Settings) (op : SetOp)
    (h : ¬ (settings.pairwiseFastPath = true ∧ a.length = 1 ∧ b.length = 1)) :
    (ofNonempty arith settings op a b).outcome =
      .ok (Cover.swept settings.coalesceBands op a b) := by
  have hpartitions := (swept_exact hsa hsb ha hb settings.coalesceBands op).2
  unfold ofNonempty
  split
  · rw [hpartitions.eq_nil (by simp [SetOp.Holds, Cover.coverage])]
  · rw [hpartitions.eq_nil (by simp [SetOp.Holds, Cover.coverage])]
  · rw [hpartitions.eq_nil (by simp [SetOp.Holds, Cover.coverage])]
  · rw [if_neg fun hfast => h ⟨hfast, rfl, rfl⟩]
    exact outcome_ofSweep hsa hsb ha hb arith settings.coalesceBands _
  · exact outcome_ofSweep hsa hsb ha hb arith settings.coalesceBands _

omit hsa hsb ha hb in
theorem outcome_ofNonempty_singletons (arith : Arith) {settings : Settings} (op : SetOp)
    (h : settings.pairwiseFastPath = true) {r s : Rect} (hr : r.InRange) (hs : s.InRange) :
    (ofNonempty arith settings op [r] [s]).outcome = .ok (op.closedForm .exact r s).cover := by
  have hform : op.closedFormM arith.steps r s = .ok (op.closedForm .exact r s) :=
    ClosedForm.closedFormM_eq arith.exactInRange_steps hr hs op
  cases op <;> simp [ofNonempty, ofClosedForm, h, hform]

theorem exact_ofNonempty (arith : Arith) (settings : Settings) (op : SetOp) :
    (ofNonempty arith settings op a b).Exact fun x y =>
      op.Holds (a.coverage x y) (b.coverage x y) := by
  by_cases hfast : settings.pairwiseFastPath = true ∧ a.length = 1 ∧ b.length = 1
  · rcases hfast with ⟨hfast, hlength, hlength'⟩
    rcases List.length_eq_one_iff.mp hlength with ⟨r, rfl⟩
    rcases List.length_eq_one_iff.mp hlength' with ⟨s, rfl⟩
    have hr : r.InRange := hsa.inRange r (by simp)
    have hs : s.InRange := hsb.inRange s (by simp)
    have hform := SetOp.exact_closedForm hr hs op
    exact ⟨_, outcome_ofNonempty_singletons arith op hfast hr hs, hform.canonical,
      hform.partitions⟩
  · exact ⟨_, outcome_ofNonempty hsa hsb ha hb arith settings op hfast,
      swept_exact hsa hsb ha hb settings.coalesceBands op⟩

end Proper

theorem exact_ofOperands (arith : Arith) (settings : Settings) (op : SetOp) :
    (ofOperands arith settings op a b).Exact fun x y =>
      op.Holds (a.coverage x y) (b.coverage x y) := by
  have h := exact_ofNonempty hsa.nonempty hsb.nonempty (Cover.proper_nonempty a)
    (Cover.proper_nonempty b) arith settings op
  simp only [Cover.coverage_nonempty] at h
  exact h

end Operands

end Combination

namespace Cover

theorem combine_exact (settings : Settings) (op : SetOp) {a b : Cover} (hsa : a.Sweepable)
    (hsb : b.Sweepable) :
    ∃ c, combine settings op a b = .ok c ∧ c.Canonical ∧ c.InRange ∧
      ∀ x y, c.Contains x y ↔ op.Holds (a.coverage x y) (b.coverage x y) := by
  rcases Combination.exact_ofOperands hsa hsb .word settings op with
    ⟨c, houtcome, hcanonical, hpartitions⟩
  exact ⟨c, houtcome, hcanonical, hpartitions.inRange, hpartitions.contains_iff⟩

theorem combine_exact_overlapping :
    ∃ c, combine { coalesceBands := false } .xor
        [⟨0, 4, 0, 4⟩, ⟨2, 6, 2, maxBound⟩, ⟨0, 4, 0, 4⟩, ⟨3, 1, 0, 0⟩]
        [⟨minBound, maxBound, 3, 5⟩, ⟨1, 1, minBound, 3⟩] = .ok c ∧
      c.Canonical ∧ c.InRange ∧ ∀ x y, c.Contains x y ↔
        SetOp.xor.Holds
          (coverage [⟨0, 4, 0, 4⟩, ⟨2, 6, 2, maxBound⟩, ⟨0, 4, 0, 4⟩, ⟨3, 1, 0, 0⟩] x y)
          (coverage [⟨minBound, maxBound, 3, 5⟩, ⟨1, 1, minBound, 3⟩] x y) :=
  combine_exact _ _ (sweepable_of_length (by decide) (by decide))
    (sweepable_of_length (by decide) (by decide))

end Cover

end Rectilinear
