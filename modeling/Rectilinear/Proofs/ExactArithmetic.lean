import Rectilinear.Proofs.Exactness

/-!
# Set operations do not overflow

On operands that a sweep can count, no step of arithmetic leaves the range of a word: closed forms
move a bound only past another one, bands are split only between two columns of theirs, rows turn
into bounds only where an edge has opened the band before, and counts tell how often points are
covered.  So arithmetic that is checked panics nowhere, and a set operation gives what it would give
on unbounded integers.
-/

namespace Rectilinear

namespace Combination

section Proper

variable {a b : Cover} (ha : a.Proper) (hb : b.Proper) (hsa : a.Sweepable) (hsb : b.Sweepable)
  (arith : Arith)

include ha hb hsa hsb

theorem ofSweep_eq_exact (coalesce : Bool) (op : SetOp) :
    ofSweep arith coalesce op a b = ofSweep .exact coalesce op a b := by
  rw [ofSweep, ofSweep, Sweep.ofOperands_eq ha hb hsa hsb arith coalesce op,
    Sweep.ofOperands_eq ha hb hsa hsb .exact coalesce op]

theorem ofNonempty_eq_exact (settings : Settings) (op : SetOp) :
    ofNonempty arith settings op a b = ofNonempty .exact settings op a b := by
  unfold ofNonempty
  split
  · rfl
  · rfl
  · rfl
  · rename_i r s
    have hr : r.InRange := hsa.inRange r (by simp)
    have hs : s.InRange := hsb.inRange s (by simp)
    split
    · rw [ofClosedForm, ofClosedForm, ClosedForm.closedFormM_eq arith.exactInRange_steps hr hs,
        ClosedForm.closedFormM_eq Arith.exact.exactInRange_steps hr hs]
    · exact ofSweep_eq_exact ha hb hsa hsb arith settings.coalesceBands _
  · exact ofSweep_eq_exact ha hb hsa hsb arith settings.coalesceBands _

end Proper

/-- A set operation succeeds in checked arithmetic, so that no step leaves the range of a word.  In
the arithmetic that runs and over unbounded integers it takes the same course, to the same cover. -/
theorem checked_eq_exact {a b : Cover} (hsa : a.Sweepable) (hsb : b.Sweepable)
    (settings : Settings) (op : SetOp) :
    ∃ c, (ofOperands .checked settings op a b).outcome = .ok c ∧
      Cover.combine settings op a b = .ok c ∧
      (ofOperands .exact settings op a b).outcome = .ok c ∧
      ofOperands .checked settings op a b = ofOperands .exact settings op a b ∧
      ofOperands .word settings op a b = ofOperands .exact settings op a b := by
  have hsame : ∀ arith, ofOperands arith settings op a b = ofOperands .exact settings op a b :=
    fun arith => ofNonempty_eq_exact (Cover.proper_nonempty a) (Cover.proper_nonempty b)
      hsa.nonempty hsb.nonempty arith settings op
  rcases exact_ofOperands hsa hsb .exact settings op with ⟨c, houtcome, _⟩
  refine ⟨c, ?_, ?_, houtcome, hsame .checked, hsame .word⟩
  · rw [hsame .checked, houtcome]
  · rw [Cover.combine, hsame .word, houtcome]

theorem checked_eq_exact_brim :
    let a : Cover := [⟨minBound, maxBound - 1, 0, maxBound⟩]
    let b : Cover := [⟨minBound + 1, maxBound, minBound, 3⟩]
    a.Sweepable ∧ b.Sweepable ∧
      ∃ c, (ofOperands .checked {} .xor a b).outcome = .ok c ∧
        Cover.combine {} .xor a b = .ok c ∧
        (ofOperands .exact {} .xor a b).outcome = .ok c ∧
        ofOperands .checked {} .xor a b = ofOperands .exact {} .xor a b ∧
        ofOperands .word {} .xor a b = ofOperands .exact {} .xor a b := by
  intro a b
  have hsa : a.Sweepable := Cover.sweepable_singleton (by decide)
  have hsb : b.Sweepable := Cover.sweepable_singleton (by decide)
  exact ⟨hsa, hsb, checked_eq_exact hsa hsb {} .xor⟩

/-- A step out of range is what the check is for: here it would go left of the least bound. -/
example : (ofOperands .checked {} .diff [⟨minBound - 3, 0, 0, 0⟩] [⟨minBound, 0, 0, 0⟩]).outcome =
    .error (.panic .overflow) := by
  rfl

end Combination

end Rectilinear
