import Rectilinear.Proofs.CanonicalPoints
import Rectilinear.Proofs.Symmetry

/-!
# Numbers of pieces

A symmetric difference of two overlapping rectangles has one piece for each side on which they
differ, and a difference one for each side on which the first reaches further out.  Normalizing
merges none of these.  A union takes three pieces at most, and one piece is enough exactly when the
bounding box holds no further point.
-/

namespace Rectilinear

inductive Side where
  | left
  | bottom
  | right
  | top
  deriving DecidableEq, Repr

def Side.all : List Side :=
  [.left, .bottom, .right, .top]

theorem Side.countP_all (p : Side → Prop) [DecidablePred p] :
    Side.all.countP (fun side => p side) =
      (if p .left then 1 else 0) + (if p .bottom then 1 else 0) + (if p .right then 1 else 0) +
        (if p .top then 1 else 0) := by
  simp only [all, List.countP_cons, List.countP_nil, decide_eq_true_eq]
  omega

namespace Rect

def boundOn (r : Rect) : Side → Int
  | .left => r.left
  | .bottom => r.bottom
  | .right => r.right
  | .top => r.top

/-- On a side, `r` reaches strictly further out than `s`. -/
def Beyond (r s : Rect) : Side → Prop
  | .left => r.left < s.left
  | .bottom => r.bottom < s.bottom
  | .right => s.right < r.right
  | .top => s.top < r.top

instance (r s : Rect) : DecidablePred (r.Beyond s)
  | .left => inferInstanceAs (Decidable (r.left < s.left))
  | .bottom => inferInstanceAs (Decidable (r.bottom < s.bottom))
  | .right => inferInstanceAs (Decidable (s.right < r.right))
  | .top => inferInstanceAs (Decidable (s.top < r.top))

/-- What is left of `r` around a rectangle strictly inside it. -/
def frame (r s : Rect) : Cover :=
  [⟨r.left, s.left - 1, r.bottom, r.top⟩, ⟨s.left, s.right, r.bottom, s.bottom - 1⟩,
    ⟨s.right + 1, r.right, r.bottom, r.top⟩, ⟨s.left, s.right, s.top + 1, r.top⟩]

/-!
## Strips of an overhang

An overhang has a strip for each side on which the rectangle reaches further.  Around a rectangle
strictly inside, it is a frame of four strips in order, and the inner rectangle has no strips of its
own.
-/

theorem length_overhang (r s : Rect) :
    (r.overhang s).length = Side.all.countP fun side => r.Beyond s side := by
  rw [Side.countP_all]
  show (r.overhang s).length = (if r.left < s.left then 1 else 0) +
    (if r.bottom < s.bottom then 1 else 0) + (if s.right < r.right then 1 else 0) +
      (if s.top < r.top then 1 else 0)
  simp only [overhang, List.length_append, apply_ite List.length, List.length_nil,
    List.length_singleton]

section Frame

variable {r s : Rect} (hbeyond : ∀ side, r.Beyond s side)

include hbeyond

theorem overhang_of_beyond : r.overhang s = r.frame s := by
  have hleft : r.left < s.left := hbeyond .left
  have hright : s.right < r.right := hbeyond .right
  have hbottom : r.bottom < s.bottom := hbeyond .bottom
  have htop : s.top < r.top := hbeyond .top
  have hlow : max r.left s.left = s.left := by omega
  have hhigh : min r.right s.right = s.right := by omega
  simp only [overhang, frame, if_pos hleft, if_pos hright, if_pos hbottom, if_pos htop, hlow,
    hhigh, List.cons_append, List.nil_append]

theorem overhang_eq_nil_of_beyond : s.overhang r = [] := by
  have hleft : ¬ s.left < r.left := Int.not_lt.mpr (Int.le_of_lt (hbeyond .left))
  have hright : ¬ r.right < s.right := Int.not_lt.mpr (Int.le_of_lt (hbeyond .right))
  have hbottom : ¬ s.bottom < r.bottom := Int.not_lt.mpr (Int.le_of_lt (hbeyond .bottom))
  have htop : ¬ r.top < s.top := Int.not_lt.mpr (Int.le_of_lt (hbeyond .top))
  simp only [overhang, if_neg hleft, if_neg hright, if_neg hbottom, if_neg htop, List.append_nil]

theorem pairwise_le_frame (h : Overlap r s) : (r.frame s).Pairwise (· ≤ ·) := by
  have hbounds := h.bounds
  have hleft : r.left < s.left := hbeyond .left
  rw [← List.isChain_iff_pairwise]
  refine .cons_cons (.inr ⟨rfl, .inl hleft⟩) (.cons_cons (.inr ⟨rfl, .inl ?_⟩)
    (.cons_cons (.inl ?_) (.singleton _)))
  · show s.left < s.right + 1
    omega
  · show r.bottom < s.top + 1
    omega

theorem normalize_frame (h : Overlap r s) : (r.frame s).normalize = r.frame s := by
  have hsorted := pairwise_le_frame hbeyond h
  rw [← overhang_of_beyond hbeyond] at hsorted ⊢
  exact Cover.normalize_eq_self (partitions_overhang h).proper hsorted (unmergeable_overhang h)

end Frame

end Rect

namespace ClosedForm

/-!
## Symmetric differences and differences

No two strips are mergeable, so that normalizing keeps their number.
-/

theorem length_strips (r s : Rect) :
    (strips .exact r s).length =
      Side.all.countP fun side => r.boundOn side ≠ s.boundOn side := by
  rw [Side.countP_all]
  show (strips .exact r s).length = (if r.left ≠ s.left then 1 else 0) +
    (if r.bottom ≠ s.bottom then 1 else 0) + (if r.right ≠ s.right then 1 else 0) +
      (if r.top ≠ s.top then 1 else 0)
  simp only [strips_exact, List.length_append, apply_ite List.length, List.length_nil,
    List.length_singleton]

section Overlap

variable {r s : Rect} (h : Rect.Overlap r s)

include h

theorem cover_symmDiff :
    (symmDiff .exact r s).cover = Cover.normalize ((strips .exact r s).map Prod.fst) := by
  rw [symmDiff_exact, if_neg h.not_apart]
  by_cases heq : r = s
  · have hstrips : strips .exact r s = [] := by simp [strips_exact, heq]
    rw [if_pos heq, hstrips]
    exact (Cover.normalize_of_canonical Cover.canonical_nil).symm
  · rw [if_neg heq]
    rfl

theorem cover_diff : (diff .exact r s).cover = (r.overhang s).normalize := by
  have hnot := h.not_apart
  rw [not_or] at hnot
  rw [diff_exact, if_neg hnot.1, if_neg hnot.2, ← stripsOf_a]
  rfl

theorem length_cover_symmDiff :
    (symmDiff .exact r s).cover.length =
      Side.all.countP fun side => r.boundOn side ≠ s.boundOn side := by
  have hperm := (perm_strips r s).symm
  rw [cover_symmDiff h, Cover.length_normalize_of_unmergeable
    ((Rect.partitions_overhangs h).proper.perm hperm) ((Rect.unmergeable_overhangs h).perm hperm),
    List.length_map, length_strips]

theorem length_cover_diff :
    (diff .exact r s).cover.length = Side.all.countP fun side => r.Beyond s side := by
  rw [cover_diff h, Cover.length_normalize_of_unmergeable (Rect.partitions_overhang h).proper
    (Rect.unmergeable_overhang h), Rect.length_overhang]

theorem cover_symmDiff_of_beyond (hbeyond : ∀ side, r.Beyond s side) :
    (symmDiff .exact r s).cover = r.frame s := by
  have hperm := perm_strips r s
  rw [Rect.overhang_eq_nil_of_beyond hbeyond, List.append_nil] at hperm
  rw [cover_symmDiff h, ← Cover.normalize_eq_of_perm (Rect.partitions_overhang h).proper
    (Rect.unmergeable_overhang h) hperm.symm, Rect.overhang_of_beyond hbeyond,
    Rect.normalize_frame hbeyond h]

theorem cover_diff_of_beyond (hbeyond : ∀ side, r.Beyond s side) :
    (diff .exact r s).cover = r.frame s := by
  rw [cover_diff h, Rect.overhang_of_beyond hbeyond, Rect.normalize_frame hbeyond h]

/-!
## Unions

A union is one rectangle exactly if the two are mergeable.  In all other cases a rectangle is cut in
two at most, or two staggered ones in three.
-/

theorem length_cover_union_eq_one_iff :
    (union .exact r s).cover.length = 1 ↔ r.Mergeable s := by
  constructor
  · intro hlength
    rcases List.length_eq_one_iff.mp hlength with ⟨t, ht⟩
    have hexact := exact_union h.left.1 h.right.1
    rw [Rect.mergeable_iff_exists h.left.2 h.right.2]
    refine ⟨t, fun x y => ?_⟩
    rw [← hexact.partitions.contains_iff, ht]
    simp
  · intro hmergeable
    rw [cover_union_of_mergeable h hmergeable]
    rfl

end Overlap

theorem length_ite_le (p : Prop) [Decidable p] (t : Rect) :
    (if p then [t] else []).length ≤ 1 := by
  split <;> simp

theorem length_beside_le (r s : Rect) : (beside .exact r s).length ≤ 2 := by
  rw [beside_exact, List.length_append]
  exact Nat.add_le_add (length_ite_le _ _) (length_ite_le _ _)

theorem length_belowAbove_le (r s : Rect) : (belowAbove .exact r s).length ≤ 2 := by
  rw [← map_transpose_beside, List.length_map]
  exact length_beside_le _ _

theorem length_staggered_le (r s overlap : Rect) :
    (staggered .exact r s overlap).length ≤ 3 := by
  simp only [staggered_exact, List.length_append, List.length_cons]
  exact Nat.add_le_add (Nat.add_le_add_right (length_ite_le _ _) 1) (length_ite_le _ _)

theorem length_cover_union_le (r s : Rect) : (union .exact r s).cover.length ≤ 3 := by
  have hpieces : ∀ c : Cover, c.length ≤ 3 → (pieces c).cover.length ≤ 3 := by
    intro c hc
    exact Nat.le_trans (Cover.length_normalize_le c) hc
  simp only [union_exact]
  split
  · exact hpieces _ (by simp)
  split
  · simp [cover]
  split
  · simp [cover]
  split
  · exact hpieces _ (Nat.succ_le_succ (length_beside_le r s))
  split
  · exact hpieces _ (Nat.succ_le_succ (length_beside_le s r))
  split
  · exact hpieces _ (Nat.succ_le_succ (length_belowAbove_le r s))
  split
  · exact hpieces _ (Nat.succ_le_succ (length_belowAbove_le s r))
  · exact hpieces _ (length_staggered_le ..)

/-- How many rectangles the closed forms of overlapping rectangles have. -/
theorem closed_forms_piece_count {r s : Rect} (hr : r.InRange) (hs : s.InRange)
    (hrproper : ¬ r.IsEmpty) (hsproper : ¬ s.IsEmpty) (hintersects : r.Intersects s) :
    ((symmDiff .word r s).cover.length =
      Side.all.countP fun side => r.boundOn side ≠ s.boundOn side) ∧
    ((diff .word r s).cover.length = Side.all.countP fun side => r.Beyond s side) ∧
    ((∀ side, r.Beyond s side) →
      (symmDiff .word r s).cover = r.frame s ∧ (diff .word r s).cover = r.frame s) ∧
    (union .word r s).cover.length ≤ 3 ∧
    ((union .word r s).cover.length = 1 ↔
      ∀ x y, (r.hull s).Contains x y → r.Contains x y ∨ s.Contains x y) := by
  have h : Rect.Overlap r s := ⟨⟨hr, hrproper⟩, ⟨hs, hsproper⟩, hintersects⟩
  have hunion : union .word r s = union .exact r s := closedForm_word_eq hr hs .or
  have hsymmDiff : symmDiff .word r s = symmDiff .exact r s := closedForm_word_eq hr hs .xor
  have hdiff : diff .word r s = diff .exact r s := closedForm_word_eq hr hs .diff
  rw [hunion, hsymmDiff, hdiff]
  refine ⟨length_cover_symmDiff h, length_cover_diff h, ?_, length_cover_union_le r s, ?_⟩
  · intro hbeyond
    exact ⟨cover_symmDiff_of_beyond h hbeyond, cover_diff_of_beyond h hbeyond⟩
  · rw [length_cover_union_eq_one_iff h]
    exact Rect.mergeable_iff_contains_hull hrproper

theorem closed_forms_piece_count_plane :
    Rect.plane.InRange ∧ Rect.InRange ⟨3, 7, 0, 5⟩ ∧ ¬ Rect.plane.IsEmpty ∧
      ¬ Rect.IsEmpty ⟨3, 7, 0, 5⟩ ∧ Rect.plane.Intersects ⟨3, 7, 0, 5⟩ ∧
      (∀ side, Rect.plane.Beyond ⟨3, 7, 0, 5⟩ side) ∧
      (symmDiff .word Rect.plane ⟨3, 7, 0, 5⟩).cover.length = 4 ∧
      (diff .word Rect.plane ⟨3, 7, 0, 5⟩).cover =
        [⟨minBound, 2, minBound, maxBound⟩, ⟨3, 7, minBound, -1⟩,
          ⟨8, maxBound, minBound, maxBound⟩, ⟨3, 7, 6, maxBound⟩] ∧
      (union .word Rect.plane ⟨3, 7, 0, 5⟩).cover.length ≤ 3 := by
  have hr : Rect.plane.InRange := by decide
  have hs : Rect.InRange ⟨3, 7, 0, 5⟩ := by decide
  have hrproper : ¬ Rect.plane.IsEmpty := by decide
  have hsproper : ¬ Rect.IsEmpty ⟨3, 7, 0, 5⟩ := by decide
  have hintersects : Rect.plane.Intersects ⟨3, 7, 0, 5⟩ := by decide
  have hbeyond : ∀ side, Rect.plane.Beyond ⟨3, 7, 0, 5⟩ side := by
    intro side
    cases side <;> decide
  rcases closed_forms_piece_count hr hs hrproper hsproper hintersects with
    ⟨hsymmDiff, _, hframe, hunion, _⟩
  exact ⟨hr, hs, hrproper, hsproper, hintersects, hbeyond, hsymmDiff, (hframe hbeyond).2, hunion⟩

end ClosedForm

end Rectilinear
