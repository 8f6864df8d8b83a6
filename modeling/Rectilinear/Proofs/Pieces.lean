import Rectilinear.Proofs.Axes
import Rectilinear.Proofs.Overhang

/-!
# Pieces of closed forms

In range, a closed form does not depend on the arithmetic.  Where one of two rectangles spans the
other on an axis, a union keeps it whole and cuts the other one; where neither does, it splits off
the rows that they share.
-/

namespace Rectilinear

/-!
## Arithmetic

A piece moves a bound past that of the other rectangle only where the two bounds differ, so that no
step leaves the range.
-/

section Steps

variable {m : Type → Type} [Monad m] {steps : Steps m} (h : steps.ExactInRange)

include h

theorem Steps.ExactInRange.settleFarM_eq {low far : Int} (hlow : InRange low)
    (hfar : InRange far) : steps.settleFarM low far = pure (Steps.exact.settleFar low far) := by
  rw [Steps.settleFarM, Steps.settleFar_exact]
  split
  · apply h.collapsed
    simp only [InRange] at *
    omega
  · rfl

variable [LawfulMonad m] {r s : Rect} (hr : r.InRange) (hs : s.InRange)

include hr hs

theorem Rect.clipM_eq : r.clipM steps s = pure (r.clipWith .exact s) := by
  have hcolumns := h.settleFarM_eq (inRange_max hr.1 hs.1) (inRange_min hr.2.1 hs.2.1)
  have hrows := h.settleFarM_eq (inRange_max hr.2.2.1 hs.2.2.1) (inRange_min hr.2.2.2 hs.2.2.2)
  rw [clipM, hcolumns, hrows, pure_bind, pure_bind]
  rfl

namespace ClosedForm

theorem besideM_eq : besideM steps r s = pure (beside .exact r s) := by
  simp only [Rect.InRange, InRange] at hr hs
  rw [besideM, singletonIf_prev h _ (by simp only [InRange]; omega), pure_bind,
    singletonIf_next h _ (by simp only [InRange]; omega), pure_bind]
  rfl

theorem belowAboveM_eq : belowAboveM steps r s = pure (belowAbove .exact r s) := by
  simp only [Rect.InRange, InRange] at hr hs
  rw [belowAboveM, singletonIf_prev h _ (by simp only [InRange]; omega), pure_bind,
    singletonIf_next h _ (by simp only [InRange]; omega), pure_bind]
  rfl

theorem staggeredM_eq {overlap : Rect} (hbottom : InRange overlap.bottom)
    (htop : InRange overlap.top) :
    staggeredM steps r s overlap = pure (staggered .exact r s overlap) := by
  simp only [Rect.InRange, InRange] at hr hs hbottom htop
  simp only [staggeredM]
  rw [singletonIf_next h _ (by simp only [InRange]; split_ifs <;> omega), pure_bind,
    singletonIf_prev h _ (by simp only [InRange]; split_ifs <;> omega), pure_bind]
  rfl

theorem stripsM_eq : stripsM steps r s = pure (strips .exact r s) := by
  simp only [Rect.InRange, InRange] at hr hs
  simp only [stripsM]
  rw [singletonIf_prev h _ (by simp only [InRange]; omega), pure_bind,
    singletonIf_prev h _ (by simp only [InRange]; omega), pure_bind,
    singletonIf_next h _ (by simp only [InRange]; omega), pure_bind,
    singletonIf_next h _ (by simp only [InRange]; omega), pure_bind]
  rfl

theorem interM_eq : interM steps r s = pure (inter .exact r s) := by
  rw [interM, Rect.clipM_eq h hr hs, pure_bind]
  rfl

theorem unionM_eq : unionM steps r s = pure (union .exact r s) := by
  rw [union_exact, unionM]
  split
  · rfl
  · rename_i hnot
    have hoverlap := Rect.Overlap.of_not hr hs hnot
    have hbounds := hoverlap.bounds
    split
    · rfl
    split
    · rfl
    · rw [Rect.clipM_eq h hr hs, pure_bind]
      dsimp only
      split
      · rw [besideM_eq h hr hs, pure_bind]
      split
      · rw [besideM_eq h hs hr, pure_bind]
      split
      · rw [belowAboveM_eq h hr hs, pure_bind]
      split
      · rw [belowAboveM_eq h hs hr, pure_bind]
      · rw [hoverlap.clipWith_eq, staggeredM_eq h hr hs, pure_bind]
        · simp only [InRange]
          omega
        · simp only [InRange]
          omega

theorem symmDiffM_eq : symmDiffM steps r s = pure (symmDiff .exact r s) := by
  rw [symmDiff_exact, symmDiffM, stripsM_eq h hr hs, pure_bind]
  split
  · rfl
  split
  · rfl
  · rfl

theorem diffM_eq : diffM steps r s = pure (diff .exact r s) := by
  rw [diff_exact, diffM, stripsM_eq h hr hs, pure_bind]
  split
  · rfl
  split
  · rfl
  · rfl

/-- In range, a closed form does not depend on how its steps are done. -/
theorem closedFormM_eq (op : SetOp) :
    op.closedFormM steps r s = pure (op.closedForm .exact r s) := by
  cases op with
  | and => exact interM_eq h hr hs
  | or => exact unionM_eq h hr hs
  | xor => exact symmDiffM_eq h hr hs
  | diff => exact diffM_eq h hr hs

end ClosedForm

end Steps

theorem Rect.contains_clipWith_iff {r s : Rect} {x y : Int} :
    (r.clipWith .exact s).Contains x y ↔ r.Contains x y ∧ s.Contains x y := by
  simp only [contains_iff, clipWith_eq, Steps.settleFar_exact]
  split_ifs <;> omega

theorem Rect.clip_eq {r s : Rect} (hr : r.InRange) (hs : s.InRange) :
    r.clip s = r.clipWith .exact s :=
  clipM_eq Steps.exactInRange_word hr hs

namespace ClosedForm

theorem closedForm_word_eq {r s : Rect} (hr : r.InRange) (hs : s.InRange) (op : SetOp) :
    op.closedForm .word r s = op.closedForm .exact r s := by
  cases op with
  | and => exact interM_eq Steps.exactInRange_word hr hs
  | or => exact unionM_eq Steps.exactInRange_word hr hs
  | xor => exact symmDiffM_eq Steps.exactInRange_word hr hs
  | diff => exact diffM_eq Steps.exactInRange_word hr hs

/-!
## Pieces of a union

One rectangle stays whole and the other loses the columns, or the rows, that the two share; or the
rows that two staggered rectangles share are split off first.
-/

theorem mem_beside_iff {r s t : Rect} :
    t ∈ beside .exact r s ↔
      r.left < s.left ∧ t = { r with right := s.left - 1 } ∨
        s.right < r.right ∧ t = { r with left := s.right + 1 } := by
  rw [beside_exact]
  simp only [List.mem_append, List.mem_ite_nil_right, List.mem_singleton]

theorem contains_cons_beside_iff {r s : Rect} (h : Rect.Overlap r s)
    (hbottom : s.bottom ≤ r.bottom) (htop : r.top ≤ s.top) {x y : Int} :
    Cover.Contains (s :: beside .exact r s) x y ↔ r.Contains x y ∨ s.Contains x y := by
  have hbounds := h.bounds
  rw [Cover.contains_cons]
  constructor
  · rintro (hs | ⟨t, ht, hxy⟩)
    · exact .inr hs
    · left
      rcases mem_beside_iff.mp ht with ⟨_, rfl⟩ | ⟨_, rfl⟩ <;>
        simp only [Rect.contains_iff] at hxy ⊢ <;> omega
  · rintro (hr | hs)
    · rw [Rect.contains_iff] at hr
      by_cases hleft : x < s.left
      · refine .inr ⟨_, mem_beside_iff.mpr (.inl ⟨by omega, rfl⟩), ?_⟩
        simp only [Rect.contains_iff]
        omega
      · by_cases hright : s.right < x
        · refine .inr ⟨_, mem_beside_iff.mpr (.inr ⟨by omega, rfl⟩), ?_⟩
          simp only [Rect.contains_iff]
          omega
        · left
          rw [Rect.contains_iff]
          omega
    · exact .inl hs

theorem partitions_cons_beside {r s : Rect} (h : Rect.Overlap r s) (hbottom : s.bottom ≤ r.bottom)
    (htop : r.top ≤ s.top) :
    Cover.Partitions (s :: beside .exact r s) fun x y => r.Contains x y ∨ s.Contains x y := by
  have hbounds := h.bounds
  constructor
  · intro t ht
    rcases List.mem_cons.mp ht with rfl | ht
    · exact h.right.2
    · rw [Rect.not_isEmpty_iff]
      rcases mem_beside_iff.mp ht with ⟨_, rfl⟩ | ⟨_, rfl⟩ <;> simp only <;> omega
  · intro t ht
    rcases List.mem_cons.mp ht with rfl | ht
    · exact h.right.1
    · simp only [Rect.InRange, InRange]
      rcases mem_beside_iff.mp ht with ⟨_, rfl⟩ | ⟨_, rfl⟩ <;> simp only <;> omega
  · rw [beside_exact]
    refine List.pairwise_cons.mpr
      ⟨?_, List.pairwise_append.mpr ⟨Cover.apart_ite .., Cover.apart_ite .., ?_⟩⟩
    · intro t ht
      rcases mem_beside_iff.mp ht with ⟨_, rfl⟩ | ⟨_, rfl⟩ <;> simp only [Rect.Intersects] <;> omega
    · intro t ht u hu
      simp only [List.mem_ite_nil_right, List.mem_singleton] at ht hu
      rw [ht.2, hu.2]
      simp only [Rect.Intersects]
      omega
  · intro x y
    exact contains_cons_beside_iff h hbottom htop

theorem map_transpose_beside (r s : Rect) :
    (beside .exact r.transpose s.transpose).map Rect.transpose = belowAbove .exact r s := by
  rw [beside_exact, belowAbove_exact, List.map_append]
  simp only [Rect.transpose]
  congr 1
  · by_cases hlt : r.bottom < s.bottom <;> simp [hlt, Rect.transpose]
  · by_cases hlt : s.top < r.top <;> simp [hlt, Rect.transpose]

theorem partitions_cons_belowAbove {r s : Rect} (h : Rect.Overlap r s) (hleft : s.left ≤ r.left)
    (hright : r.right ≤ s.right) :
    Cover.Partitions (s :: belowAbove .exact r s) fun x y => r.Contains x y ∨ s.Contains x y := by
  have hpieces := (partitions_cons_beside h.transpose hleft hright).map_transpose
  rw [List.map_cons, map_transpose_beside] at hpieces
  refine hpieces.congr ?_
  intro x y
  rw [Rect.contains_transpose, Rect.contains_transpose]

/-- Here `r` is the lower rectangle and `s` the upper one. -/
theorem partitions_steps {r s : Rect} (h : Rect.Overlap r s) (hbottom : r.bottom < s.bottom)
    (htop : r.top < s.top) :
    Cover.Partitions
      [⟨min r.left s.left, max r.right s.right, s.bottom, r.top⟩, { s with bottom := r.top + 1 },
        { r with top := s.bottom - 1 }]
      fun x y => r.Contains x y ∨ s.Contains x y := by
  have hbounds := h.bounds
  constructor
  · simp only [Cover.Proper, List.forall_mem_cons, Rect.not_isEmpty_iff]
    exact ⟨by omega, by omega, by omega, by simp⟩
  · simp only [Cover.InRange, List.forall_mem_cons, Rect.InRange, InRange]
    exact ⟨by omega, by omega, by omega, by simp⟩
  · simp only [Cover.Apart, List.pairwise_cons, List.forall_mem_cons, Rect.Intersects]
    exact ⟨⟨by omega, by omega, by simp⟩, ⟨by omega, by simp⟩, by simp, List.Pairwise.nil⟩
  · intro x y
    simp only [Cover.contains_cons, Cover.contains_nil, or_false, Rect.contains_iff]
    omega

theorem staggered_of_lower {r s : Rect} {left right : Int} (hbottom : r.bottom < s.bottom)
    (htop : r.top < s.top) :
    staggered .exact r s ⟨left, right, max r.bottom s.bottom, min r.top s.top⟩ =
      [⟨min r.left s.left, max r.right s.right, s.bottom, r.top⟩, { s with bottom := r.top + 1 },
        { r with top := s.bottom - 1 }] := by
  simp only [staggered_exact, Int.max_eq_right (Int.le_of_lt hbottom),
    Int.min_eq_left (Int.le_of_lt htop), Int.lt_irrefl, if_false, if_pos hbottom, if_pos htop,
    List.cons_append, List.nil_append]

theorem staggered_of_upper {r s : Rect} {left right : Int} (hbottom : s.bottom < r.bottom)
    (htop : s.top < r.top) :
    staggered .exact r s ⟨left, right, max r.bottom s.bottom, min r.top s.top⟩ =
      [⟨min s.left r.left, max s.right r.right, r.bottom, s.top⟩, { r with bottom := s.top + 1 },
        { s with top := r.bottom - 1 }] := by
  simp only [staggered_exact, Int.max_eq_left (Int.le_of_lt hbottom),
    Int.min_eq_right (Int.le_of_lt htop), Int.lt_irrefl, if_false, if_pos hbottom, if_pos htop,
    List.cons_append, List.nil_append, Int.min_comm s.left, Int.max_comm s.right]

end ClosedForm

end Rectilinear
