import Rectilinear.ClosedForm
import Rectilinear.Proofs.NormalForm

/-!
# Overhangs

The part of a rectangle beyond another one that it intersects falls into strips, one for each side
on which it reaches further.  The strips of a difference are the overhang of one rectangle over the
other; those of a symmetric difference are the overhangs both ways.
-/

namespace Rectilinear

namespace Rect

/-- The part of `r` beyond `s`, in strips: left, below, right and above. -/
def overhang (r s : Rect) : Cover :=
  (if r.left < s.left then [⟨r.left, s.left - 1, r.bottom, r.top⟩] else []) ++
  (if r.bottom < s.bottom then
    [⟨max r.left s.left, min r.right s.right, r.bottom, s.bottom - 1⟩] else []) ++
  (if s.right < r.right then [⟨s.right + 1, r.right, r.bottom, r.top⟩] else []) ++
  (if s.top < r.top then [⟨max r.left s.left, min r.right s.right, s.top + 1, r.top⟩] else [])

structure Overlap (r s : Rect) : Prop where
  left : Rect.InRange r ∧ ¬ r.IsEmpty
  right : Rect.InRange s ∧ ¬ s.IsEmpty
  intersects : r.Intersects s

theorem Overlap.symm {r s : Rect} (h : Overlap r s) : Overlap s r :=
  ⟨h.right, h.left, h.intersects.symm⟩

theorem Overlap.transpose {r s : Rect} (h : Overlap r s) : Overlap r.transpose s.transpose := by
  refine ⟨⟨inRange_transpose.mpr h.left.1, ?_⟩, ⟨inRange_transpose.mpr h.right.1, ?_⟩,
    intersects_transpose.mpr h.intersects⟩
  · rw [isEmpty_transpose]
    exact h.left.2
  · rw [isEmpty_transpose]
    exact h.right.2

theorem Overlap.bounds {r s : Rect} (h : Overlap r s) :
    (minBound ≤ r.left ∧ r.left ≤ r.right ∧ r.right ≤ maxBound ∧
      minBound ≤ r.bottom ∧ r.bottom ≤ r.top ∧ r.top ≤ maxBound) ∧
    (minBound ≤ s.left ∧ s.left ≤ s.right ∧ s.right ≤ maxBound ∧
      minBound ≤ s.bottom ∧ s.bottom ≤ s.top ∧ s.top ≤ maxBound) ∧
    r.left ≤ s.right ∧ s.left ≤ r.right ∧ r.bottom ≤ s.top ∧ s.bottom ≤ r.top := by
  rcases h with ⟨⟨hr, hrsides⟩, ⟨hs, hssides⟩, hintersects⟩
  rw [not_isEmpty_iff] at hrsides hssides
  simp only [InRange, Rectilinear.InRange] at hr hs
  exact ⟨by omega, by omega, hintersects⟩

theorem Overlap.of_not {r s : Rect} (hr : r.InRange) (hs : s.InRange)
    (h : ¬ (r.IsEmpty ∨ s.IsEmpty ∨ ¬ r.Intersects s)) : Overlap r s := by
  rw [not_or, not_or, Decidable.not_not] at h
  exact ⟨⟨hr, h.1⟩, ⟨hs, h.2.1⟩, h.2.2⟩

theorem Overlap.not_apart {r s : Rect} (h : Overlap r s) :
    ¬ (r.IsEmpty ∨ s.IsEmpty ∨ ¬ r.Intersects s) := by
  simp [h.left.2, h.right.2, h.intersects]

theorem Overlap.clipWith_eq {r s : Rect} (h : Overlap r s) (steps : Steps Id) :
    r.clipWith steps s =
      ⟨max r.left s.left, min r.right s.right, max r.bottom s.bottom, min r.top s.top⟩ := by
  have hbounds := h.bounds
  have hx : max r.left s.left ≤ min r.right s.right := by omega
  have hy : max r.bottom s.bottom ≤ min r.top s.top := by omega
  rw [Rect.clipWith_eq, Steps.settleFar_of_le hx, Steps.settleFar_of_le hy]

/-- The columns of the overlap start with those of `r`, or else `r` alone has the column before. -/
theorem Overlap.columns_start {r s : Rect} (h : Overlap r s) :
    max r.left s.left = r.left ∨
      r.ContainsX (max r.left s.left - 1) ∧ ¬ s.ContainsX (max r.left s.left - 1) := by
  have hbounds := h.bounds
  simp only [ContainsX]
  omega

theorem Overlap.columns_end {r s : Rect} (h : Overlap r s) :
    min r.right s.right = r.right ∨
      r.ContainsX (min r.right s.right + 1) ∧ ¬ s.ContainsX (min r.right s.right + 1) := by
  have hbounds := h.bounds
  simp only [ContainsX]
  omega

/-!
## The overhang

The overhang splits the difference of two overlapping rectangles, and the overhangs both ways split
the symmetric difference.  Neighbouring strips of one rectangle end in different rows and columns,
and those of the two lie on different sides, so that nothing is left to merge.
-/

theorem mem_overhang {r s t : Rect} :
    t ∈ r.overhang s ↔
      r.left < s.left ∧ t = ⟨r.left, s.left - 1, r.bottom, r.top⟩ ∨
      r.bottom < s.bottom ∧
        t = ⟨max r.left s.left, min r.right s.right, r.bottom, s.bottom - 1⟩ ∨
      s.right < r.right ∧ t = ⟨s.right + 1, r.right, r.bottom, r.top⟩ ∨
      s.top < r.top ∧ t = ⟨max r.left s.left, min r.right s.right, s.top + 1, r.top⟩ := by
  simp only [overhang, List.mem_append, List.mem_ite_nil_right, List.mem_singleton, or_assoc]

theorem apart_overhang {r s : Rect} (h : Overlap r s) : (r.overhang s).Apart := by
  have hbounds := h.bounds
  have hside := Cover.apart_ite
  simp only [Cover.Apart] at hside
  simp only [Cover.Apart, overhang, List.pairwise_append, hside, List.mem_append,
    List.mem_ite_nil_right, List.mem_singleton, true_and]
  refine ⟨⟨?_, ?_⟩, ?_⟩
  · rintro t ⟨_, rfl⟩ u ⟨_, rfl⟩
    simp only [Intersects]
    omega
  · rintro t (⟨_, rfl⟩ | ⟨_, rfl⟩) u ⟨_, rfl⟩
    · simp only [Intersects]
      omega
    · simp only [Intersects]
      omega
  · rintro t ((⟨_, rfl⟩ | ⟨_, rfl⟩) | ⟨_, rfl⟩) u ⟨_, rfl⟩
    · simp only [Intersects]
      omega
    · simp only [Intersects]
      omega
    · simp only [Intersects]
      omega

theorem partitions_overhang {r s : Rect} (h : Overlap r s) :
    (r.overhang s).Partitions fun x y => r.Contains x y ∧ ¬ s.Contains x y := by
  have hbounds := h.bounds
  refine ⟨?_, ?_, apart_overhang h, ?_⟩
  · intro t ht
    rw [not_isEmpty_iff]
    rcases mem_overhang.mp ht with ⟨_, rfl⟩ | ⟨_, rfl⟩ | ⟨_, rfl⟩ | ⟨_, rfl⟩ <;>
      simp only <;> omega
  · intro t ht
    simp only [InRange, Rectilinear.InRange]
    rcases mem_overhang.mp ht with ⟨_, rfl⟩ | ⟨_, rfl⟩ | ⟨_, rfl⟩ | ⟨_, rfl⟩ <;>
      simp only <;> omega
  · intro x y
    constructor
    · rintro ⟨t, ht, hxy⟩
      rcases mem_overhang.mp ht with ⟨_, rfl⟩ | ⟨_, rfl⟩ | ⟨_, rfl⟩ | ⟨_, rfl⟩ <;>
        simp only [contains_iff] at hxy ⊢ <;> omega
    · rintro ⟨hr, hs⟩
      rw [contains_iff] at hr hs
      have hside : x < s.left ∨ s.right < x ∨
          s.left ≤ x ∧ x ≤ s.right ∧ (y < s.bottom ∨ s.top < y) := by omega
      rcases hside with hleft | hright | ⟨hlow, hhigh, hbelow | habove⟩
      · refine ⟨_, mem_overhang.mpr (.inl ⟨by omega, rfl⟩), ?_⟩
        simp only [contains_iff]
        omega
      · refine ⟨_, mem_overhang.mpr (.inr (.inr (.inl ⟨by omega, rfl⟩))), ?_⟩
        simp only [contains_iff]
        omega
      · refine ⟨_, mem_overhang.mpr (.inr (.inl ⟨by omega, rfl⟩)), ?_⟩
        simp only [contains_iff]
        omega
      · refine ⟨_, mem_overhang.mpr (.inr (.inr (.inr ⟨by omega, rfl⟩))), ?_⟩
        simp only [contains_iff]
        omega

theorem partitions_overhangs {r s : Rect} (h : Overlap r s) :
    Cover.Partitions (r.overhang s ++ s.overhang r)
      fun x y => ¬ (r.Contains x y ↔ s.Contains x y) := by
  have hr := partitions_overhang h
  have hs := partitions_overhang h.symm
  constructor
  · intro t ht
    rcases List.mem_append.mp ht with ht | ht
    · exact hr.proper t ht
    · exact hs.proper t ht
  · intro t ht
    rcases List.mem_append.mp ht with ht | ht
    · exact hr.inRange t ht
    · exact hs.inRange t ht
  · refine List.pairwise_append.mpr ⟨hr.apart, hs.apart, ?_⟩
    intro t ht u hu hintersects
    rcases (intersects_iff_exists (hr.proper t ht) (hs.proper u hu)).mp hintersects with
      ⟨x, y, htxy, huxy⟩
    have hfirst := (hr.contains_iff x y).mp ⟨t, ht, htxy⟩
    have hsecond := (hs.contains_iff x y).mp ⟨u, hu, huxy⟩
    exact hfirst.2 hsecond.1
  · intro x y
    rw [Cover.contains_append, hr.contains_iff, hs.contains_iff]
    tauto

theorem unmergeable_overhang {r s : Rect} (h : Overlap r s) :
    (r.overhang s).Unmergeable := by
  have hbounds := h.bounds
  have hside : ∀ (p : Prop) [Decidable p] (t : Rect),
      List.Pairwise (fun t u : Rect => ¬ t.Mergeable u) (if p then [t] else []) := by
    intro p _ t
    split
    · exact List.pairwise_singleton _ _
    · exact List.Pairwise.nil
  simp only [Cover.Unmergeable, overhang, List.pairwise_append, hside, List.mem_append,
    List.mem_ite_nil_right, List.mem_singleton, true_and]
  refine ⟨⟨?_, ?_⟩, ?_⟩
  · rintro t ⟨_, rfl⟩ u ⟨_, rfl⟩
    simp only [Mergeable, Inside, Touch]
    omega
  · rintro t (⟨_, rfl⟩ | ⟨_, rfl⟩) u ⟨_, rfl⟩ <;> simp only [Mergeable, Inside, Touch] <;> omega
  · rintro t ((⟨_, rfl⟩ | ⟨_, rfl⟩) | ⟨_, rfl⟩) u ⟨_, rfl⟩ <;>
      simp only [Mergeable, Inside, Touch] <;> omega

theorem unmergeable_overhangs {r s : Rect} (h : Overlap r s) :
    Cover.Unmergeable (r.overhang s ++ s.overhang r) := by
  have hbounds := h.bounds
  refine List.pairwise_append.mpr ⟨unmergeable_overhang h, unmergeable_overhang h.symm, ?_⟩
  intro t ht u hu
  rcases mem_overhang.mp ht with ⟨_, rfl⟩ | ⟨_, rfl⟩ | ⟨_, rfl⟩ | ⟨_, rfl⟩ <;>
    rcases mem_overhang.mp hu with ⟨_, rfl⟩ | ⟨_, rfl⟩ | ⟨_, rfl⟩ | ⟨_, rfl⟩ <;>
      simp only [Mergeable, Inside, Touch] <;> omega

end Rect

namespace ClosedForm

/-!
## The owners of the strips

A strip is owned by the rectangle that reaches further on its side.  Swapping the rectangles swaps
the owners, so that what holds of the first one holds of the second.
-/

def stripsOf (operand : Operand) (r s : Rect) : Cover :=
  ((strips .exact r s).filter fun strip => strip.2 = operand).map Prod.fst

theorem filter_side (operand owner : Operand) (same : Prop) [Decidable same] (t : Rect) :
    ((if ¬ same then [(t, owner)] else []).filter fun strip => strip.2 = operand).map Prod.fst =
      if ¬ same ∧ owner = operand then [t] else [] := by
  by_cases hsame : same
  · simp [hsame]
  · by_cases howner : owner = operand <;> simp [hsame, howner]

theorem stripsOf_a (r s : Rect) : stripsOf .a r s = r.overhang s := by
  simp only [stripsOf, strips_exact, outer, ne_eq, List.filter_append, List.map_append,
    filter_side, Rect.overhang]
  congr 1
  · congr 1
    · congr 1
      · by_cases hlt : r.left < s.left
        · simp [hlt, Int.ne_of_lt hlt, Int.max_eq_right (Int.le_of_lt hlt)]
        · simp [hlt]
      · by_cases hlt : r.bottom < s.bottom
        · simp [hlt, Int.ne_of_lt hlt, Int.max_eq_right (Int.le_of_lt hlt)]
        · simp [hlt]
    · by_cases hlt : s.right < r.right
      · simp [hlt, Int.ne_of_gt hlt, Int.min_eq_right (Int.le_of_lt hlt)]
      · simp [hlt]
  · by_cases hlt : s.top < r.top
    · simp [hlt, Int.ne_of_gt hlt, Int.min_eq_right (Int.le_of_lt hlt)]
    · simp [hlt]

theorem swap_side {same same' further further' : Prop} [Decidable same] [Decidable same']
    [Decidable further] [Decidable further'] (hsame : same' ↔ same)
    (hfurther : ¬ same → (further' ↔ ¬ further)) (g : Rect → Rect) (r s : Rect) :
    (if ¬ same' then [(g (outer s r further').1, (outer s r further').2)] else []) =
    (if ¬ same then [(g (outer r s further).1, (outer r s further).2)] else []).map
      fun strip => (strip.1, strip.2.other) := by
  by_cases h : same
  · simp [h, hsame]
  · by_cases hlt : further <;> simp [outer, h, hsame, hfurther h, hlt, Operand.other]

theorem strips_swap (r s : Rect) :
    strips .exact s r = (strips .exact r s).map fun strip => (strip.1, strip.2.other) := by
  simp only [strips_exact, List.map_append, Int.max_comm s.left, Int.max_comm s.bottom,
    Int.min_comm s.right, Int.min_comm s.top]
  congr 1
  · congr 1
    · congr 1
      · exact swap_side eq_comm (by omega) (fun t => { t with right := _ }) r s
      · exact swap_side eq_comm (by omega) (fun t => ⟨_, _, t.bottom, _⟩) r s
    · exact swap_side eq_comm (by omega) (fun t => { t with left := _ }) r s
  · exact swap_side eq_comm (by omega) (fun t => ⟨_, _, _, t.top⟩) r s

theorem stripsOf_b (r s : Rect) : stripsOf .b r s = s.overhang r := by
  rw [← stripsOf_a s r, stripsOf, stripsOf, strips_swap, List.filter_map, List.map_map]
  congr 1
  apply List.filter_congr
  intro strip _
  cases hstrip : strip.2 <;> simp [hstrip, Operand.other]

theorem perm_strips (r s : Rect) :
    ((strips .exact r s).map Prod.fst).Perm (r.overhang s ++ s.overhang r) := by
  rw [← stripsOf_a, ← stripsOf_b, stripsOf, stripsOf, ← List.map_append]
  apply List.Perm.map
  have hsplit := List.filter_append_perm (fun strip : Rect × Operand => strip.2 = .a)
    (strips .exact r s)
  have hother : (fun strip : Rect × Operand => !decide (strip.2 = .a)) =
      fun strip => decide (strip.2 = .b) := by
    funext strip
    cases hstrip : strip.2 <;> simp
  rw [hother] at hsplit
  exact hsplit.symm

end ClosedForm

end Rectilinear
