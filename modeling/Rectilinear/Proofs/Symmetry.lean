import Rectilinear.Proofs.Exactness
import Rectilinear.Proofs.Similar

/-!
# Order of the operands

The members of an operand can be given in any order, and the operands of a symmetric operation
either way round, without a change in the list that results.
-/

namespace Rectilinear

theorem SetOp.holds_comm {op : SetOp} (hop : op ≠ .diff) (inA inB : Nat) :
    op.Holds inA inB ↔ op.Holds inB inA := by
  cases op with
  | and => simp only [Holds, and_comm]
  | or => simp only [Holds, or_comm]
  | xor => simp only [Holds, iff_comm]
  | diff => exact absurd rfl hop

namespace ClosedForm

/-!
## Closed forms

Mergeable rectangles that intersect have their bounding box for a union: what one of them has beside
the other, or below or above, completes the other to that box.
-/

section Union

variable {r s : Rect}

theorem exists_beside_eq (h : Rect.Overlap r s) (hbottom : r.bottom = s.bottom)
    (htop : r.top = s.top) (hrs : ¬ r.Inside s) (hsr : ¬ s.Inside r) :
    ∃ t, beside .exact r s = [t] ∧ ¬ t.IsEmpty ∧ s.Mergeable t ∧ s.hull t = r.hull s := by
  have hbounds := h.bounds
  simp only [Rect.Inside] at hrs hsr
  by_cases hleft : r.left < s.left
  · have hright : ¬ s.right < r.right := by omega
    refine ⟨{ r with right := s.left - 1 }, by simp [beside_exact, hleft, hright], ?_⟩
    simp only [Rect.not_isEmpty_iff, Rect.Mergeable, Touch, Rect.ext_iff_bounds, Rect.hull]
    omega
  · have hright : s.right < r.right := by omega
    refine ⟨{ r with left := s.right + 1 }, by simp [beside_exact, hleft, hright], ?_⟩
    simp only [Rect.not_isEmpty_iff, Rect.Mergeable, Touch, Rect.ext_iff_bounds, Rect.hull]
    omega

theorem exists_belowAbove_eq (h : Rect.Overlap r s) (hleft : r.left = s.left)
    (hright : r.right = s.right) (hrs : ¬ r.Inside s) (hsr : ¬ s.Inside r) :
    ∃ t, belowAbove .exact r s = [t] ∧ ¬ t.IsEmpty ∧ s.Mergeable t ∧ s.hull t = r.hull s := by
  rw [← Rect.inside_transpose] at hrs hsr
  rcases exists_beside_eq h.transpose hleft hright hrs hsr with
    ⟨t, hpiece, hproper, hmergeable, hhull⟩
  refine ⟨t.transpose, ?_, ?_, ?_, ?_⟩
  · rw [← map_transpose_beside, hpiece]
    rfl
  · rw [Rect.isEmpty_transpose]
    exact hproper
  · rw [← Rect.mergeable_transpose]
    exact hmergeable
  · exact congrArg Rect.transpose hhull

theorem cover_union_of_mergeable (h : Rect.Overlap r s) (hmergeable : r.Mergeable s) :
    (union .exact r s).cover = [r.hull s] := by
  have hbounds := h.bounds
  simp only [union_exact, if_neg h.not_apart, h.clipWith_eq]
  simp only [Rect.Mergeable] at hmergeable
  by_cases hrs : r.Inside s
  · rw [if_pos hrs, cover, Rect.hull_comm, Rect.hull_of_inside hrs]
  rw [if_neg hrs]
  by_cases hsr : s.Inside r
  · rw [if_pos hsr, cover, Rect.hull_of_inside hsr]
  rw [if_neg hsr]
  rcases (hmergeable.resolve_left hsr).resolve_left hrs with hcolumns | hrows
  · have hrs' := hrs
    have hsr' := hsr
    simp only [Rect.Inside] at hrs' hsr'
    -- the columns are equal and neither is inside the other, so that neither spans the other's rows
    rw [if_neg (by omega), if_neg (by omega), if_pos (by omega)]
    rcases exists_belowAbove_eq h hcolumns.1 hcolumns.2.1 hrs hsr with
      ⟨t, hpiece, hproper, hmerge, hhull⟩
    rw [hpiece, cover, Cover.normalize_pair h.right.2 hproper hmerge, hhull]
  · rw [if_pos (by omega)]
    rcases exists_beside_eq h hrows.1 hrows.2.1 hrs hsr with ⟨t, hpiece, hproper, hmerge, hhull⟩
    rw [hpiece, cover, Cover.normalize_pair h.right.2 hproper hmerge, hhull]

/-- If the rectangles are not mergeable, at most one of them spans the other on an axis, and it
stays whole in either order. -/
theorem cover_union_comm_of_not_mergeable (h : Rect.Overlap r s) (hmergeable : ¬ r.Mergeable s) :
    (union .exact r s).cover = (union .exact s r).cover := by
  have hbounds := h.bounds
  have hrs : ¬ r.Inside s := fun hinside => hmergeable (.inr (.inl hinside))
  have hsr : ¬ s.Inside r := fun hinside => hmergeable (.inl hinside)
  simp only [union_exact, if_neg h.not_apart, if_neg h.symm.not_apart, h.clipWith_eq,
    h.symm.clipWith_eq, if_neg hrs, if_neg hsr]
  simp only [Rect.Mergeable, Rect.Inside, Touch] at hmergeable
  by_cases hrows : s.bottom ≤ r.bottom ∧ r.top ≤ s.top
  · rw [if_pos (by omega), if_neg (by omega), if_pos (by omega)]
  by_cases hrows' : r.bottom ≤ s.bottom ∧ s.top ≤ r.top
  · rw [if_neg (by omega), if_pos (by omega), if_pos (by omega)]
  rw [if_neg (by omega), if_neg (by omega)]
  by_cases hcolumns : s.left ≤ r.left ∧ r.right ≤ s.right
  · rw [if_pos (by omega), if_neg (by omega), if_neg (by omega), if_neg (by omega),
      if_pos (by omega)]
  by_cases hcolumns' : r.left ≤ s.left ∧ s.right ≤ r.right
  · rw [if_neg (by omega), if_pos (by omega), if_neg (by omega), if_neg (by omega),
      if_pos (by omega)]
  rw [if_neg (by omega), if_neg (by omega), if_neg (by omega), if_neg (by omega),
    if_neg (by omega), if_neg (by omega)]
  congr 2
  by_cases hlower : r.bottom < s.bottom
  · rw [staggered_of_lower hlower (by omega), staggered_of_upper hlower (by omega)]
  · rw [staggered_of_upper (by omega) (by omega), staggered_of_lower (by omega) (by omega)]

theorem apart_comm :
    r.IsEmpty ∨ s.IsEmpty ∨ ¬ r.Intersects s ↔ s.IsEmpty ∨ r.IsEmpty ∨ ¬ s.Intersects r := by
  have hintersects : r.Intersects s ↔ s.Intersects r :=
    ⟨Rect.Intersects.symm, Rect.Intersects.symm⟩
  rw [hintersects]
  exact or_left_comm

theorem cover_union_comm (hr : r.InRange) (hs : s.InRange) :
    (union .exact r s).cover = (union .exact s r).cover := by
  by_cases hapart : r.IsEmpty ∨ s.IsEmpty ∨ ¬ r.Intersects s
  · simp only [union_exact, if_pos hapart, if_pos (apart_comm.mp hapart), cover]
    exact Cover.normalize_pair_comm r s
  · have h := Rect.Overlap.of_not hr hs hapart
    by_cases hmergeable : r.Mergeable s
    · rw [cover_union_of_mergeable h hmergeable, cover_union_of_mergeable h.symm hmergeable.symm,
        Rect.hull_comm]
    · exact cover_union_comm_of_not_mergeable h hmergeable

end Union

theorem cover_closedForm_comm {op : SetOp} (hop : op ≠ .diff) {r s : Rect} (hr : r.InRange)
    (hs : s.InRange) : (op.closedForm .exact r s).cover = (op.closedForm .exact s r).cover := by
  cases op with
  | and =>
      simp only [SetOp.closedForm, inter_eq, Rect.clipWith_comm .exact r s]
  | or => exact cover_union_comm hr hs
  | xor =>
      simp only [SetOp.closedForm, symmDiff_exact]
      by_cases hapart : r.IsEmpty ∨ s.IsEmpty ∨ ¬ r.Intersects s
      · rw [if_pos hapart, if_pos (apart_comm.mp hapart)]
        exact Cover.normalize_pair_comm r s
      · rw [if_neg hapart, if_neg fun happart' => hapart (apart_comm.mpr happart')]
        by_cases heq : r = s
        · rw [heq]
        · rw [if_neg heq, if_neg fun hsame => heq hsame.symm, strips_swap, List.map_map]
          rfl
  | diff => exact absurd rfl hop

end ClosedForm

namespace Edge

/-!
## Edges of reordered operands

Edges in another order have the same places, and so do edges with the operands the other way round,
which look the same to a symmetric operation.
-/

def swap (e : Edge) : Edge :=
  { e with operand := e.operand.other }

section Order

variable {a b c d : Cover} {edges others : List Edge}

theorem perm_ofOperands (hac : a.Perm c) (hbd : b.Perm d) :
    (ofOperands a b).Perm (ofOperands c d) := by
  refine (List.mergeSort_perm _ _).trans (List.Perm.trans ?_ (List.mergeSort_perm _ _).symm)
  exact (hac.flatMap_right _).append (hbd.flatMap_right _)

theorem map_swap_ofCover (operand : Operand) (c : Cover) :
    (ofCover operand c).map swap = ofCover operand.other c := by
  rw [ofCover, ofCover, List.map_flatMap]
  rfl

theorem perm_ofOperands_swap (a b : Cover) :
    (ofOperands b a).Perm ((ofOperands a b).map swap) := by
  refine (List.mergeSort_perm _ _).trans (List.Perm.trans ?_ ((List.mergeSort_perm _ _).symm.map _))
  rw [List.map_append, map_swap_ofCover, map_swap_ofCover]
  exact List.perm_append_comm

theorem active_perm (h : edges.Perm others) (operand : Operand) (x : Int) :
    active operand edges x = active operand others x := by
  rw [active, active, count, count, h.countP_eq, count, count, h.countP_eq]

theorem active_map_swap (operand : Operand) (edges : List Edge) (x : Int) :
    active operand (edges.map swap) x = active operand.other edges x := by
  have hcount : ∀ kind, count kind operand (edges.map swap) x =
      count kind operand.other edges x := by
    intro kind
    rw [count, List.countP_map, count]
    apply List.countP_congr
    intro e _
    cases operand <;> cases hoperand : e.operand <;>
      simp [swap, hoperand, Operand.other, Spans]
  rw [active, active, hcount, hcount]

theorem mem_places_of_perm (h : edges.Perm others) (p : Edge) :
    p ∈ places edges ↔ p ∈ places others := by
  simp only [mem_places, h.mem_iff]

theorem mem_places_map_swap (edges : List Edge) (p : Edge) :
    p ∈ places (edges.map swap) ↔ p ∈ places edges := by
  simp only [mem_places, List.mem_map, exists_exists_and_eq_and]
  rfl

theorem similar_of_perm (op : SetOp) (h : edges.Perm others) : Similar op op edges others := by
  constructor
  · intro x y
    simp only [active_perm h]
  · intro x
    rw [active_perm h, active_perm h]

theorem similar_of_perm_map_swap {op : SetOp} (hop : op ≠ .diff)
    (h : others.Perm (edges.map swap)) : Similar op op edges others := by
  constructor
  · intro x y
    simp only [active_perm h, active_map_swap]
    constructor
    · intro heq operand
      exact heq operand.other
    · intro heq operand
      cases operand
      · exact heq .b
      · exact heq .a
  · intro x
    rw [active_perm h, active_perm h, active_map_swap, active_map_swap]
    exact SetOp.holds_comm hop _ _

theorem below_map_swap (p : Edge) (edges : List Edge) :
    below p (edges.map swap) = (below p edges).map swap := by
  rw [below, List.filter_map]
  rfl

end Order

end Edge

/-!
## Sweeps and combinations

Neither the order of the members nor, under a symmetric operation, that of the operands changes what
is emitted.
-/

section Combined

variable {a b c d : Cover} (ha : a.Proper) (hb : b.Proper) (hsa : a.Sweepable)
  (hsb : b.Sweepable)

include ha hb hsa hsb

theorem Sweep.emitted_eq_of_perm (hac : a.Perm c) (hbd : b.Perm d) (coalesce : Bool)
    (op : SetOp) : (through coalesce op (Edge.ofOperands a b)).emitted =
      (through coalesce op (Edge.ofOperands c d)).emitted := by
  have hedges := Edge.schedule_ofOperands ha hb hsa hsb
  have hothers := Edge.schedule_ofOperands (ha.perm hac) (hb.perm hbd) (hsa.perm hac)
    (hsb.perm hbd)
  have hperm := Edge.perm_ofOperands hac hbd
  apply emitted_eq_of_similar hedges hothers (Edge.mem_places_of_perm hperm)
  intro p
  exact Edge.similar_of_perm op (hperm.filter _)

theorem Sweep.emitted_comm {op : SetOp} (hop : op ≠ .diff) (coalesce : Bool) :
    (through coalesce op (Edge.ofOperands a b)).emitted =
      (through coalesce op (Edge.ofOperands b a)).emitted := by
  have hedges := Edge.schedule_ofOperands ha hb hsa hsb
  have hothers := Edge.schedule_ofOperands hb ha hsb hsa
  have hperm := Edge.perm_ofOperands_swap a b
  have hplaces : ∀ p, p ∈ Edge.places (Edge.ofOperands a b) ↔
      p ∈ Edge.places (Edge.ofOperands b a) := by
    intro p
    rw [Edge.mem_places_of_perm hperm, Edge.mem_places_map_swap]
  apply emitted_eq_of_similar hedges hothers hplaces
  intro p
  apply Edge.similar_of_perm_map_swap hop
  rw [← Edge.below_map_swap]
  exact hperm.filter _

theorem Combination.outcome_eq_of_perm (hac : a.Perm c) (hbd : b.Perm d) (arith : Arith)
    (settings : Settings) (op : SetOp) :
    (ofNonempty arith settings op a b).outcome = (ofNonempty arith settings op c d).outcome := by
  by_cases hfast : settings.pairwiseFastPath = true ∧ a.length = 1 ∧ b.length = 1
  · rcases hfast with ⟨_, hlength, hlength'⟩
    rcases List.length_eq_one_iff.mp hlength with ⟨r, rfl⟩
    rcases List.length_eq_one_iff.mp hlength' with ⟨s, rfl⟩
    rw [List.singleton_perm.mp hac, List.singleton_perm.mp hbd]
  · have hfast' := hfast
    rw [hac.length_eq, hbd.length_eq] at hfast'
    rw [outcome_ofNonempty hsa hsb ha hb arith settings op hfast,
      outcome_ofNonempty (hsa.perm hac) (hsb.perm hbd) (ha.perm hac) (hb.perm hbd) arith settings
        op hfast',
      Cover.swept, Cover.swept, Sweep.emitted_eq_of_perm ha hb hsa hsb hac hbd]

theorem Combination.outcome_comm {op : SetOp} (hop : op ≠ .diff) (arith : Arith)
    (settings : Settings) :
    (ofNonempty arith settings op a b).outcome = (ofNonempty arith settings op b a).outcome := by
  by_cases hfast : settings.pairwiseFastPath = true ∧ a.length = 1 ∧ b.length = 1
  · rcases hfast with ⟨hfast, hlength, hlength'⟩
    rcases List.length_eq_one_iff.mp hlength with ⟨r, rfl⟩
    rcases List.length_eq_one_iff.mp hlength' with ⟨s, rfl⟩
    have hr : r.InRange := hsa.inRange r (by simp)
    have hs : s.InRange := hsb.inRange s (by simp)
    rw [outcome_ofNonempty_singletons arith op hfast hr hs,
      outcome_ofNonempty_singletons arith op hfast hs hr,
      ClosedForm.cover_closedForm_comm hop hr hs]
  · have hfast' : ¬ (settings.pairwiseFastPath = true ∧ b.length = 1 ∧ a.length = 1) := by
      rwa [and_comm (a := b.length = 1)]
    rw [outcome_ofNonempty hsa hsb ha hb arith settings op hfast,
      outcome_ofNonempty hsb hsa hb ha arith settings op hfast',
      Cover.swept, Cover.swept, Sweep.emitted_comm ha hb hsa hsb hop]

end Combined

namespace Cover

theorem combine_order_irrelevant (settings : Settings) (op : SetOp) {a b a' b' : Cover}
    (hsa : a.Sweepable) (hsb : b.Sweepable) (ha : a'.nonempty.Perm a.nonempty)
    (hb : b'.nonempty.Perm b.nonempty) :
    ∃ c, combine settings op a b = .ok c ∧ combine settings op a' b' = .ok c ∧
      (op ≠ .diff → combine settings op b a = .ok c) := by
  rcases Combination.exact_ofOperands hsa hsb .word settings op with ⟨c, houtcome, _⟩
  refine ⟨c, houtcome, ?_, ?_⟩
  · rw [← houtcome]
    exact (Combination.outcome_eq_of_perm (proper_nonempty a) (proper_nonempty b) hsa.nonempty
      hsb.nonempty ha.symm hb.symm .word settings op).symm
  · intro hop
    rw [← houtcome]
    exact (Combination.outcome_comm (proper_nonempty a) (proper_nonempty b) hsa.nonempty
      hsb.nonempty hop .word settings).symm

theorem combine_order_irrelevant_overlapping :
    ∃ c, combine { pairwiseFastPath := false } .xor
          [⟨0, 4, 0, 4⟩, ⟨2, 6, 2, 6⟩, ⟨0, 4, 0, 4⟩] [⟨3, 9, 1, 5⟩, ⟨5, 7, 0, maxBound⟩] = .ok c ∧
        combine { pairwiseFastPath := false } .xor
          [⟨2, 6, 2, 6⟩, ⟨3, 1, 0, 0⟩, ⟨0, 4, 0, 4⟩, ⟨0, 4, 0, 4⟩]
          [⟨5, 7, 0, maxBound⟩, ⟨3, 9, 1, 5⟩, ⟨0, 0, 2, 1⟩] = .ok c ∧
        (SetOp.xor ≠ .diff → combine { pairwiseFastPath := false } .xor
          [⟨3, 9, 1, 5⟩, ⟨5, 7, 0, maxBound⟩]
          [⟨0, 4, 0, 4⟩, ⟨2, 6, 2, 6⟩, ⟨0, 4, 0, 4⟩] = .ok c) :=
  combine_order_irrelevant _ _ (sweepable_of_length (by decide) (by decide))
    (sweepable_of_length (by decide) (by decide)) (by decide) (by decide)

end Cover

end Rectilinear
