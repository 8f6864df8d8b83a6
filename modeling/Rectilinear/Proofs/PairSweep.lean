import Rectilinear.Proofs.Overhang
import Rectilinear.Proofs.Runs

/-!
# Sweeps over two rectangles

The edges of two single rectangles leave a column in few states: only one rectangle runs there,
since it started or since the other one stopped, or both run.  Runs of columns in one of these
states are what a sweep that joins its bands emits: the overhang of one rectangle over the other,
their overlap, or a rectangle apart from the other one.
-/

namespace Rectilinear

namespace Edge

section Pair

variable {r s : Rect} {e : Edge} {x : Int}

theorem proper_pair (hr : ¬ r.IsEmpty) (hs : ¬ s.IsEmpty) (operand : Operand) :
    (coverOf [r] [s] operand).Proper := by
  cases operand <;> simpa [coverOf, Cover.Proper]

theorem schedule_pair (hr : r.InRange ∧ ¬ r.IsEmpty) (hs : s.InRange ∧ ¬ s.IsEmpty) :
    Schedule (ofOperands [r] [s]) :=
  schedule_ofOperands (proper_pair hr.2 hs.2 .a) (proper_pair hr.2 hs.2 .b)
    (Cover.sweepable_singleton hr.1) (Cover.sweepable_singleton hs.1)

theorem active_below_pair (hr : ¬ r.IsEmpty) (hs : ¬ s.IsEmpty) :
    active .a (below e (ofOperands [r] [s])) x =
        (if r.ContainsX x ∧ ¬ e.Le (Kind.start.edgeOf .a r) ∧ e.Le (Kind.stop.edgeOf .a r) then 1
          else 0) ∧
      active .b (below e (ofOperands [r] [s])) x =
        if s.ContainsX x ∧ ¬ e.Le (Kind.start.edgeOf .b s) ∧ e.Le (Kind.stop.edgeOf .b s) then 1
          else 0 := by
  rw [active_below_ofOperands (proper_pair hr hs .a),
    active_below_ofOperands (proper_pair hr hs .b)]
  simp [coverOf, List.countP_cons]

variable (hr : r.InRange ∧ ¬ r.IsEmpty) (hs : s.InRange ∧ ¬ s.IsEmpty)

include hr hs

theorem lastRow_below_pair (operand : Operand) (kind : Kind) {t : Rect}
    (ht : t ∈ coverOf [r] [s] operand) (hx : t.ContainsX x)
    (hbelow : ¬ e.Le (kind.edgeOf operand t))
    (hmaxA : ∀ kind' : Kind, r.ContainsX x → ¬ e.Le (kind'.edgeOf .a r) →
      kind'.rowOf r ≤ kind.rowOf t)
    (hmaxB : ∀ kind' : Kind, s.ContainsX x → ¬ e.Le (kind'.edgeOf .b s) →
      kind'.rowOf s ≤ kind.rowOf t) :
    lastRow (below e (ofOperands [r] [s])) x = kind.rowOf t := by
  apply lastRow_below_eq (schedule_pair hr hs) ht hx hbelow
  intro operand' u kind' hu
  cases operand'
  · rw [List.mem_singleton.mp hu]
    exact hmaxA kind'
  · rw [List.mem_singleton.mp hu]
    exact hmaxB kind'

theorem inState_of_alone (hx : r.ContainsX x) (hstarted : ¬ e.Le (Kind.start.edgeOf .a r))
    (hrunning : e.Le (Kind.stop.edgeOf .a r))
    (halone : s.ContainsX x → ¬ e.Le (Kind.start.edgeOf .b s) →
      ¬ e.Le (Kind.stop.edgeOf .b s) ∧ s.top + 1 ≤ r.bottom) :
    InState (below e (ofOperands [r] [s])) 1 0 r.bottom x := by
  rcases active_below_pair (e := e) (x := x) hr.2 hs.2 with ⟨hactiveA, hactiveB⟩
  constructor
  · rw [hactiveA, if_pos ⟨hx, hstarted, hrunning⟩]
  · rw [hactiveB, if_neg]
    rintro ⟨hx', hstarted', hrunning'⟩
    exact (halone hx' hstarted').1 hrunning'
  · refine lastRow_below_pair hr hs .a .start (List.mem_singleton_self r) hx hstarted
      (fun kind' _ hbelow => rowOf_le_bottom hrunning hbelow) ?_
    intro kind' hx' hbelow
    have hstarted' : ¬ e.Le (Kind.start.edgeOf .b s) := by
      cases kind' with
      | start => exact hbelow
      | stop => exact fun hle => hbelow (le_edgeOf_stop hs.2 .b hle)
    exact Int.le_trans (rowOf_le_top hs.2 kind') (halone hx' hstarted').2

theorem inState_of_stopped (hx : r.ContainsX x) (hx' : s.ContainsX x)
    (hstarted : ¬ e.Le (Kind.start.edgeOf .a r)) (hrunning : e.Le (Kind.stop.edgeOf .a r))
    (hstopped : ¬ e.Le (Kind.stop.edgeOf .b s)) (hrow : r.bottom ≤ s.top + 1) :
    InState (below e (ofOperands [r] [s])) 1 0 (s.top + 1) x := by
  rcases active_below_pair (e := e) (x := x) hr.2 hs.2 with ⟨hactiveA, hactiveB⟩
  constructor
  · rw [hactiveA, if_pos ⟨hx, hstarted, hrunning⟩]
  · rw [hactiveB, if_neg fun hrunning' => hstopped hrunning'.2.2]
  · exact lastRow_below_pair hr hs .b .stop (List.mem_singleton_self s) hx' hstopped
      (fun kind' _ hbelow => Int.le_trans (rowOf_le_bottom hrunning hbelow) hrow)
      fun kind' _ _ => rowOf_le_top hs.2 kind'

theorem inState_of_both (hx : r.ContainsX x) (hx' : s.ContainsX x)
    (hstarted : ¬ e.Le (Kind.start.edgeOf .a r)) (hrunning : e.Le (Kind.stop.edgeOf .a r))
    (hstarted' : ¬ e.Le (Kind.start.edgeOf .b s)) (hrunning' : e.Le (Kind.stop.edgeOf .b s)) :
    InState (below e (ofOperands [r] [s])) 1 1 (max r.bottom s.bottom) x := by
  rcases active_below_pair (e := e) (x := x) hr.2 hs.2 with ⟨hactiveA, hactiveB⟩
  constructor
  · rw [hactiveA, if_pos ⟨hx, hstarted, hrunning⟩]
  · rw [hactiveB, if_pos ⟨hx', hstarted', hrunning'⟩]
  · rcases Int.le_total r.bottom s.bottom with hle | hle
    · rw [Int.max_eq_right hle]
      exact lastRow_below_pair hr hs .b .start (List.mem_singleton_self s) hx' hstarted'
        (fun kind' _ hbelow => Int.le_trans (rowOf_le_bottom hrunning hbelow) hle)
        fun kind' _ hbelow => rowOf_le_bottom hrunning' hbelow
    · rw [Int.max_eq_left hle]
      exact lastRow_below_pair hr hs .a .start (List.mem_singleton_self r) hx hstarted
        (fun kind' _ hbelow => rowOf_le_bottom hrunning hbelow)
        fun kind' _ hbelow => Int.le_trans (rowOf_le_bottom hrunning' hbelow) hle

/-- While the second rectangle runs, or after it stopped, its columns tell. -/
theorem not_inState_of_overlap (hx : r.ContainsX x) (hx' : s.ContainsX x)
    (hstarted : ¬ e.Le (Kind.start.edgeOf .a r)) (hrunning : e.Le (Kind.stop.edgeOf .a r))
    (hstarted' : ¬ e.Le (Kind.start.edgeOf .b s)) (hrow : r.bottom ≤ s.top) :
    ¬ InState (below e (ofOperands [r] [s])) 1 0 r.bottom x := by
  intro h
  by_cases hstopped : e.Le (Kind.stop.edgeOf .b s)
  · have hboth := inState_of_both hr hs hx hx' hstarted hrunning hstarted' hstopped
    have hcount := h.inB_eq.symm.trans hboth.inB_eq
    omega
  · have hlast := inState_of_stopped hr hs hx hx' hstarted hrunning hstopped (by omega)
    have hrows := h.row_eq.symm.trans hlast.row_eq
    omega

omit hr hs in
theorem not_inState_of_not_left (hr : ¬ r.IsEmpty) (hs : ¬ s.IsEmpty) {inB : Nat} {row : Int}
    (hx : ¬ r.ContainsX x) : ¬ InState (below e (ofOperands [r] [s])) 1 inB row x := by
  intro h
  have hactive := h.inA_eq
  rw [(active_below_pair hr hs).1, if_neg fun hstate => hx hstate.1] at hactive
  omega

omit hr hs in
theorem not_inState_of_not_right (hr : ¬ r.IsEmpty) (hs : ¬ s.IsEmpty) {inA : Nat} {row : Int}
    (hx : ¬ s.ContainsX x) : ¬ InState (below e (ofOperands [r] [s])) inA 1 row x := by
  intro h
  have hactive := h.inB_eq
  rw [(active_below_pair hr hs).2, if_neg fun hstate => hx hstate.1] at hactive
  omega

end Pair

end Edge

namespace Sweep

/-!
## Pieces are emitted

Columns that only one rectangle has are emitted when it stops.  In the columns of the overlap, what
one rectangle has below the other is emitted when the other starts, the overlap when the first of
them stops, and what one has above the other when it stops itself.
-/

section Pieces

variable {op : SetOp} {r s : Rect}

theorem mem_emitted_beside (h : Rect.Overlap r s) (hholds : op.Holds 1 0) {left right : Int}
    (hleft : r.left ≤ left) (hsides : left ≤ right) (hright : right ≤ r.right)
    (hbeside : right < s.left ∨ s.right < left)
    (hfirst : left = r.left ∨ left = s.right + 1) (hlast : right = r.right ∨ right = s.left - 1) :
    ⟨left, right, r.bottom, r.top⟩ ∈ (through true op (Edge.ofOperands [r] [s])).emitted := by
  have hbounds := h.bounds
  have hstarted : ¬ (Edge.Kind.stop.edgeOf .a r).Le (Edge.Kind.start.edgeOf .a r) :=
    Edge.start_before_stop (by omega)
  have hstarted' : ¬ (Edge.Kind.stop.edgeOf .a r).Le (Edge.Kind.start.edgeOf .b s) :=
    Edge.start_before_stop (by omega)
  have hrunning := Edge.le_refl (Edge.Kind.stop.edgeOf .a r)
  have hoverlap : ∀ x, r.ContainsX x → s.ContainsX x →
      ¬ Edge.InState (Edge.below (Edge.Kind.stop.edgeOf .a r) (Edge.ofOperands [r] [s])) 1 0
        r.bottom x :=
    fun x hx hx' => Edge.not_inState_of_overlap h.left h.right hx hx' hstarted hrunning hstarted'
      (by omega)
  rw [← Edge.row_stop_sub_one .a r]
  refine mem_emitted_of_run (Edge.schedule_pair h.left h.right)
    (Edge.edge_mem_ofOperands (List.mem_singleton_self r) .stop) hleft hsides hright ?_ hholds
    ?_ ?_ ?_
  · intro x hx hx'
    refine Edge.inState_of_alone h.left h.right ⟨by omega, by omega⟩ hstarted hrunning ?_
    rintro ⟨hlow, hhigh⟩
    omega
  · exact Edge.lt_row_stop (by omega)
  · refine hfirst.imp_right fun heq => hoverlap _ ⟨by omega, by omega⟩ ⟨by omega, by omega⟩
  · refine hlast.imp_right fun heq => hoverlap _ ⟨by omega, by omega⟩ ⟨by omega, by omega⟩

theorem mem_emitted_underneath (h : Rect.Overlap r s) (hholds : op.Holds 1 0)
    (hbottom : r.bottom < s.bottom) :
    ⟨max r.left s.left, min r.right s.right, r.bottom, s.bottom - 1⟩ ∈
      (through true op (Edge.ofOperands [r] [s])).emitted := by
  have hbounds := h.bounds
  have hstarted : ¬ (Edge.Kind.start.edgeOf .b s).Le (Edge.Kind.start.edgeOf .a r) :=
    Edge.not_le_of_row_lt hbottom
  have hrunning : (Edge.Kind.start.edgeOf .b s).Le (Edge.Kind.stop.edgeOf .a r) :=
    Edge.le_of_row_lt (Edge.lt_row_stop h.intersects.2.2.2)
  change (⟨_, _, _, (Edge.Kind.start.edgeOf .b s).row - 1⟩ : Rect) ∈ _
  refine mem_emitted_of_run (Edge.schedule_pair h.left h.right)
    (Edge.edge_mem_ofOperands (List.mem_singleton_self s) .start) (Int.le_max_right _ _)
    (by omega) (Int.min_le_right _ _) ?_ hholds hbottom ?_ ?_
  · intro x hx hx'
    refine Edge.inState_of_alone h.left h.right ⟨by omega, by omega⟩ hstarted hrunning ?_
    intro _ hstarted'
    exact absurd (Edge.le_refl _) hstarted'
  · have hfirst := h.symm.columns_start
    rw [Int.max_comm] at hfirst
    exact hfirst.imp_right fun hx => Edge.not_inState_of_not_left h.left.2 h.right.2 hx.2
  · have hlast := h.symm.columns_end
    rw [Int.min_comm] at hlast
    exact hlast.imp_right fun hx => Edge.not_inState_of_not_left h.left.2 h.right.2 hx.2

theorem mem_emitted_overhead (h : Rect.Overlap r s) (hholds : op.Holds 1 0)
    (htop : s.top < r.top) :
    ⟨max r.left s.left, min r.right s.right, s.top + 1, r.top⟩ ∈
      (through true op (Edge.ofOperands [r] [s])).emitted := by
  have hbounds := h.bounds
  have hstarted : ¬ (Edge.Kind.stop.edgeOf .a r).Le (Edge.Kind.start.edgeOf .a r) :=
    Edge.start_before_stop (by omega)
  have hrunning := Edge.le_refl (Edge.Kind.stop.edgeOf .a r)
  have hstopped : ¬ (Edge.Kind.stop.edgeOf .a r).Le (Edge.Kind.stop.edgeOf .b s) :=
    Edge.not_le_of_row_lt (Edge.lt_row_stop htop)
  have hbeside : ∀ x, r.ContainsX x → ¬ s.ContainsX x →
      ¬ Edge.InState (Edge.below (Edge.Kind.stop.edgeOf .a r) (Edge.ofOperands [r] [s])) 1 0
        (s.top + 1) x := by
    intro x hx hx' hstate
    have halone := Edge.inState_of_alone h.left h.right hx hstarted hrunning
      fun hspans => absurd hspans hx'
    have hrows := hstate.row_eq.symm.trans halone.row_eq
    omega
  rw [← Edge.row_stop_sub_one .a r]
  refine mem_emitted_of_run (Edge.schedule_pair h.left h.right)
    (Edge.edge_mem_ofOperands (List.mem_singleton_self r) .stop) (Int.le_max_left _ _)
    (by omega) (Int.min_le_left _ _) ?_ hholds ?_ ?_ ?_
  · intro x hx hx'
    exact Edge.inState_of_stopped h.left h.right ⟨by omega, by omega⟩ ⟨by omega, by omega⟩
      hstarted hrunning hstopped (by omega)
  · exact Edge.lt_row_stop (by omega)
  · exact h.columns_start.imp_right fun hx => hbeside _ hx.1 hx.2
  · exact h.columns_end.imp_right fun hx => hbeside _ hx.1 hx.2

theorem mem_emitted_of_apart (hr : r.InRange ∧ ¬ r.IsEmpty) (hs : s.InRange ∧ ¬ s.IsEmpty)
    (hapart : ¬ r.Intersects s) (hholds : op.Holds 1 0) :
    r ∈ (through true op (Edge.ofOperands [r] [s])).emitted := by
  have hsides := Rect.not_isEmpty_iff.mp hr.2
  have hsides' := Rect.not_isEmpty_iff.mp hs.2
  have hmem : (⟨r.left, r.right, r.bottom, (Edge.Kind.stop.edgeOf .a r).row - 1⟩ : Rect) ∈
      (through true op (Edge.ofOperands [r] [s])).emitted := by
    refine mem_emitted_of_run (Edge.schedule_pair hr hs)
      (Edge.edge_mem_ofOperands (List.mem_singleton_self r) .stop) (Int.le_refl _) hsides.1
      (Int.le_refl _) ?_ hholds (Edge.lt_row_stop hsides.2) (.inl rfl) (.inl rfl)
    intro x hx hx'
    refine Edge.inState_of_alone hr hs ⟨hx, hx'⟩ (Edge.start_before_stop hsides.2)
      (Edge.le_refl _) ?_
    rintro ⟨hlow, hhigh⟩
    simp only [Edge.Le, Edge.Kind.edgeOf, Edge.Kind.rowOf, Edge.Kind.rank]
    simp only [Rect.Intersects] at hapart
    omega
  rw [Edge.row_stop_sub_one] at hmem
  exact hmem

theorem mem_emitted_overlap (h : Rect.Overlap r s) (hholds : op.Holds 1 1)
    (hfirst : (Edge.Kind.stop.edgeOf .a r).Le (Edge.Kind.stop.edgeOf .b s)) :
    ⟨max r.left s.left, min r.right s.right, max r.bottom s.bottom, r.top⟩ ∈
      (through true op (Edge.ofOperands [r] [s])).emitted := by
  have hbounds := h.bounds
  rw [← Edge.row_stop_sub_one .a r]
  refine mem_emitted_of_run (Edge.schedule_pair h.left h.right)
    (Edge.edge_mem_ofOperands (List.mem_singleton_self r) .stop) (Int.le_max_left _ _)
    (by omega) (Int.min_le_left _ _) ?_ hholds ?_ ?_ ?_
  · intro x hx hx'
    refine Edge.inState_of_both h.left h.right ⟨by omega, by omega⟩ ⟨by omega, by omega⟩ ?_
      (Edge.le_refl _) ?_ hfirst
    · exact Edge.start_before_stop (by omega)
    · exact Edge.start_before_stop (by omega)
  · exact Edge.lt_row_stop (by omega)
  · exact h.columns_start.imp_right fun hx =>
      Edge.not_inState_of_not_right h.left.2 h.right.2 hx.2
  · exact h.columns_end.imp_right fun hx =>
      Edge.not_inState_of_not_right h.left.2 h.right.2 hx.2

theorem mem_emitted_of_mem_overhang (h : Rect.Overlap r s) (hholds : op.Holds 1 0) {t : Rect}
    (ht : t ∈ r.overhang s) : t ∈ (through true op (Edge.ofOperands [r] [s])).emitted := by
  have hbounds := h.bounds
  rcases Rect.mem_overhang.mp ht with ⟨hlt, rfl⟩ | ⟨hlt, rfl⟩ | ⟨hlt, rfl⟩ | ⟨hlt, rfl⟩
  · exact mem_emitted_beside h hholds (Int.le_refl _) (by omega) (by omega) (.inl (by omega))
      (.inl rfl) (.inr rfl)
  · exact mem_emitted_underneath h hholds hlt
  · exact mem_emitted_beside h hholds (by omega) (by omega) (Int.le_refl _) (.inr (by omega))
      (.inr rfl) (.inl rfl)
  · exact mem_emitted_overhead h hholds hlt

end Pieces

end Sweep

end Rectilinear
