import Rectilinear.Proofs.Exactness
import Rectilinear.Proofs.Runs

/-!
# Disjoint covers under a sweep

A member of a disjoint cover is alone in its columns for as long as it runs: what lies below it has
stopped before, and what lies above it starts later.  Its columns are then all in the state that the
member's own start edge left them in, so that a sweep that joins its bands emits the member in one
piece, with the stop edge of the member or with that of a rectangle around it.
-/

namespace Rectilinear

namespace Edge

/-- A rectangle has started, but not stopped, below an edge. -/
def Runs (e : Edge) (r : Rect) : Prop :=
  ¬ e.Le (Kind.start.edgeOf .a r) ∧ e.Le (Kind.stop.edgeOf .a r)

instance (e : Edge) (r : Rect) : Decidable (e.Runs r) :=
  inferInstanceAs (Decidable (_ ∧ _))

def running (e : Edge) (c : Cover) (x : Int) : Nat :=
  c.countP fun r => r.ContainsX x ∧ e.Runs r

section Rows

variable {e : Edge} {r s : Rect}

theorem bottom_le_top_of_started (hs : ¬ e.Le (Kind.start.edgeOf .a s))
    (hr : e.Le (Kind.stop.edgeOf .a r)) : s.bottom ≤ r.top := by
  simp only [Le, Kind.edgeOf, Kind.rowOf, Kind.rank] at hs hr
  omega

theorem Runs.intersects {x : Int} (hr : e.Runs r) (hs : e.Runs s) (hx : r.ContainsX x)
    (hx' : s.ContainsX x) : r.Intersects s :=
  ⟨Int.le_trans hx.1 hx'.2, Int.le_trans hx'.1 hx.2, bottom_le_top_of_started hr.1 hs.2,
    bottom_le_top_of_started hs.1 hr.2⟩

theorem runs_stop (hr : ¬ r.IsEmpty) (operand : Operand) : (Kind.stop.edgeOf operand r).Runs r :=
  ⟨start_before_stop (Rect.not_isEmpty_iff.mp hr).2, le_refl (Kind.stop.edgeOf operand r)⟩

theorem started_of_edge (hr : ¬ r.IsEmpty) {kind : Kind} {operand : Operand}
    (h : ¬ e.Le (kind.edgeOf operand r)) : ¬ e.Le (Kind.start.edgeOf .a r) := by
  cases kind with
  | start => exact h
  | stop => exact fun hle => h (le_edgeOf_stop hr operand hle)

end Rows

/-!
## The state of a member's columns

A member that runs is the only one of its cover to do so in its columns, and while it runs, no edge
of the cover follows its start there.  Of the other operand only rectangles may be around it that
run since before.
-/

section Members

variable {a b c : Cover} {e : Edge} {r : Rect} {x : Int}

theorem active_below_eq_running (operand : Operand) (h : (coverOf a b operand).Proper) :
    active operand (below e (ofOperands a b)) x = running e (coverOf a b operand) x :=
  active_below_ofOperands h

theorem exists_of_running_pos (h : 0 < running e c x) : ∃ r ∈ c, r.ContainsX x ∧ e.Runs r := by
  rcases List.countP_pos_iff.mp h with ⟨r, hr, hruns⟩
  exact ⟨r, hr, of_decide_eq_true hruns⟩

theorem running_eq_one (hapart : c.Apart) (hr : r ∈ c) (hx : r.ContainsX x)
    (hruns : e.Runs r) : running e c x = 1 := by
  have hperm := List.perm_cons_erase hr
  have hothers := (List.pairwise_cons.mp (hapart.perm hperm)).1
  rw [running, hperm.countP_eq, List.countP_cons, if_pos (decide_eq_true ⟨hx, hruns⟩),
    Nat.add_eq_right, List.countP_eq_zero]
  intro s hs hsruns
  rcases of_decide_eq_true hsruns with ⟨hx', hruns'⟩
  exact hothers s hs (hruns.intersects hruns' hx hx')

theorem rowOf_le_bottom_of_apart (hproper : c.Proper) (hapart : c.Apart) (hr : r ∈ c)
    (hx : r.ContainsX x) (hruns : e.Runs r) {s : Rect} (hs : s ∈ c) (hx' : s.ContainsX x)
    {kind : Kind} (hbelow : ¬ e.Le (kind.edgeOf .a s)) : kind.rowOf s ≤ r.bottom := by
  by_cases hsame : s = r
  · subst hsame
    exact rowOf_le_bottom hruns.2 hbelow
  · have hrows := hapart.not_intersects hs hr hsame
    have hstarted := bottom_le_top_of_started (started_of_edge (hproper s hs) hbelow) hruns.2
    have htop := rowOf_le_top (hproper s hs) kind
    simp only [Rect.Intersects, Rect.ContainsX] at hrows hx hx'
    omega

/-- While a member runs, its columns are in the state that its start edge left them in.  Of the
other operand only rectangles may be around that run since before. -/
theorem inState_of_runs (h : Schedule (ofOperands a b)) (ha : a.Proper) (hb : b.Proper)
    (hapart : a.Apart) (hr : r ∈ a) (hx : r.ContainsX x) (hruns : e.Runs r)
    (haround : ∀ s ∈ b, s.ContainsX x → e.Runs s ∧ s.bottom ≤ r.bottom) :
    InState (below e (ofOperands a b)) 1 (running e b x) r.bottom x := by
  have hmem : r ∈ coverOf a b .a := hr
  have hstarted : ¬ e.Le (Kind.start.edgeOf .a r) := hruns.1
  constructor
  · exact (active_below_eq_running .a ha).trans (running_eq_one hapart hr hx hruns)
  · exact active_below_eq_running .b hb
  · apply lastRow_below_eq h hmem hx hstarted
    intro operand s kind hs hx' hbelow
    cases operand with
    | a => exact rowOf_le_bottom_of_apart ha hapart hr hx hruns hs hx' hbelow
    | b =>
        rcases haround s hs hx' with ⟨hruns', hrow⟩
        exact Int.le_trans (rowOf_le_bottom hruns'.2 hbelow) hrow

theorem inState_of_runs_alone (h : Schedule (ofOperands a [])) (ha : a.Proper)
    (hapart : a.Apart) (hr : r ∈ a) (hx : r.ContainsX x) (hruns : e.Runs r) :
    InState (below e (ofOperands a [])) 1 0 r.bottom x :=
  inState_of_runs h ha Cover.proper_nil hapart hr hx hruns (by simp)

section Inside

variable {s : Rect} (h : Schedule (ofOperands a [s])) (ha : a.Proper) (hs : ¬ s.IsEmpty)
  (hapart : a.Apart) (hinside : ∀ t ∈ a, t.Inside s)

include h ha hs hapart hinside

theorem inState_of_runs_inside (hr : r ∈ a) (hx : r.ContainsX x) (hruns : e.Runs r)
    (haround : e.Runs s) : InState (below e (ofOperands a [s])) 1 1 r.bottom x := by
  have hsides := hinside r hr
  have hx' : s.ContainsX x := ⟨Int.le_trans hsides.1 hx.1, Int.le_trans hx.2 hsides.2.1⟩
  have hrunning : running e [s] x = 1 :=
    running_eq_one (List.pairwise_singleton _ _) (List.mem_singleton_self s) hx' haround
  have hstate := inState_of_runs h ha (Cover.proper_singleton hs) hapart hr hx hruns
    fun t ht _ => by
      rw [List.mem_singleton.mp ht]
      exact ⟨haround, hsides.2.2.1⟩
  rwa [hrunning] at hstate

/-- When the rectangle around the members stops, the columns beside a member that reaches up to its
top are in another state: else a member with the same rows would touch. -/
theorem not_inState_beside (hunmergeable : a.Unmergeable) (hr : r ∈ a) (htop : r.top = s.top)
    (hx : x = r.left - 1 ∨ x = r.right + 1) :
    ¬ InState (below (Kind.stop.edgeOf .b s) (ofOperands a [s])) 1 1 r.bottom x := by
  intro hstate
  have hsides := Rect.not_isEmpty_iff.mp (ha r hr)
  have hrunning : 0 < running (Kind.stop.edgeOf .b s) a x := by
    have hactive := hstate.inA_eq
    rw [active_below_eq_running .a ha] at hactive
    exact Nat.lt_of_lt_of_eq Nat.one_pos hactive.symm
  rcases exists_of_running_pos hrunning with ⟨t, ht, hxt, hruns⟩
  -- the member in this column has the rows of `r`
  have hbottom := hstate.row_eq.symm.trans
    (inState_of_runs_inside h ha hs hapart hinside ht hxt hruns (runs_stop hs .b)).row_eq
  have htop' := Int.le_antisymm (hinside t ht).2.2.2 (top_le_of_stop_le hruns.2)
  simp only [Rect.ContainsX] at hxt
  have hne : r ≠ t := by
    intro heq
    rw [← heq] at hxt
    omega
  apply hunmergeable.not_mergeable hr ht hne
  simp only [Rect.Mergeable, Touch]
  omega

end Inside

end Members

end Edge

namespace Sweep

/-!
## Members are emitted

A member whose columns are in one state is emitted when it stops.  If another rectangle is around
the members, it stops after them, or cuts them off by its stop edge in the same row.
-/

section Members

variable {op : SetOp} {a b : Cover} {r : Rect}

theorem mem_emitted_at_stop (h : Edge.Schedule (Edge.ofOperands a b)) (hr : r ∈ a)
    (hproper : ¬ r.IsEmpty) {inB : Nat} (hholds : op.Holds 1 inB)
    (hstate : ∀ x, r.ContainsX x →
      Edge.InState (Edge.below (Edge.Kind.stop.edgeOf .a r) (Edge.ofOperands a b)) 1 inB
        r.bottom x) :
    r ∈ (through true op (Edge.ofOperands a b)).emitted := by
  have hsides := Rect.not_isEmpty_iff.mp hproper
  have hmem : (⟨r.left, r.right, r.bottom, (Edge.Kind.stop.edgeOf .a r).row - 1⟩ : Rect) ∈
      (through true op (Edge.ofOperands a b)).emitted :=
    mem_emitted_of_run h (Edge.edge_mem_ofOperands (show r ∈ Edge.coverOf a b .a from hr) .stop)
      (Int.le_refl _) hsides.1 (Int.le_refl _) (fun x hx hx' => hstate x ⟨hx, hx'⟩) hholds
      (Edge.lt_row_stop hsides.2) (.inl rfl) (.inl rfl)
  rw [Edge.row_stop_sub_one] at hmem
  exact hmem

theorem mem_emitted_alone (h : Edge.Schedule (Edge.ofOperands a [])) (ha : a.Proper)
    (hapart : a.Apart) (hholds : op.Holds 1 0) (hr : r ∈ a) :
    r ∈ (through true op (Edge.ofOperands a [])).emitted :=
  mem_emitted_at_stop h hr (ha r hr) hholds fun _ hx =>
    Edge.inState_of_runs_alone h ha hapart hr hx (Edge.runs_stop (ha r hr) .a)

theorem mem_emitted_inside {s : Rect} (h : Edge.Schedule (Edge.ofOperands a [s])) (ha : a.Proper)
    (hs : ¬ s.IsEmpty) (hapart : a.Apart) (hunmergeable : a.Unmergeable)
    (hinside : ∀ t ∈ a, t.Inside s) (hholds : op.Holds 1 1) (hr : r ∈ a) :
    r ∈ (through true op (Edge.ofOperands a [s])).emitted := by
  have hsides := Rect.not_isEmpty_iff.mp (ha r hr)
  have hwithin := hinside r hr
  simp only [Rect.Inside] at hwithin
  rcases Edge.le_total (Edge.Kind.stop.edgeOf .a r) (Edge.Kind.stop.edgeOf .b s) with hle | hle
  · have haround : (Edge.Kind.stop.edgeOf .a r).Runs s :=
      ⟨Edge.start_before_stop (by omega), hle⟩
    exact mem_emitted_at_stop h hr (ha r hr) hholds fun _ hx =>
      Edge.inState_of_runs_inside h ha hs hapart hinside hr hx (Edge.runs_stop (ha r hr) .a) haround
  · -- the rectangle around stops first, in the same row, and cuts the band of the member off
    have htop : r.top = s.top := Int.le_antisymm hwithin.2.2.2 (Edge.top_le_of_stop_le hle)
    have hruns : (Edge.Kind.stop.edgeOf .b s).Runs r :=
      ⟨Edge.start_before_stop (by omega), hle⟩
    have hbeside : ∀ x, x = r.left - 1 ∨ x = r.right + 1 →
        ¬ Edge.InState (Edge.below (Edge.Kind.stop.edgeOf .b s) (Edge.ofOperands a [s])) 1 1
          r.bottom x :=
      fun x hx => Edge.not_inState_beside h ha hs hapart hinside hunmergeable hr htop hx
    have hmem : (⟨r.left, r.right, r.bottom, (Edge.Kind.stop.edgeOf .b s).row - 1⟩ : Rect) ∈
        (through true op (Edge.ofOperands a [s])).emitted := by
      refine mem_emitted_of_run h
        (Edge.edge_mem_ofOperands (show s ∈ Edge.coverOf a [s] .b from List.mem_singleton_self s)
          .stop)
        hwithin.1 hsides.1 hwithin.2.1 ?_ hholds (Edge.lt_row_stop (by omega))
        (.inr (hbeside _ (.inl rfl))) (.inr (hbeside _ (.inr rfl)))
      intro x hx hx'
      exact Edge.inState_of_runs_inside h ha hs hapart hinside hr ⟨hx, hx'⟩ hruns
        (Edge.runs_stop hs .b)
    rw [Edge.row_stop_sub_one, ← htop] at hmem
    exact hmem

end Members

end Sweep

end Rectilinear
