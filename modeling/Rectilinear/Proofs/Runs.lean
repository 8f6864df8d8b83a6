import Rectilinear.Proofs.Seams

/-!
# Runs of like columns

A sweep that joins its bands emits its rectangles in one piece: columns that an edge finds in the
same state become one rectangle, if the columns beside them are in another state or beyond the edge.
-/

namespace Rectilinear

namespace Edge

/-- The counts of a column, and the row since when it has them. -/
structure InState (edges : List Edge) (inA inB : Nat) (row : Int) (x : Int) : Prop where
  inA_eq : active .a edges x = inA
  inB_eq : active .b edges x = inB
  row_eq : lastRow edges x = row

theorem InState.alike_iff {op : SetOp} {edges : List Edge} {inA inB : Nat} {row x y : Int}
    (h : InState edges inA inB row x) (hholds : op.Holds inA inB) :
    Alike op edges x y ↔ InState edges inA inB row y := by
  rcases h with ⟨rfl, rfl, rfl⟩
  constructor
  · rintro ⟨hactive, hrow⟩
    exact ⟨(hactive .a).symm, (hactive .b).symm, (hrow hholds).symm⟩
  · rintro ⟨hinA, hinB, hrow⟩
    refine ⟨?_, fun _ => hrow.symm⟩
    intro operand
    cases operand
    · exact hinA.symm
    · exact hinB.symm

end Edge

namespace Sweep

section Runs

variable {coalesce : Bool} {op : SetOp} {edges : List Edge} {edge : Edge} {inA inB : Nat}
  {left right row : Int}

theorem mem_released_of_seams (h : Edge.Schedule edges) (hedge : edge.OnLine)
    (hleft : edge.left ≤ left) (hsides : left ≤ right) (hright : right ≤ edge.right)
    (hstate : Edge.InState edges inA inB row left) (hholds : op.Holds inA inB)
    (hrow : row < edge.row)
    (hwhole : ∀ x, left ≤ x → x < right → ¬ Edge.Seam coalesce op edges x)
    (hfirst : left = edge.left ∨ Edge.Seam coalesce op edges (left - 1))
    (hlast : right = edge.right ∨ Edge.Seam coalesce op edges right) :
    ⟨left, right, row, edge.row - 1⟩ ∈
      Band.released op edge (through coalesce op edges).bands := by
  have htracks : Tracks coalesce op edges _ := tracks_through h
  have htiles := (Band.tiles_parts htracks.tiles hedge).2.1
  have hcut := ((cutAt_through coalesce op h).parts hedge).2.1
  rcases htiles.exists_spans hleft (by omega) with ⟨band, hband, hspans⟩
  have hbounds := htiles.bounds band hband
  have hinner := hcut.whole band hband
  have hends := hcut.ends band hband
  simp only [Band.Spans] at hspans
  -- the ends of the band are seams or ends of the edge, and so are `left` and `right`
  have hbandLeft : band.left = left := by
    by_contra hne
    exact hfirst.elim (by omega) (hinner (left - 1) (by omega) (by omega))
  have hbandRight : band.right = right := by
    by_contra hne
    by_cases hlt : band.right < right
    · exact hwhole band.right (by omega) hlt (hends (by omega))
    · exact hlast.elim (by omega) (hinner right (by omega) (by omega))
  rcases Band.fits_inside htracks.fits band hband left ⟨by omega, by omega⟩ with
    ⟨hcounts, hopen⟩
  have hbandHolds : band.Holds op := by
    rw [Band.Holds, show band.inA = inA from (hcounts .a).trans hstate.inA_eq,
      show band.inB = inB from (hcounts .b).trans hstate.inB_eq]
    exact hholds
  have hopenRow := (hopen hbandHolds).trans hstate.row_eq
  refine Band.mem_released.mpr ⟨band, hband, hbandHolds, ?_, ?_⟩
  · rw [hopenRow]
    exact hrow
  · rw [hbandLeft, hbandRight, hopenRow]

theorem mem_released_of_run (h : Edge.Schedule edges) (hedge : edge.OnLine)
    (hleft : edge.left ≤ left) (hsides : left ≤ right) (hright : right ≤ edge.right)
    (hstate : ∀ x, left ≤ x → x ≤ right → Edge.InState edges inA inB row x)
    (hholds : op.Holds inA inB) (hrow : row < edge.row)
    (hfirst : left = edge.left ∨ ¬ Edge.InState edges inA inB row (left - 1))
    (hlast : right = edge.right ∨ ¬ Edge.InState edges inA inB row (right + 1)) :
    ⟨left, right, row, edge.row - 1⟩ ∈ Band.released op edge (through true op edges).bands := by
  have hseam : ∀ x, left ≤ x → x ≤ right →
      (Edge.Seam true op edges x ↔ ¬ Edge.InState edges inA inB row (x + 1)) := by
    intro x hx hx'
    rw [Edge.Seam, if_pos rfl, (hstate x hx hx').alike_iff hholds]
  refine mem_released_of_seams h hedge hleft hsides hright
    (hstate left (Int.le_refl _) hsides) hholds hrow ?_ ?_ ?_
  · intro x hx hx'
    rw [hseam x hx (by omega), not_not]
    exact hstate (x + 1) (by omega) (by omega)
  · refine hfirst.imp_right fun hdiffers => ?_
    rw [Edge.Seam, if_pos rfl, Int.sub_add_cancel]
    intro halike
    exact hdiffers (((hstate left (Int.le_refl _) hsides).alike_iff hholds).mp halike.symm)
  · exact hlast.imp_right fun hdiffers => (hseam right hsides (Int.le_refl _)).mpr hdiffers

theorem mem_emitted_of_mem_released {r : Rect} (h : Edge.Schedule edges) (hmem : edge ∈ edges)
    (hr : r ∈ Band.released op edge (through coalesce op (Edge.below edge edges)).bands) :
    r ∈ (through coalesce op edges).emitted := by
  rw [emitted_through h, List.mem_flatMap]
  exact ⟨edge.place, Edge.mem_places.mpr ⟨edge, hmem, rfl⟩, hr⟩

/-- A run of columns in one state, found by one of the edges, is emitted as one rectangle. -/
theorem mem_emitted_of_run (h : Edge.Schedule edges) (hmem : edge ∈ edges)
    (hleft : edge.left ≤ left) (hsides : left ≤ right) (hright : right ≤ edge.right)
    (hstate : ∀ x, left ≤ x → x ≤ right →
      Edge.InState (Edge.below edge edges) inA inB row x)
    (hholds : op.Holds inA inB) (hrow : row < edge.row)
    (hfirst : left = edge.left ∨
      ¬ Edge.InState (Edge.below edge edges) inA inB row (left - 1))
    (hlast : right = edge.right ∨
      ¬ Edge.InState (Edge.below edge edges) inA inB row (right + 1)) :
    ⟨left, right, row, edge.row - 1⟩ ∈ (through true op edges).emitted :=
  mem_emitted_of_mem_released h hmem (mem_released_of_run (Edge.schedule_below h edge)
    (h.onLine edge hmem) hleft hsides hright hstate hholds hrow hfirst hlast)

end Runs

end Sweep

namespace Edge

/-!
## Rows of edges

Edges are in the order of their rows first.  Of a rectangle that runs, only the start edge is below.
-/

theorem le_of_row_lt {e f : Edge} (h : e.row < f.row) : e.Le f :=
  .inl h

theorem not_le_of_row_lt {e f : Edge} (h : f.row < e.row) : ¬ e.Le f := by
  simp only [Le]
  omega

theorem le_refl (e : Edge) : e.Le e := by
  simp [Le]

section Rows

variable {e : Edge} {r s : Rect} {operand operand' : Operand}

theorem row_stop_sub_one (operand : Operand) (r : Rect) :
    (Kind.stop.edgeOf operand r).row - 1 = r.top :=
  Int.add_sub_cancel _ _

theorem lt_row_stop {row : Int} (h : row ≤ r.top) : row < (Kind.stop.edgeOf operand r).row :=
  Int.lt_add_one_of_le h

theorem top_le_of_stop_le (h : (Kind.stop.edgeOf operand r).Le (Kind.stop.edgeOf operand' s)) :
    r.top ≤ s.top := by
  simp only [Le, Kind.edgeOf, Kind.rowOf] at h
  omega

theorem start_before_stop (h : s.bottom ≤ r.top) :
    ¬ (Kind.stop.edgeOf operand r).Le (Kind.start.edgeOf operand' s) :=
  not_le_of_row_lt (lt_row_stop h)

theorem rowOf_le_bottom {operand : Operand} (hrunning : e.Le (Kind.stop.edgeOf operand r))
    {kind : Kind} (hbelow : ¬ e.Le (kind.edgeOf operand r)) : kind.rowOf r ≤ r.bottom := by
  cases kind with
  | start => exact Int.le_refl _
  | stop => exact absurd hrunning hbelow

theorem rowOf_le_top (hr : ¬ r.IsEmpty) (kind : Kind) : kind.rowOf r ≤ r.top + 1 := by
  have hsides := Rect.not_isEmpty_iff.mp hr
  cases kind <;> simp only [Kind.rowOf] <;> omega

end Rows

/-!
## States below an edge

A member of an operand counts at an edge if it has started, but not stopped, before it.
-/

section Below

variable {a b : Cover} {e : Edge} {x : Int}

theorem le_edgeOf_stop {r : Rect} (hr : ¬ r.IsEmpty) (operand : Operand)
    (h : e.Le (Kind.start.edgeOf operand r)) : e.Le (Kind.stop.edgeOf operand r) := by
  refine le_trans h (.inl ?_)
  have hsides := Rect.not_isEmpty_iff.mp hr
  simp only [Kind.edgeOf, Kind.rowOf]
  omega

theorem active_below_ofOperands {operand : Operand} (h : (coverOf a b operand).Proper) :
    active operand (below e (ofOperands a b)) x =
      (coverOf a b operand).countP fun r =>
        r.ContainsX x ∧ ¬ e.Le (Kind.start.edgeOf operand r) ∧
          e.Le (Kind.stop.edgeOf operand r) := by
  have hcount : ∀ c : Cover, c.Proper →
      c.countP (fun r => r.ContainsX x ∧ ¬ e.Le (Kind.start.edgeOf operand r)) =
        c.countP (fun r => r.ContainsX x ∧ ¬ e.Le (Kind.start.edgeOf operand r) ∧
            e.Le (Kind.stop.edgeOf operand r)) +
          c.countP fun r => r.ContainsX x ∧ ¬ e.Le (Kind.stop.edgeOf operand r) := by
    intro c hc
    induction c with
    | nil => rfl
    | cons r c ih =>
        have hstop := le_edgeOf_stop (e := e) (hc r (by simp)) operand
        have ihc := ih fun s hs => hc s (by simp [hs])
        simp only [List.countP_cons, ihc, decide_eq_true_eq]
        by_cases hx : r.ContainsX x
        · by_cases hstopped : e.Le (Kind.stop.edgeOf operand r)
          · simp [hx, hstopped]
            omega
          · have hstarted : ¬ e.Le (Kind.start.edgeOf operand r) := fun hle => hstopped (hstop hle)
            simp [hx, hstopped, hstarted]
            omega
        · simp [hx]
  rw [active, below, count_filter_ofOperands, count_filter_ofOperands, hcount _ h]
  omega

theorem lastRow_below_eq (h : Schedule (ofOperands a b)) {operand : Operand} {kind : Kind}
    {r : Rect} (hr : r ∈ coverOf a b operand) (hx : r.ContainsX x)
    (hbelow : ¬ e.Le (kind.edgeOf operand r))
    (hmax : ∀ (operand' : Operand) (s : Rect) (kind' : Kind), s ∈ coverOf a b operand' →
      s.ContainsX x → ¬ e.Le (kind'.edgeOf operand' s) → kind'.rowOf s ≤ kind.rowOf r) :
    lastRow (below e (ofOperands a b)) x = kind.rowOf r := by
  have hmem := mem_below.mpr ⟨edge_mem_ofOperands hr kind, hbelow⟩
  apply Int.le_antisymm
  · rcases exists_lastRow ⟨_, hmem, hx⟩ with ⟨f, hf, hspans, hrow⟩
    rcases mem_below.mp hf with ⟨hfmem, hfbelow⟩
    rcases mem_ofOperands hfmem with ⟨s, hs, hleft, hright, hfrow⟩
    have hsame : f = f.kind.edgeOf f.operand s := by
      rw [Kind.edgeOf, ← hleft, ← hright, ← hfrow]
    simp only [Spans, hleft, hright] at hspans
    rw [hsame] at hfbelow
    rw [← hrow, hfrow]
    exact hmax f.operand s f.kind hs hspans hfbelow
  · exact (schedule_below h e).row_le_lastRow _ hmem hx

end Below

end Edge

end Rectilinear
