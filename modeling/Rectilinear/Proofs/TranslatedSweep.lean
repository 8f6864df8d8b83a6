import Rectilinear.Proofs.Exactness
import Rectilinear.Proofs.Similar
import Rectilinear.Proofs.Translation

/-!
# Translated sweeps

A sweep starts with one band on the whole line, which does not move with the rectangles.  Still it
emits the translated rectangles: at each edge, the seams between the ends of the edge have moved
with it, and where the operation holds, so has the last row.  Columns that no edge spans, where the
last row is that of the whole line, never count.
-/

namespace Rectilinear

namespace Edge

def translate (dx dy : Int) (e : Edge) : Edge :=
  { e with row := e.row + dy, left := e.left + dx, right := e.right + dx }

section Translate

variable {dx dy : Int} {e f p : Edge} {edges : List Edge}

@[simp] theorem le_translate : (e.translate dx dy).Le (f.translate dx dy) ↔ e.Le f := by
  simp [Le, translate]

@[simp] theorem spans_translate {x : Int} :
    (e.translate dx dy).Spans (x + dx) ↔ e.Spans x := by
  simp [Spans, translate]

theorem translate_injective : Function.Injective (translate dx dy) := by
  intro e f h
  simp only [translate, mk.injEq] at h
  rcases e with ⟨row, kind, left, right, operand⟩
  rcases f with ⟨row', kind', left', right', operand'⟩
  simp only at h
  simp only [mk.injEq]
  exact ⟨by omega, h.2.1, by omega, by omega, h.2.2.2.2⟩

theorem ofCover_translate (operand : Operand) (c : Cover) :
    ofCover operand (c.translate dx dy) = (ofCover operand c).map (translate dx dy) := by
  rw [ofCover, ofCover, Cover.translate, List.flatMap_map, List.map_flatMap]
  apply List.flatMap_congr
  intro r _
  simp [ofRect, Rect.translate, translate, Int.add_right_comm]

theorem ofOperands_translate (a b : Cover) :
    ofOperands (a.translate dx dy) (b.translate dx dy) =
      (ofOperands a b).map (translate dx dy) := by
  symm
  rw [ofOperands, ofOperands, ofCover_translate, ofCover_translate, ← List.map_append]
  apply List.map_mergeSort
  intro e _ f _
  simp

theorem below_translate :
    below (p.translate dx dy) (edges.map (translate dx dy)) =
      (below p edges).map (translate dx dy) := by
  rw [below, List.filter_map, below]
  congr 1
  apply List.filter_congr
  intro e _
  simp

theorem places_translate :
    places (edges.map (translate dx dy)) = (places edges).map (translate dx dy) := by
  induction edges using List.reverseRecOn with
  | nil => rfl
  | append_singleton edges e ih =>
      have hplace : (e.translate dx dy).place = e.place.translate dx dy := rfl
      have hmem : e.place.translate dx dy ∈ (places edges).map (translate dx dy) ↔
          e.place ∈ places edges := List.mem_map_of_injective translate_injective
      rw [List.map_append, List.map_singleton, places_append_singleton, ih, hplace,
        places_append_singleton]
      by_cases hseen : e.place ∈ places edges
      · rw [if_pos (hmem.mpr hseen), if_pos hseen]
      · rw [if_neg fun hmoved => hseen (hmem.mp hmoved), if_neg hseen, List.map_append,
          List.map_singleton]

/-!
## States of columns

The counts of a column move along with the edges, and so does its last row, if there is one.
-/

variable {x : Int}

theorem active_translate (operand : Operand) :
    active operand (edges.map (translate dx dy)) (x + dx) = active operand edges x := by
  have hcount : ∀ kind, count kind operand (edges.map (translate dx dy)) (x + dx) =
      count kind operand edges x := by
    intro kind
    rw [count, List.countP_map, count]
    apply List.countP_congr
    intro e _
    simp only [Function.comp_apply, spans_translate]
    rfl
  rw [active, active, hcount, hcount]

theorem lastRow_translate (h : ∃ e ∈ edges, e.Spans x) :
    lastRow (edges.map (translate dx dy)) (x + dx) = lastRow edges x + dy := by
  induction edges using List.reverseRecOn with
  | nil => simp at h
  | append_singleton edges e ih =>
      rw [List.map_append, List.map_singleton, lastRow_append_singleton, lastRow_append_singleton]
      by_cases hspans : e.Spans x
      · rw [if_pos (spans_translate.mpr hspans), if_pos hspans]
        rfl
      · rw [if_neg fun hmoved => hspans (spans_translate.mp hmoved), if_neg hspans]
        apply ih
        rcases h with ⟨f, hf, hfspans⟩
        rcases List.mem_append.mp hf with hf | hf
        · exact ⟨f, hf, hfspans⟩
        · rw [List.mem_singleton.mp hf] at hfspans
          exact absurd hfspans hspans

theorem exists_spans_of_holds {op : SetOp}
    (h : op.Holds (active .a edges x) (active .b edges x)) : ∃ e ∈ edges, e.Spans x := by
  rcases SetOp.pos_of_holds h with hpos | hpos
  · exact exists_spans_of_active_pos hpos
  · exact exists_spans_of_active_pos hpos

theorem alike_translate {op : SetOp} {y : Int} :
    Alike op (edges.map (translate dx dy)) (x + dx) (y + dx) ↔ Alike op edges x y := by
  simp only [Alike, active_translate]
  -- the rows are compared only where the operation holds, so that an edge spans both columns
  refine and_congr_right fun hactive => forall_congr' fun hholds => ?_
  have hholds' : op.Holds (active .a edges y) (active .b edges y) := by
    rwa [← hactive .a, ← hactive .b]
  rw [lastRow_translate (exists_spans_of_holds hholds),
    lastRow_translate (exists_spans_of_holds hholds')]
  omega

theorem seam_translate {coalesce : Bool} {op : SetOp} :
    Seam coalesce op (edges.map (translate dx dy)) (x + dx) ↔ Seam coalesce op edges x := by
  cases coalesce with
  | true =>
      rw [Seam, if_pos rfl, Seam, if_pos rfl, Int.add_right_comm, alike_translate]
  | false =>
      simp only [Seam, Bool.false_eq_true, if_false, List.mem_map, exists_exists_and_eq_and,
        translate]
      constructor
      · rintro ⟨e, he, hend⟩
        exact ⟨e, he, by omega⟩
      · rintro ⟨e, he, hend⟩
        exact ⟨e, he, by omega⟩

end Translate

end Edge

namespace Band

/-!
## Columns

A tiling that is moved is a tiling of the moved columns, though no band of a sweep moves by itself.
-/

def shift (dx : Int) (band : Band) : Band :=
  { band with left := band.left + dx, right := band.right + dx }

theorem Tiles.shift {low high : Int} {bands : List Band} (h : Tiles low high bands) (dx : Int) :
    Tiles (low + dx) (high + dx) (bands.map (Band.shift dx)) := by
  induction bands generalizing low with
  | nil =>
      simp only [Tiles] at h
      simp only [List.map_nil, Tiles]
      omega
  | cons band rest ih =>
      rcases h with ⟨hleft, hright, hrest⟩
      have hmoved := ih hrest
      rw [Int.add_right_comm] at hmoved
      refine ⟨?_, ?_, hmoved⟩
      · show band.left + dx = low + dx
        omega
      · show low + dx ≤ band.right + dx
        omega

theorem CutAt.shift {high : Int} {seam seam' : Int → Prop} {bands : List Band}
    (h : CutAt high seam bands) (dx : Int) (hseam : ∀ x, seam' (x + dx) ↔ seam x) :
    CutAt (high + dx) seam' (bands.map (Band.shift dx)) := by
  constructor
  · intro band hband x hleft hright
    rcases List.mem_map.mp hband with ⟨other, hother, rfl⟩
    simp only [Band.shift] at hleft hright
    rw [← Int.sub_add_cancel x dx, hseam]
    exact h.whole other hother (x - dx) (by omega) (by omega)
  · intro band hband hlt
    rcases List.mem_map.mp hband with ⟨other, hother, rfl⟩
    simp only [Band.shift] at hlt ⊢
    rw [hseam]
    exact h.ends other hother (by omega)

end Band

namespace Sweep

section Translate

variable {dx dy : Int} {coalesce : Bool} {op : SetOp} {edges : List Edge} {edge : Edge}

theorem strip_translate (columns : Int × Int) :
    strip op (edges.map (Edge.translate dx dy)) (edge.translate dx dy)
        (columns.1 + dx, columns.2 + dx) =
      Cover.translate dx dy (strip op edges edge columns) := by
  simp only [strip, Edge.active_translate]
  by_cases hholds : op.Holds (Edge.active .a edges columns.1) (Edge.active .b edges columns.1)
  · have hrow : (edge.translate dx dy).row = edge.row + dy := rfl
    simp only [Edge.lastRow_translate (Edge.exists_spans_of_holds hholds), hrow,
      Int.add_lt_add_iff_right]
    split
    · simp only [Cover.translate, Rect.translate, List.map_singleton, List.cons.injEq, and_true,
        Rect.mk.injEq, true_and]
      omega
    · rfl
  · rw [if_neg fun h => hholds h.1, if_neg fun h => hholds h.1]
    rfl

theorem released_translate (h : Edge.Schedule edges)
    (hmoved : Edge.Schedule (edges.map (Edge.translate dx dy))) (hedge : edge.OnLine)
    (hedge' : (edge.translate dx dy).OnLine) :
    Band.released op (edge.translate dx dy)
        (through coalesce op (edges.map (Edge.translate dx dy))).bands =
      Cover.translate dx dy (Band.released op edge (through coalesce op edges).bands) := by
  have htracks : Tracks coalesce op edges _ := tracks_through h
  have htracks' : Tracks coalesce op (edges.map (Edge.translate dx dy)) _ := tracks_through hmoved
  have hcut := ((cutAt_through coalesce op h).parts hedge).2.1
  have hcolumns := Band.columns_eq_of_cutAt
    (hcut.shift dx fun _ => Edge.seam_translate)
    ((cutAt_through coalesce op hmoved).parts hedge').2.1
    ((Band.tiles_parts htracks.tiles hedge).2.1.shift dx)
    (Band.tiles_parts htracks'.tiles hedge').2.1 fun _ _ _ => Iff.rfl
  rw [htracks.released_eq hedge, htracks'.released_eq hedge', ← hcolumns, List.map_map,
    List.flatMap_map, List.flatMap_map, Cover.translate, List.map_flatMap]
  apply List.flatMap_congr
  intro band _
  exact strip_translate (band.left, band.right)

theorem emitted_translate (h : Edge.Schedule edges)
    (hmoved : Edge.Schedule (edges.map (Edge.translate dx dy))) :
    (through coalesce op (edges.map (Edge.translate dx dy))).emitted =
      Cover.translate dx dy (through coalesce op edges).emitted := by
  rw [emitted_through h, emitted_through hmoved, Edge.places_translate, List.flatMap_map,
    Cover.translate, List.map_flatMap]
  apply List.flatMap_congr
  intro p hp
  rcases Edge.mem_places.mp hp with ⟨e, he, rfl⟩
  have hbelow := Edge.schedule_below hmoved (e.place.translate dx dy)
  rw [Edge.below_translate] at hbelow ⊢
  exact released_translate (Edge.schedule_below h e.place) hbelow (h.onLine e he).place
    (hmoved.onLine _ (List.mem_map_of_mem he)).place

end Translate

end Sweep

namespace Cover

/-!
## Outcomes

What is emitted moves along, and with it the outcome, in whichever way it is found.
-/

theorem coverage_translate (dx dy : Int) (c : Cover) (x y : Int) :
    (c.translate dx dy).coverage x y = c.coverage (x - dx) (y - dy) := by
  rw [coverage, translate, List.countP_map, coverage]
  apply List.countP_congr
  intro r _
  simp [Rect.contains_translate]

theorem Proper.translate {c : Cover} (h : c.Proper) (dx dy : Int) : (c.translate dx dy).Proper := by
  intro r hr
  rcases List.mem_map.mp hr with ⟨s, hs, rfl⟩
  rw [Rect.isEmpty_translate]
  exact h s hs

theorem Sweepable.translate {c : Cover} (h : c.Sweepable) {dx dy : Int}
    (hrange : (c.translate dx dy).InRange) : (c.translate dx dy).Sweepable := by
  refine ⟨hrange, ?_⟩
  intro x y
  rw [coverage_translate]
  exact h.coverage_le _ _

end Cover

section Outcome

variable {a b : Cover} (ha : a.Proper) (hb : b.Proper) (hsa : a.Sweepable) (hsb : b.Sweepable)
  {dx dy : Int} (hrangea : (a.translate dx dy).InRange) (hrangeb : (b.translate dx dy).InRange)

include ha hb hsa hsb hrangea hrangeb

theorem Cover.swept_translate (coalesce : Bool) (op : SetOp) :
    swept coalesce op (a.translate dx dy) (b.translate dx dy) =
      (swept coalesce op a b).translate dx dy := by
  have hmoved := Edge.schedule_ofOperands (ha.translate dx dy) (hb.translate dx dy)
    (hsa.translate hrangea) (hsb.translate hrangeb)
  rw [Edge.ofOperands_translate] at hmoved
  rw [swept, swept, Edge.ofOperands_translate,
    Sweep.emitted_translate (Edge.schedule_ofOperands ha hb hsa hsb) hmoved, normalize_translate]

theorem Combination.outcome_translate (arith : Arith) (settings : Settings) (op : SetOp) :
    ∃ c, (ofNonempty arith settings op a b).outcome = .ok c ∧
      (ofNonempty arith settings op (a.translate dx dy) (b.translate dx dy)).outcome =
        .ok (c.translate dx dy) := by
  by_cases hfast : settings.pairwiseFastPath = true ∧ a.length = 1 ∧ b.length = 1
  · rcases hfast with ⟨hfast, hlength, hlength'⟩
    rcases List.length_eq_one_iff.mp hlength with ⟨r, rfl⟩
    rcases List.length_eq_one_iff.mp hlength' with ⟨s, rfl⟩
    have hr : r.InRange := hsa.inRange r (by simp)
    have hs : s.InRange := hsb.inRange s (by simp)
    have hr' : (r.translate dx dy).InRange := hrangea _ (by simp [Cover.translate])
    have hs' : (s.translate dx dy).InRange := hrangeb _ (by simp [Cover.translate])
    refine ⟨_, outcome_ofNonempty_singletons arith op hfast hr hs, ?_⟩
    rw [← ClosedForm.cover_translate, ← ClosedForm.closedForm_translate]
    exact outcome_ofNonempty_singletons arith op hfast hr' hs'
  · refine ⟨_, outcome_ofNonempty hsa hsb ha hb arith settings op hfast, ?_⟩
    rw [← Cover.swept_translate ha hb hsa hsb hrangea hrangeb]
    apply outcome_ofNonempty (hsa.translate hrangea) (hsb.translate hrangeb)
      (ha.translate dx dy) (hb.translate dx dy)
    rwa [Cover.length_translate, Cover.length_translate]

end Outcome

namespace Cover

/-- A set operation on translated operands gives the translated list, also where a bound comes to be
infinite or ceases to be. -/
theorem combine_translate (settings : Settings) (op : SetOp) {a b : Cover} (hsa : a.Sweepable)
    (hsb : b.Sweepable) {dx dy : Int} (hrangea : (a.translate dx dy).InRange)
    (hrangeb : (b.translate dx dy).InRange) :
    ∃ c, combine settings op a b = .ok c ∧
      combine settings op (a.translate dx dy) (b.translate dx dy) = .ok (c.translate dx dy) := by
  have ha' := inRange_nonempty hrangea
  have hb' := inRange_nonempty hrangeb
  rw [nonempty_translate] at ha' hb'
  rcases Combination.outcome_translate (proper_nonempty a) (proper_nonempty b) hsa.nonempty
    hsb.nonempty ha' hb' .word settings op with ⟨c, houtcome, hmoved⟩
  refine ⟨c, houtcome, ?_⟩
  rw [combine, Combination.ofOperands, nonempty_translate, nonempty_translate]
  exact hmoved

theorem combine_translate_infinite :
    ∃ c, combine { coalesceBands := false } .xor
          [⟨0, maxBound - 2, 0, maxBound - 3⟩, ⟨5, 3, 0, 0⟩]
          [⟨minBound, 4, minBound, 1⟩, ⟨3, 7, 0, 2⟩] = .ok c ∧
      combine { coalesceBands := false } .xor
          (translate 2 3 [⟨0, maxBound - 2, 0, maxBound - 3⟩, ⟨5, 3, 0, 0⟩])
          (translate 2 3 [⟨minBound, 4, minBound, 1⟩, ⟨3, 7, 0, 2⟩]) =
        .ok (c.translate 2 3) :=
  combine_translate _ _ (sweepable_of_length (by decide) (by decide))
    (sweepable_of_length (by decide) (by decide)) (by decide) (by decide)

end Cover

end Rectilinear
