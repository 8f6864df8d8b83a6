import Mathlib.Data.List.Induction
import Rectilinear.Proofs.Schedule
import Rectilinear.Proofs.Tiling

/-!
# Sweeps that cannot fail

On a schedule no split, count or bound of a sweep leaves its range, so that it makes the steps that
it would make on unbounded integers.  There an edge is a total function: cut the line at the two
ends of the edge, adjust the bands between them, and join what can be joined.  The invariant that
carries this from edge to edge says that the bands tile the line and that each tells the state of
its columns.
-/

namespace Rectilinear

namespace Band

def countOf (band : Band) : Operand → Nat
  | .a => band.inA
  | .b => band.inB

def adjust (edge : Edge) (band : Band) : Band :=
  { band with
    openRow := edge.row
    inA := if edge.operand = .a then edge.kind.adjust band.inA else band.inA
    inB := if edge.operand = .b then edge.kind.adjust band.inB else band.inB }

def before (edge : Edge) (bands : List Band) : List Band :=
  (cut edge.left bands).1

def inside (edge : Edge) (bands : List Band) : List Band :=
  (cut (edge.right + 1) (cut edge.left bands).2).1

def beyond (edge : Edge) (bands : List Band) : List Band :=
  (cut (edge.right + 1) (cut edge.left bands).2).2

/-- The rectangle that a band adds to the result when it changes at a row, if it adds one. -/
def covered (op : SetOp) (row : Int) (band : Band) : Cover :=
  if band.Holds op ∧ band.openRow < row then [⟨band.left, band.right, band.openRow, row - 1⟩]
  else []

def released (op : SetOp) (edge : Edge) (bands : List Band) : Cover :=
  (inside edge bands).flatMap (covered op edge.row)

/-- The band tells the state of each of its columns.  Its opening row matters only where the
operation holds. -/
def Fits (op : SetOp) (edges : List Edge) (band : Band) : Prop :=
  ∀ x, band.Spans x → (∀ operand, band.countOf operand = Edge.active operand edges x) ∧
    (band.Holds op → band.openRow = Edge.lastRow edges x)

end Band

namespace Sweep

def advance (coalesce : Bool) (op : SetOp) (sweep : Sweep) (edge : Edge) : Sweep :=
  let bands := Band.before edge sweep.bands ++
    (Band.inside edge sweep.bands).map (Band.adjust edge) ++ Band.beyond edge sweep.bands
  { bands := if coalesce then Band.join op bands else bands
    emitted := sweep.emitted ++ Band.released op edge sweep.bands }

def through (coalesce : Bool) (op : SetOp) (edges : List Edge) : Sweep :=
  edges.foldl (advance coalesce op) initial

structure Tracks (coalesce : Bool) (op : SetOp) (edges : List Edge) (bands : List Band) : Prop where
  tiles : Band.Tiles minBound maxBound bands
  fits : ∀ band ∈ bands, band.Fits op edges
  reduced : coalesce = true → Band.Reduced op bands

end Sweep

namespace Band

/-!
## Steps that succeed

A band is only split strictly between its ends, and an edge only starts at a column that some band
reaches.  The rows between which a band is emitted are bounds as soon as an edge has opened it.
-/

section Success

variable {arith : Arith} {op : SetOp} {edge : Edge} {bands : List Band} {low high : Int}

theorem splitBefore_eq (h : Tiles low high bands) (hlow : minBound ≤ low) (hhigh : high ≤ maxBound)
    {column : Int} (hcolumn : low ≤ column ∧ column ≤ high) :
    splitBefore arith column bands = .ok (cut column bands) := by
  induction bands generalizing low with
  | nil =>
      simp only [Tiles] at h
      omega
  | cons band rest ih =>
      rcases h with ⟨hleft, hright, hrest⟩
      have hend := hrest.low_le
      simp only [splitBefore, cut]
      split
      · rw [ih hrest (by omega) (by omega)]
        rfl
      · split
        · rw [Arith.prev?_of_gt (by omega)]
          simp only [split, Arith.next?_of_lt (show column - 1 < maxBound by omega),
            Int.sub_add_cancel]
          rfl
        · rfl

theorem emitted_eq {row : Int} {band : Band} (hrow : row ≤ maxBound + 1)
    (hopen : band.Holds op → minBound ≤ band.openRow) :
    band.emitted arith op row = .ok (band.covered op row) := by
  unfold emitted covered singletonIf
  split
  · rename_i h
    have hlow := hopen h.1
    have hlt := h.2
    have hfirst : InRange band.openRow := ⟨hlow, by omega⟩
    have hlast : InRange (row - 1) := ⟨by omega, by omega⟩
    rw [rectBefore, Arith.bound_of_inRange hfirst, Arith.bound_of_inRange hlast]
    rfl
  · rfl

theorem apply_eq {band : Band}
    (hstart : edge.kind = .start → band.countOf edge.operand < Arith.maxCount)
    (hstop : edge.kind = .stop → 0 < band.countOf edge.operand) :
    band.apply arith edge = .ok (band.adjust edge) := by
  unfold apply adjust
  cases hkind : edge.kind with
  | start =>
      have hlt := hstart hkind
      cases hoperand : edge.operand <;> rw [hoperand] at hlt <;> simp only [countOf] at hlt <;>
        simp only [Arith.more_of_lt hlt] <;> rfl
  | stop =>
      have hpos := hstop hkind
      cases hoperand : edge.operand <;> rw [hoperand] at hpos <;>
        simp only [countOf] at hpos <;> simp [Nat.ne_of_gt hpos, Edge.Kind.adjust]

theorem cross_eq (h : Tiles low high bands) (hhigh : high ≤ maxBound)
    (hspanned : ∀ band ∈ (cut (edge.right + 1) bands).1,
      band.emitted arith op edge.row = .ok (band.covered op edge.row) ∧
        band.apply arith edge = .ok (band.adjust edge)) :
    cross arith op edge bands =
      .ok
        { spanned := (cut (edge.right + 1) bands).1.map (adjust edge)
          beyond := (cut (edge.right + 1) bands).2
          emitted := (cut (edge.right + 1) bands).1.flatMap (covered op edge.row) } := by
  induction bands generalizing low with
  | nil => rfl
  | cons band rest ih =>
      rcases h with ⟨hleft, hright, hrest⟩
      have hend := hrest.low_le
      simp only [cross, cut] at *
      by_cases hbeyond : edge.right < band.left
      · rw [if_pos hbeyond, if_neg (by omega), if_neg (by omega)]
        rfl
      · rw [if_neg hbeyond]
        by_cases hacross : edge.right < band.right
        · rw [if_neg (show ¬ band.right < edge.right + 1 by omega),
            if_pos (show band.left < edge.right + 1 by omega)] at hspanned ⊢
          simp only [List.forall_mem_singleton, Int.add_sub_cancel] at hspanned
          rw [if_pos hacross, split, Arith.next?_of_lt (by omega)]
          simp only [Int.add_sub_cancel, List.map_singleton, List.flatMap_singleton]
          change (emitted arith op edge.row { band with right := edge.right }).bind _ = _
          rw [hspanned.1]
          change (apply arith edge { band with right := edge.right }).bind _ = _
          rw [hspanned.2]
          rfl
        · rw [if_pos (show band.right < edge.right + 1 by omega)] at hspanned ⊢
          rw [List.forall_mem_cons] at hspanned
          rw [if_neg hacross, hspanned.1.1, hspanned.1.2, ih hrest hspanned.2]
          rfl

end Success

/-!
## The bands around an edge

The bands before, inside and beyond an edge are pieces of the bands there were, and tile the three
parts of the line.  A piece tells the state of its columns as the whole band did.  The edge changes
the state of the columns that it spans and of no other one.
-/

section Parts

variable {coalesce : Bool} {op : SetOp} {edges : List Edge} {edge : Edge} {bands : List Band}

theorem tiles_parts (h : Tiles minBound maxBound bands) (hedge : edge.OnLine) :
    Tiles minBound (edge.left - 1) (before edge bands) ∧
      Tiles edge.left edge.right (inside edge bands) ∧
        Tiles (edge.right + 1) maxBound (beyond edge bands) := by
  have hleft := hedge.left_ge
  have hright := hedge.right_le
  have hsides := hedge.left_le_right
  rcases h.cut edge.left hleft (by omega) with ⟨hbefore, honward⟩
  rcases honward.cut (edge.right + 1) (by omega) (by omega) with ⟨hinside, hbeyond⟩
  rw [Int.add_sub_cancel] at hinside
  exact ⟨hbefore, hinside, hbeyond⟩

theorem tiles_spanned (h : Tiles minBound maxBound bands) (hedge : edge.OnLine) :
    Tiles (edge.left - 1 + 1) edge.right ((inside edge bands).map (adjust edge)) := by
  rw [Int.sub_add_cancel]
  exact (tiles_map (f := adjust edge) (fun _ => rfl) (fun _ => rfl)).mpr
    (tiles_parts h hedge).2.1

theorem pieceOf_of_mem_before :
    ∀ piece ∈ before edge bands, ∃ band ∈ bands, piece.PieceOf band := by
  intro piece hpiece
  exact pieceOf_of_mem_cut piece (List.mem_append_left _ hpiece)

theorem pieceOf_of_mem_onward {piece : Band}
    (h : piece ∈ inside edge bands ++ beyond edge bands) : ∃ band ∈ bands, piece.PieceOf band := by
  rcases pieceOf_of_mem_cut piece h with ⟨part, hpart, hpiece⟩
  rcases pieceOf_of_mem_cut part (List.mem_append_right _ hpart) with ⟨band, hband, hpartOf⟩
  exact ⟨band, hband, hpiece.trans hpartOf⟩

theorem pieceOf_of_mem_inside :
    ∀ piece ∈ inside edge bands, ∃ band ∈ bands, piece.PieceOf band := by
  intro piece hpiece
  exact pieceOf_of_mem_onward (List.mem_append_left _ hpiece)

theorem pieceOf_of_mem_beyond :
    ∀ piece ∈ beyond edge bands, ∃ band ∈ bands, piece.PieceOf band := by
  intro piece hpiece
  exact pieceOf_of_mem_onward (List.mem_append_right _ hpiece)

theorem PieceOf.fits {piece band : Band} (h : piece.PieceOf band) (hband : band.Fits op edges) :
    piece.Fits op edges := by
  intro x hx
  have hspans : band.Spans x := ⟨Int.le_trans h.left_le hx.1, Int.le_trans hx.2 h.right_le⟩
  rcases hband x hspans with ⟨hcounts, hopen⟩
  constructor
  · intro operand
    rw [← hcounts operand]
    cases operand
    · exact h.inA_eq
    · exact h.inB_eq
  · intro hholds
    rw [Holds, h.inA_eq, h.inB_eq] at hholds
    exact h.openRow_eq.trans (hopen hholds)

theorem fits_inside (h : ∀ band ∈ bands, band.Fits op edges) :
    ∀ band ∈ inside edge bands, band.Fits op edges := by
  intro piece hpiece
  rcases pieceOf_of_mem_inside piece hpiece with ⟨band, hband, hpieceOf⟩
  exact hpieceOf.fits (h band hband)

theorem reduced_parts (h : Reduced op bands) (edge : Edge) :
    Reduced op (before edge bands) ∧ Reduced op (inside edge bands) ∧
      Reduced op (beyond edge bands) :=
  ⟨h.cut.1, h.cut.2.cut.1, h.cut.2.cut.2⟩

theorem exists_countOf_pos {band : Band} (h : band.Holds op) :
    ∃ operand, 0 < band.countOf operand := by
  rcases SetOp.pos_of_holds h with hinA | hinB
  · exact ⟨.a, hinA⟩
  · exact ⟨.b, hinB⟩

theorem Fits.openRow_bounds {band : Band} (h : band.Fits op edges)
    (hedges : Edge.Schedule edges) {x : Int} (hx : band.Spans x) (hholds : band.Holds op) :
    minBound ≤ band.openRow ∧ band.openRow ≤ maxBound + 1 := by
  rcases h x hx with ⟨hcounts, hopen⟩
  rcases exists_countOf_pos hholds with ⟨operand, hpos⟩
  rw [hcounts operand] at hpos
  rcases Edge.exists_lastRow (Edge.exists_spans_of_active_pos hpos) with ⟨e, he, _, hrow⟩
  rw [hopen hholds, ← hrow]
  exact hedges.row_bounds e he

theorem Fits.of_not_spans {band : Band} (h : band.Fits op edges) (hedges : Edge.Schedule edges)
    (hbeside : ∀ x, band.Spans x → ¬ edge.Spans x) : band.Fits op (edges ++ [edge]) := by
  intro x hx
  rcases h x hx with ⟨hcounts, hopen⟩
  have hedge := hbeside x hx
  constructor
  · intro operand
    rw [hedges.active_append_singleton, if_neg fun hspans => hedge hspans.2]
    exact hcounts operand
  · intro hholds
    rw [Edge.lastRow_append_singleton, if_neg hedge]
    exact hopen hholds

theorem Fits.adjust {band : Band} (h : band.Fits op edges) (hedges : Edge.Schedule edges)
    (hspanned : ∀ x, band.Spans x → edge.Spans x) :
    (band.adjust edge).Fits op (edges ++ [edge]) := by
  intro x hx
  have hedge := hspanned x hx
  have hcounts := (h x hx).1
  constructor
  · intro operand
    rw [hedges.active_append_singleton, ← hcounts operand]
    cases operand <;> simp [hedge, Band.adjust, countOf]
  · intro _
    rw [Edge.lastRow_append_singleton, if_pos hedge]
    rfl

theorem Fits.join {first next : Band} (hfirst : first.Fits op edges) (hnext : next.Fits op edges)
    (hadjacent : next.left = first.right + 1) (hjoinable : first.Joinable op next) :
    Fits op edges { first with right := next.right } := by
  intro x hx
  by_cases hx' : x ≤ first.right
  · exact hfirst x ⟨hx.1, hx'⟩
  · have hspans : next.Spans x := ⟨by omega, hx.2⟩
    rcases hnext x hspans with ⟨hcounts, hopen⟩
    rcases hjoinable with ⟨hinA, hinB, hrow⟩
    constructor
    · intro operand
      rw [← hcounts operand]
      cases operand
      · exact hinA
      · exact hinB
    · intro hholds
      have hfirstHolds : first.Holds op := hholds
      have hnextHolds : next.Holds op := by rwa [Holds, hinA, hinB] at hfirstHolds
      rw [← hopen hnextHolds]
      exact hrow.resolve_right (not_not_intro hfirstHolds)

end Parts

end Band

namespace Sweep

/-!
## The invariant

A step keeps the invariant and does not fail, whatever the arithmetic, so that by induction over a
schedule the same holds of a run.  A band that the edge spans has a column in common with it, and
what the schedule says of this column bounds the counts and the rows of the band.
-/

section Invariant

variable {arith : Arith} {coalesce : Bool} {op : SetOp} {edges : List Edge} {edge : Edge}
  {bands : List Band} {sweep : Sweep}

theorem through_append_singleton :
    through coalesce op (edges ++ [edge]) =
      advance coalesce op (through coalesce op edges) edge := by
  rw [through, List.foldl_append]
  rfl

theorem tracks_initial (coalesce : Bool) (op : SetOp) : Tracks coalesce op [] initial.bands := by
  refine ⟨⟨rfl, by decide, rfl⟩, ?_, fun _ => List.IsChain.singleton _⟩
  intro band hband x _
  rw [List.mem_singleton.mp hband]
  constructor
  · intro operand
    cases operand <;> rfl
  · intro hholds
    exact absurd hholds op.not_holds_zero

theorem Tracks.fits_append_singleton (h : Tracks coalesce op edges bands)
    (hedges : Edge.Schedule edges) (hedge : Edge.Admits edges edge) :
    ∀ band ∈ Band.before edge bands ++ (Band.inside edge bands).map (Band.adjust edge) ++
      Band.beyond edge bands, band.Fits op (edges ++ [edge]) := by
  rcases Band.tiles_parts h.tiles hedge.toOnLine with ⟨hbefore, hinside, hbeyond⟩
  intro band hband
  rcases List.mem_append.mp hband with hband | hband
  · rcases List.mem_append.mp hband with hband | hband
    · rcases Band.pieceOf_of_mem_before band hband with ⟨whole, hwhole, hpiece⟩
      refine (hpiece.fits (h.fits whole hwhole)).of_not_spans hedges ?_
      intro x hx hspans
      have hbounds := hbefore.bounds band hband
      simp only [Band.Spans, Edge.Spans] at hx hspans
      omega
    · rcases List.mem_map.mp hband with ⟨piece, hpiece, rfl⟩
      refine (Band.fits_inside h.fits piece hpiece).adjust hedges ?_
      intro x hx
      have hbounds := hinside.bounds piece hpiece
      simp only [Band.Spans, Edge.Spans] at hx ⊢
      omega
  · rcases Band.pieceOf_of_mem_beyond band hband with ⟨whole, hwhole, hpiece⟩
    refine (hpiece.fits (h.fits whole hwhole)).of_not_spans hedges ?_
    intro x hx hspans
    have hbounds := hbeyond.bounds band hband
    simp only [Band.Spans, Edge.Spans] at hx hspans
    omega

theorem Tracks.advance (h : Tracks coalesce op edges sweep.bands) (hedges : Edge.Schedule edges)
    (hedge : Edge.Admits edges edge) :
    Tracks coalesce op (edges ++ [edge]) (advance coalesce op sweep edge).bands := by
  rcases Band.tiles_parts h.tiles hedge.toOnLine with ⟨hbefore, _, hbeyond⟩
  have htiles : Band.Tiles minBound maxBound
      (Band.before edge sweep.bands ++ (Band.inside edge sweep.bands).map (Band.adjust edge) ++
        Band.beyond edge sweep.bands) :=
    (hbefore.append (Band.tiles_spanned h.tiles hedge.toOnLine)).append hbeyond
  have hfits := h.fits_append_singleton hedges hedge
  cases coalesce with
  | true =>
      exact ⟨htiles.join, Band.forall_mem_join htiles hfits fun _ _ => Band.Fits.join,
        fun _ => Band.reduced_join op _⟩
  | false =>
      refine ⟨htiles, hfits, ?_⟩
      intro hfalse
      cases hfalse

theorem Tracks.spanned_eq (h : Tracks coalesce op edges sweep.bands)
    (hedges : Edge.Schedule edges) (hedge : Edge.Admits edges edge) :
    ∀ band ∈ Band.inside edge sweep.bands,
      band.emitted arith op edge.row = .ok (band.covered op edge.row) ∧
        band.apply arith edge = .ok (band.adjust edge) := by
  have hinside := (Band.tiles_parts h.tiles hedge.toOnLine).2.1
  intro band hband
  have hbounds := hinside.bounds band hband
  have hspans : band.Spans band.left ∧ edge.Spans band.left := by
    simp only [Band.Spans, Edge.Spans]
    omega
  have hfits := Band.fits_inside h.fits band hband
  have hcount := (hfits _ hspans.1).1 edge.operand
  constructor
  · apply Band.emitted_eq hedge.row_le
    intro hholds
    exact (hfits.openRow_bounds hedges hspans.1 hholds).1
  · apply Band.apply_eq
    · intro hkind
      rw [hcount]
      exact hedge.start hkind _ hspans.2
    · intro hkind
      have hstarted := hedge.stop hkind _ hspans.2
      rw [hcount, Edge.active]
      omega

theorem step_eq (h : Tracks coalesce op edges sweep.bands) (hedges : Edge.Schedule edges)
    (hedge : Edge.Admits edges edge) :
    step arith coalesce op sweep edge = .ok (advance coalesce op sweep edge) := by
  have hcolumn : minBound ≤ edge.left ∧ edge.left ≤ maxBound :=
    ⟨hedge.left_ge, Int.le_trans hedge.left_le_right hedge.right_le⟩
  have honward := (h.tiles.cut edge.left hcolumn.1 (by omega)).2
  -- the bands tile the line, so that the first column of the edge is in one of them
  rw [step, Band.splitBefore_eq h.tiles (Int.le_refl _) (Int.le_refl _) hcolumn]
  change (Band.cross arith op edge (Band.cut edge.left sweep.bands).2).bind _ = _
  rw [Band.cross_eq honward (Int.le_refl _) (h.spanned_eq hedges hedge)]
  cases hcoalesce : coalesce with
  | true =>
      -- what is outside the edge was joined before, and joining around the edge is joining all
      rcases Band.reduced_parts (h.reduced hcoalesce) edge with ⟨hfront, _, hback⟩
      have hjoin := Band.joinAround_eq_join
        ((Band.inside edge sweep.bands).map (Band.adjust edge)) hfront hback
      rw [advance, if_pos rfl, ← hjoin]
      rfl
  | false => rfl

theorem tracks_through (h : Edge.Schedule edges) :
    Tracks coalesce op edges (through coalesce op edges).bands := by
  induction h with
  | nil => exact tracks_initial coalesce op
  | snoc hedges hedge ih =>
      rw [through_append_singleton]
      exact ih.advance hedges hedge

theorem step_through (hedges : Edge.Schedule edges) (hedge : Edge.Admits edges edge) :
    step arith coalesce op (through coalesce op edges) edge =
      .ok (through coalesce op (edges ++ [edge])) := by
  rw [step_eq (tracks_through hedges) hedges hedge, through_append_singleton]

theorem run_eq (h : Edge.Schedule edges) :
    run arith coalesce op edges = .ok (through coalesce op edges) := by
  induction h with
  | nil => rfl
  | @snoc edges edge hedges hedge ih =>
      rw [run_append, ih]
      change List.foldlM _ (through coalesce op edges) [edge] = _
      rw [List.foldlM_cons, step_through hedges hedge]
      rfl

end Invariant

end Sweep

end Rectilinear
