import Rectilinear.Proofs.Places

/-!
# Seams between bands

Where the bands of a sweep end is told by the edges so far: with joining, at each column that
differs from the next one; without, at each end of an edge.  Since a tiling is determined by the
columns at which its bands end, a step adds the same rectangles to any two sweeps that have the same
seams and the same state in every column.
-/

namespace Rectilinear

namespace Edge

def Alike (op : SetOp) (edges : List Edge) (x y : Int) : Prop :=
  (∀ operand, active operand edges x = active operand edges y) ∧
    (op.Holds (active .a edges x) (active .b edges x) → lastRow edges x = lastRow edges y)

theorem Alike.symm {op : SetOp} {edges : List Edge} {x y : Int} (h : Alike op edges x y) :
    Alike op edges y x := by
  refine ⟨fun operand => (h.1 operand).symm, ?_⟩
  intro hholds
  rw [← h.1 .a, ← h.1 .b] at hholds
  exact (h.2 hholds).symm

/-- The bands of a sweep end at a column. -/
def Seam (coalesce : Bool) (op : SetOp) (edges : List Edge) (x : Int) : Prop :=
  if coalesce then ¬ Alike op edges x (x + 1) else ∃ e ∈ edges, e.right = x ∨ e.left = x + 1

end Edge

namespace Band

/-- The bands of a tiling up to a bound end at seams, and there is no seam within a band. -/
structure CutAt (high : Int) (seam : Int → Prop) (bands : List Band) : Prop where
  whole : ∀ band ∈ bands, ∀ x, band.left ≤ x → x < band.right → ¬ seam x
  ends : ∀ band ∈ bands, band.right < high → seam band.right

/-!
## Tilings with the same seams

Bands that tile the same columns and end at the same seams have the same columns, one by one.
-/

theorem CutAt.right_le {seam seam' : Int → Prop} {low high : Int} {first next : Band}
    {rest others : List Band} (h : CutAt high seam (first :: rest))
    (hothers : CutAt high seam' (next :: others)) (htiles : Tiles low high (first :: rest))
    (htiles' : Tiles low high (next :: others))
    (hseam : ∀ x, low ≤ x → x < high → (seam x ↔ seam' x)) : next.right ≤ first.right := by
  have hfirst := htiles.bounds first (by simp)
  have hnext := htiles'.bounds next (by simp)
  have hleft := htiles'.1
  by_contra hlt
  have hend := h.ends first (by simp) (by omega)
  rw [hseam first.right (by omega) (by omega)] at hend
  exact hothers.whole next (by simp) first.right (by omega) (by omega) hend

theorem CutAt.tail {seam : Int → Prop} {high : Int} {first : Band} {rest : List Band}
    (h : CutAt high seam (first :: rest)) : CutAt high seam rest :=
  ⟨fun band hband => h.whole band (by simp [hband]),
    fun band hband => h.ends band (by simp [hband])⟩

theorem columns_eq_of_cutAt {seam seam' : Int → Prop} {low high : Int}
    {bands others : List Band} (h : CutAt high seam bands) (hothers : CutAt high seam' others)
    (htiles : Tiles low high bands) (htiles' : Tiles low high others)
    (hseam : ∀ x, low ≤ x → x < high → (seam x ↔ seam' x)) :
    bands.map (fun band => (band.left, band.right)) =
      others.map (fun band => (band.left, band.right)) := by
  induction bands generalizing low others with
  | nil =>
      cases others with
      | nil => rfl
      | cons next others =>
          have hnext := htiles'.bounds next (by simp)
          simp only [Tiles] at htiles
          omega
  | cons first rest ih =>
      cases others with
      | nil =>
          have hfirst := htiles.bounds first (by simp)
          simp only [Tiles] at htiles'
          omega
      | cons next others =>
          have hle := h.right_le hothers htiles htiles' hseam
          have hge := hothers.right_le h htiles' htiles fun x hlow hhigh =>
            (hseam x hlow hhigh).symm
          have hright : first.right = next.right := by omega
          rcases htiles with ⟨hleft, hlow, hrest⟩
          rcases htiles' with ⟨hleft', _, hrest'⟩
          rw [← hright] at hrest'
          have htail := ih h.tail hothers.tail hrest hrest' fun x hx hhigh =>
            hseam x (by omega) hhigh
          rw [List.map_cons, List.map_cons, htail, hleft, hleft', hright]

/-!
## Cutting

A cut divides a tiling into two, whose bands still end at seams apart from the one that ends at the
cut.
-/

theorem right_of_mem_cut_fst {column : Int} {bands : List Band} :
    ∀ piece ∈ (cut column bands).1,
      piece.right = column - 1 ∨ ∃ band ∈ bands, piece.right = band.right := by
  induction bands with
  | nil => simp [cut]
  | cons band rest ih =>
      intro piece hpiece
      simp only [cut] at hpiece
      split at hpiece
      · rcases List.mem_cons.mp hpiece with rfl | hpiece
        · exact .inr ⟨piece, by simp, rfl⟩
        · rcases ih piece hpiece with hright | ⟨other, hother, hright⟩
          · exact .inl hright
          · exact .inr ⟨other, by simp [hother], hright⟩
      · split at hpiece
        · rw [List.mem_singleton.mp hpiece]
          exact .inl rfl
        · cases hpiece

theorem right_of_mem_cut_snd {column : Int} {bands : List Band} :
    ∀ piece ∈ (cut column bands).2, ∃ band ∈ bands, piece.right = band.right := by
  induction bands with
  | nil => simp [cut]
  | cons band rest ih =>
      intro piece hpiece
      simp only [cut] at hpiece
      split at hpiece
      · rcases ih piece hpiece with ⟨other, hother, hright⟩
        exact ⟨other, by simp [hother], hright⟩
      · split at hpiece
        · rcases List.mem_cons.mp hpiece with rfl | hpiece
          · exact ⟨band, by simp, rfl⟩
          · exact ⟨piece, by simp [hpiece], rfl⟩
        · exact ⟨piece, hpiece, rfl⟩

theorem CutAt.cut {seam : Int → Prop} {high : Int} {bands : List Band}
    (h : CutAt high seam bands) (column : Int) (hcolumn : column ≤ high + 1) :
    CutAt (column - 1) seam (cut column bands).1 ∧ CutAt high seam (cut column bands).2 := by
  have hwhole : ∀ piece ∈ (Band.cut column bands).1 ++ (Band.cut column bands).2,
      ∀ x, piece.left ≤ x → x < piece.right → ¬ seam x := by
    intro piece hpiece x hleft hright
    rcases pieceOf_of_mem_cut piece hpiece with ⟨band, hband, hpieceOf⟩
    exact h.whole band hband x (Int.le_trans hpieceOf.left_le hleft)
      (Int.lt_of_lt_of_le hright hpieceOf.right_le)
  refine ⟨⟨?_, ?_⟩, ⟨?_, ?_⟩⟩
  · intro piece hpiece
    exact hwhole piece (List.mem_append_left _ hpiece)
  · intro piece hpiece hlt
    rcases right_of_mem_cut_fst piece hpiece with hright | ⟨band, hband, hright⟩
    · omega
    · rw [hright]
      exact h.ends band hband (by omega)
  · intro piece hpiece
    exact hwhole piece (List.mem_append_right _ hpiece)
  · intro piece hpiece hlt
    rcases right_of_mem_cut_snd piece hpiece with ⟨band, hband, hright⟩
    rw [hright] at hlt ⊢
    exact h.ends band hband hlt

theorem CutAt.parts {seam : Int → Prop} {edge : Edge} {bands : List Band}
    (h : CutAt maxBound seam bands) (hedge : edge.OnLine) :
    CutAt (edge.left - 1) seam (before edge bands) ∧
      CutAt edge.right seam (inside edge bands) ∧
        CutAt maxBound seam (beyond edge bands) := by
  have hright := hedge.right_le
  have hsides := hedge.left_le_right
  rcases h.cut edge.left (by omega) with ⟨hbefore, honward⟩
  rcases honward.cut (edge.right + 1) (by omega) with ⟨hinside, hbeyond⟩
  rw [Int.add_sub_cancel] at hinside
  exact ⟨hbefore, hinside, hbeyond⟩

/-!
## Putting tilings together

Only the seams between the bounds of a tiling count, and nothing but the columns of its bands.
-/

theorem CutAt.congr {seam seam' : Int → Prop} {low high : Int} {bands : List Band}
    (h : CutAt high seam bands) (htiles : Tiles low high bands)
    (hseam : ∀ x, low ≤ x → x < high → (seam x ↔ seam' x)) : CutAt high seam' bands := by
  constructor
  · intro band hband x hleft hright
    have hbounds := htiles.bounds band hband
    rw [← hseam x (by omega) (by omega)]
    exact h.whole band hband x hleft hright
  · intro band hband hlt
    have hbounds := htiles.bounds band hband
    rw [← hseam band.right (by omega) hlt]
    exact h.ends band hband hlt

theorem CutAt.append {seam : Int → Prop} {low mid high : Int} {front back : List Band}
    (hfront : CutAt mid seam front) (htiles : Tiles low mid front) (hmid : seam mid)
    (hback : CutAt high seam back) : CutAt high seam (front ++ back) := by
  constructor
  · intro band hband
    rcases List.mem_append.mp hband with hband | hband
    · exact hfront.whole band hband
    · exact hback.whole band hband
  · intro band hband hlt
    rcases List.mem_append.mp hband with hband | hband
    · have hbounds := htiles.bounds band hband
      -- the last band of the front ends at `mid`, and the others before it
      by_cases hlast : band.right = mid
      · rw [hlast]
        exact hmid
      · exact hfront.ends band hband (by omega)
    · exact hback.ends band hband hlt

theorem CutAt.map {seam : Int → Prop} {high : Int} {bands : List Band} {f : Band → Band}
    (h : CutAt high seam bands) (hleft : ∀ band, (f band).left = band.left)
    (hright : ∀ band, (f band).right = band.right) : CutAt high seam (bands.map f) := by
  constructor
  · intro band hband
    rcases List.mem_map.mp hband with ⟨other, hother, rfl⟩
    rw [hleft, hright]
    exact h.whole other hother
  · intro band hband
    rcases List.mem_map.mp hband with ⟨other, hother, rfl⟩
    rw [hright]
    exact h.ends other hother

/-!
## Seams of a sweep

With joining, seams are where columns differ.  Without, an edge makes seams at its two ends, and
none disappears.
-/

section State

variable {op : SetOp} {edges : List Edge}

theorem Fits.joinable_iff {band next : Band} (h : band.Fits op edges)
    (hnext : next.Fits op edges) {x y : Int} (hx : band.Spans x) (hy : next.Spans y) :
    band.Joinable op next ↔ Edge.Alike op edges x y := by
  rcases h x hx with ⟨hcounts, hopen⟩
  rcases hnext y hy with ⟨hcounts', hopen'⟩
  have hinA : band.inA = Edge.active .a edges x := hcounts .a
  have hinB : band.inB = Edge.active .b edges x := hcounts .b
  have hinA' : next.inA = Edge.active .a edges y := hcounts' .a
  have hinB' : next.inB = Edge.active .b edges y := hcounts' .b
  constructor
  · rintro ⟨heqA, heqB, hrow⟩
    constructor
    · intro operand
      cases operand
      · rw [← hinA, ← hinA', heqA]
      · rw [← hinB, ← hinB', heqB]
    · intro hholds
      rw [← hinA, ← hinB] at hholds
      have hholds' : next.Holds op := by rwa [Holds, ← heqA, ← heqB]
      rw [← hopen hholds, ← hopen' hholds']
      exact hrow.resolve_right (not_not_intro hholds)
  · rintro ⟨hactive, hrow⟩
    have heqA : band.inA = next.inA := by rw [hinA, hinA', hactive]
    have heqB : band.inB = next.inB := by rw [hinB, hinB', hactive]
    refine ⟨heqA, heqB, ?_⟩
    by_cases hholds : band.Holds op
    · left
      have hholds' : next.Holds op := by rwa [Holds, ← heqA, ← heqB]
      rw [hopen hholds, hopen' hholds']
      apply hrow
      rw [← hinA, ← hinB]
      exact hholds
    · exact .inr hholds

theorem ends_of_reduced {low high : Int} {bands : List Band} (htiles : Tiles low high bands)
    (hfits : ∀ band ∈ bands, band.Fits op edges) (hreduced : Reduced op bands) :
    ∀ band ∈ bands, band.right < high → ¬ Edge.Alike op edges band.right (band.right + 1) := by
  induction bands generalizing low with
  | nil => simp
  | cons first rest ih =>
      rcases htiles with ⟨_, hright, hrest⟩
      rcases List.isChain_cons.mp hreduced with ⟨hhead, hchain⟩
      intro band hband hlt
      rcases List.mem_cons.mp hband with rfl | hband
      · cases rest with
        | nil =>
            simp only [Tiles] at hrest
            omega
        | cons next rest =>
            have hspans : band.Spans band.right := ⟨by omega, Int.le_refl _⟩
            have hspans' : next.Spans (band.right + 1) :=
              ⟨Int.le_of_eq hrest.1, hrest.2.1⟩
            rw [← (hfits band (by simp)).joinable_iff (hfits next (by simp)) hspans hspans']
            exact hhead next rfl
      · exact ih hrest (fun b hb => hfits b (by simp [hb])) hchain band hband hlt

theorem cutAt_of_reduced {bands : List Band} {low high : Int} (htiles : Tiles low high bands)
    (hfits : ∀ band ∈ bands, band.Fits op edges) (hreduced : Reduced op bands) :
    CutAt high (Edge.Seam true op edges) bands := by
  refine ⟨?_, ends_of_reduced htiles hfits hreduced⟩
  intro band hband x hleft hright hseam
  have hspans : band.Spans x := ⟨hleft, Int.le_of_lt hright⟩
  have hspans' : band.Spans (x + 1) := ⟨by omega, hright⟩
  have hself := (hfits band hband).joinable_iff (hfits band hband) hspans hspans'
  exact hseam (hself.mp (Joinable.refl op band))

end State

end Band

namespace Sweep

variable {op : SetOp} {edges : List Edge} {edge : Edge}

theorem seam_append_singleton {x : Int} :
    Edge.Seam false op (edges ++ [edge]) x ↔
      Edge.Seam false op edges x ∨ edge.right = x ∨ edge.left = x + 1 := by
  simp [Edge.Seam, or_and_right, exists_or]

theorem cutAt_advance {sweep : Sweep} (htiles : Band.Tiles minBound maxBound sweep.bands)
    (h : Band.CutAt maxBound (Edge.Seam false op edges) sweep.bands) (hedge : edge.OnLine) :
    Band.CutAt maxBound (Edge.Seam false op (edges ++ [edge]))
      (advance false op sweep edge).bands := by
  have hsides := hedge.left_le_right
  rcases Band.tiles_parts htiles hedge with ⟨htbefore, htinside, htbeyond⟩
  rcases h.parts hedge with ⟨hbefore, hinside, hbeyond⟩
  -- within the three parts the new edge makes no seams, since both its ends are between parts
  have hold : ∀ x, edge.right ≠ x → edge.left ≠ x + 1 →
      (Edge.Seam false op edges x ↔ Edge.Seam false op (edges ++ [edge]) x) := by
    intro x hright hleft
    simp [seam_append_singleton, hright, hleft]
  have hbefore' := hbefore.congr htbefore fun x hlow hhigh => hold x (by omega) (by omega)
  have hinside' := hinside.congr htinside fun x hlow hhigh => hold x (by omega) (by omega)
  have hbeyond' := hbeyond.congr htbeyond fun x hlow hhigh => hold x (by omega) (by omega)
  have hleft : Edge.Seam false op (edges ++ [edge]) (edge.left - 1) := by
    rw [seam_append_singleton]
    omega
  have hright : Edge.Seam false op (edges ++ [edge]) edge.right := by
    rw [seam_append_singleton]
    omega
  have hspanned := hinside'.map (f := Band.adjust edge) (fun _ => rfl) (fun _ => rfl)
  have hfront := hbefore'.append htbefore hleft hspanned
  exact hfront.append (htbefore.append (Band.tiles_spanned htiles hedge)) hright hbeyond'

theorem cutAt_through (coalesce : Bool) (op : SetOp) (h : Edge.Schedule edges) :
    Band.CutAt maxBound (Edge.Seam coalesce op edges) (through coalesce op edges).bands := by
  cases coalesce with
  | true =>
      have htracks : Tracks true op edges _ := tracks_through h
      exact Band.cutAt_of_reduced htracks.tiles htracks.fits (htracks.reduced rfl)
  | false =>
      induction h with
      | nil =>
          constructor
          · simp [Edge.Seam]
          · intro band hband hlt
            rw [List.mem_singleton.mp hband] at hlt
            exact absurd hlt (Int.lt_irrefl _)
      | snoc hedges hedge ih =>
          have htracks : Tracks false op _ _ := tracks_through hedges
          rw [through_append_singleton]
          exact cutAt_advance htracks.tiles ih hedge.toOnLine

end Sweep

end Rectilinear
