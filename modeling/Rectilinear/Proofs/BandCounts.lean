import Mathlib.Data.Finset.Card
import Mathlib.Data.Finset.Image
import Rectilinear.Proofs.Prefixes
import Rectilinear.Proofs.Seams

/-!
# How many bands a sweep has

Since bands start at the least bound and after each seam, they are as many as these columns.
Without joining, the seams are where the sides of members are: each column at which a member starts,
or the first one after it, takes a split, and no other does.  With joining, no two neighbours are
left joinable after any edge; after the last one all columns are alike, so that a single band is
left.
-/

namespace Rectilinear

/-- The columns at which a member starts, and those after one has ended, other than the least one.
-/
def Cover.bandStarts (c : Cover) : Finset Int :=
  {x ∈ (c.map Rect.left).toFinset | minBound < x} ∪
    {x ∈ (c.map Rect.right).toFinset | x < maxBound}.image fun x => x + 1

namespace Band

/-!
## Counting by seams

Bands start at different columns: at the least bound and after each seam.  Their number is that of
these columns.
-/

theorem Tiles.nodup_lefts {low high : Int} {bands : List Band} (h : Tiles low high bands) :
    (bands.map left).Nodup := by
  rw [List.Nodup, List.pairwise_map]
  refine h.pairwise_lt.imp_of_mem ?_
  intro band next hband _ hlt
  have hsides := h.bounds band hband
  omega

theorem CutAt.mem_lefts_iff {seam : Int → Prop} {low high : Int} {bands : List Band}
    (h : CutAt high seam bands) (htiles : Tiles low high bands) (x : Int) :
    x ∈ bands.map left ↔ low ≤ x ∧ x ≤ high ∧ (x = low ∨ seam (x - 1)) := by
  induction bands generalizing low with
  | nil =>
      simp only [Tiles] at htiles
      simp only [List.map_nil, List.not_mem_nil, false_iff]
      omega
  | cons first rest ih =>
      have hbounds := htiles.bounds first (by simp)
      rcases htiles with ⟨hleft, _, hrest⟩
      rw [List.map_cons, List.mem_cons, ih h.tail hrest, hleft]
      constructor
      · rintro (rfl | ⟨hlow, hhigh, hx | hseam⟩)
        · exact ⟨by omega, by omega, .inl rfl⟩
        · have hend := h.ends first (by simp) (by omega)
          rw [show first.right = x - 1 by omega] at hend
          exact ⟨by omega, hhigh, .inr hend⟩
        · exact ⟨by omega, hhigh, .inr hseam⟩
      · rintro ⟨hlow, hhigh, hx | hseam⟩
        · exact .inl hx
        · by_cases hx : x = low
          · exact .inl hx
          · -- no seam lies within the first band
            have hpast : first.right < x := by
              by_contra hwithin
              exact h.whole first (by simp) (x - 1) (by omega) (by omega) hseam
            exact .inr ⟨by omega, hhigh, .inr hseam⟩

theorem CutAt.length_eq {seam : Int → Prop} {low high : Int} {bands : List Band}
    {starts : Finset Int} (h : CutAt high seam bands) (htiles : Tiles low high bands)
    (hle : low ≤ high) (hstarts : ∀ x, x ∈ starts ↔ low < x ∧ x ≤ high ∧ seam (x - 1)) :
    bands.length = 1 + starts.card := by
  have hlefts : (bands.map left).toFinset = insert low starts := by
    ext x
    rw [List.mem_toFinset, h.mem_lefts_iff htiles, Finset.mem_insert, hstarts]
    constructor
    · rintro ⟨hlow, hhigh, hx | hseam⟩
      · exact .inl hx
      · by_cases hx : x = low
        · exact .inl hx
        · exact .inr ⟨by omega, hhigh, hseam⟩
    · rintro (rfl | ⟨hlow, hhigh, hseam⟩)
      · exact ⟨Int.le_refl _, hle, .inl rfl⟩
      · exact ⟨by omega, hhigh, .inr hseam⟩
  have hlow : low ∉ starts := by
    rw [hstarts]
    omega
  calc
    bands.length = (bands.map left).toFinset.card := by
      rw [List.toFinset_card_of_nodup htiles.nodup_lefts, List.length_map]
    _ = 1 + starts.card := by
      rw [hlefts, Finset.card_insert_of_notMem hlow, Nat.add_comm]

end Band

namespace Edge

/-!
## Seams after the last edge

In the end no column is covered.  All columns look the same, so that nothing is left to tell two
bands apart but the places at which bands were split.
-/

theorem active_ofOperands (operand : Operand) (a b : Cover) (x : Int) :
    active operand (ofOperands a b) x = 0 := by
  rw [active, count_ofOperands, count_ofOperands, Nat.sub_self]

theorem not_seam_ofOperands (op : SetOp) (a b : Cover) (x : Int) :
    ¬ Seam true op (ofOperands a b) x := by
  rw [Seam, if_pos rfl, not_not]
  refine ⟨fun operand => by rw [active_ofOperands, active_ofOperands], ?_⟩
  intro hholds
  rw [active_ofOperands, active_ofOperands] at hholds
  exact absurd hholds op.not_holds_zero

theorem seam_ofOperands_iff (op : SetOp) (a b : Cover) (x : Int) :
    Seam false op (ofOperands a b) x ↔ ∃ r ∈ a ++ b, r.right = x ∨ r.left = x + 1 := by
  simp only [Seam, Bool.false_eq_true, if_false]
  constructor
  · rintro ⟨e, he, hends⟩
    rcases mem_ofOperands he with ⟨r, hr, hleft, hright, _⟩
    rw [hleft, hright] at hends
    refine ⟨r, ?_, hends⟩
    rw [List.mem_append]
    cases hoperand : e.operand <;> rw [hoperand] at hr
    · exact .inl hr
    · exact .inr hr
  · rintro ⟨r, hr, hends⟩
    rcases List.mem_append.mp hr with hr | hr
    · exact ⟨_, edge_mem_ofOperands (show r ∈ coverOf a b .a from hr) .start, hends⟩
    · exact ⟨_, edge_mem_ofOperands (show r ∈ coverOf a b .b from hr) .start, hends⟩

end Edge

namespace Cover

theorem mem_bandStarts {c : Cover} {x : Int} :
    x ∈ c.bandStarts ↔
      (∃ r ∈ c, r.left = x ∧ minBound < x) ∨ ∃ r ∈ c, r.right + 1 = x ∧ x ≤ maxBound := by
  simp only [bandStarts, Finset.mem_union, Finset.mem_filter, List.mem_toFinset, List.mem_map,
    Finset.mem_image]
  constructor
  · rintro (⟨⟨r, hr, hleft⟩, hlow⟩ | ⟨_, ⟨⟨r, hr, rfl⟩, hhigh⟩, hright⟩)
    · exact .inl ⟨r, hr, hleft, hlow⟩
    · exact .inr ⟨r, hr, hright, by omega⟩
  · rintro (⟨r, hr, hleft, hlow⟩ | ⟨r, hr, hright, hhigh⟩)
    · exact .inl ⟨⟨r, hr, hleft⟩, hlow⟩
    · exact .inr ⟨r.right, ⟨⟨r, hr, rfl⟩, by omega⟩, hright⟩

theorem mem_bandStarts_iff_seam {a b : Cover} (ha : a.Proper) (hb : b.Proper)
    (hsa : a.Sweepable) (hsb : b.Sweepable) (op : SetOp) (x : Int) :
    x ∈ bandStarts (a ++ b) ↔
      minBound < x ∧ x ≤ maxBound ∧ Edge.Seam false op (Edge.ofOperands a b) (x - 1) := by
  have hsides : ∀ r ∈ a ++ b, minBound ≤ r.left ∧ r.left ≤ r.right ∧ r.right ≤ maxBound := by
    intro r hr
    rcases List.mem_append.mp hr with hr | hr
    · exact ⟨(hsa.inRange r hr).1.1, (Rect.not_isEmpty_iff.mp (ha r hr)).1,
        (hsa.inRange r hr).2.1.2⟩
    · exact ⟨(hsb.inRange r hr).1.1, (Rect.not_isEmpty_iff.mp (hb r hr)).1,
        (hsb.inRange r hr).2.1.2⟩
  rw [mem_bandStarts, Edge.seam_ofOperands_iff]
  constructor
  · rintro (⟨r, hr, hleft, hlow⟩ | ⟨r, hr, hright, hhigh⟩)
    · have hr' := hsides r hr
      exact ⟨hlow, by omega, r, hr, .inr (by omega)⟩
    · have hr' := hsides r hr
      exact ⟨by omega, hhigh, r, hr, .inl (by omega)⟩
  · rintro ⟨hlow, hhigh, r, hr, hright | hleft⟩
    · exact .inr ⟨r, hr, by omega, hhigh⟩
    · exact .inl ⟨r, hr, by omega, hlow⟩

end Cover

namespace Sweep

section Operands

variable {a b : Cover} (ha : a.Proper) (hb : b.Proper) (hsa : a.Sweepable) (hsb : b.Sweepable)

include ha hb hsa hsb

theorem length_bands_through (coalesce : Bool) (op : SetOp) :
    (through coalesce op (Edge.ofOperands a b)).bands.length =
      if coalesce then 1 else 1 + (Cover.bandStarts (a ++ b)).card := by
  have hedges : Edge.Schedule (Edge.ofOperands a b) := Edge.schedule_ofOperands ha hb hsa hsb
  have htracks : Tracks coalesce op _ _ := tracks_through hedges
  have hcut := cutAt_through coalesce op hedges
  cases coalesce with
  | true =>
      have hnone : ∀ x, x ∈ (∅ : Finset Int) ↔ minBound < x ∧ x ≤ maxBound ∧
          Edge.Seam true op (Edge.ofOperands a b) (x - 1) := by
        intro x
        simp [Edge.not_seam_ofOperands op a b (x - 1)]
      have hone := hcut.length_eq htracks.tiles (by decide) hnone
      simpa using hone
  | false =>
      exact hcut.length_eq htracks.tiles (by decide)
        (Cover.mem_bandStarts_iff_seam ha hb hsa hsb op)

/-- With joining, no two neighbours are joinable after any of the edges, and the sweep ends with one
band.  Without, it ends with one band for each column at which a member starts, or the first one
after it, and one more. -/
theorem reduced_and_length_bands (arith : Arith) (op : SetOp) :
    (∀ edges, edges <+: Edge.ofOperands a b →
      ∃ sweep, run arith true op edges = .ok sweep ∧
        sweep.bands.IsChain fun band next => ¬ band.Joinable op next) ∧
    (∃ sweep, ofOperands arith true op a b = .ok sweep ∧ sweep.bands.length = 1) ∧
    ∃ sweep, ofOperands arith false op a b = .ok sweep ∧
      sweep.bands.length = 1 + (Cover.bandStarts (a ++ b)).card := by
  refine ⟨?_, ?_, ?_⟩
  · rintro edges ⟨more, hmore⟩
    have hedges : Edge.Schedule edges :=
      Edge.schedule_of_ofOperands_eq hmore.symm ha hb hsa hsb
    have htracks : Tracks true op edges _ := tracks_through hedges
    exact ⟨_, run_eq hedges, htracks.reduced rfl⟩
  · exact ⟨_, ofOperands_eq ha hb hsa hsb arith true op, length_bands_through ha hb hsa hsb true op⟩
  · exact ⟨_, ofOperands_eq ha hb hsa hsb arith false op,
      length_bands_through ha hb hsa hsb false op⟩

end Operands

theorem reduced_and_length_bands_shared :
    let a : Cover := [⟨0, 4, 0, 4⟩, ⟨2, 6, 2, maxBound⟩, ⟨0, 4, 0, 4⟩]
    let b : Cover := [⟨minBound, maxBound, 3, 5⟩, ⟨1, 1, minBound, 3⟩]
    a.Proper ∧ b.Proper ∧ a.Sweepable ∧ b.Sweepable ∧
      (∃ sweep, ofOperands .word true .diff a b = .ok sweep ∧ sweep.bands.length = 1) ∧
      (Cover.bandStarts (a ++ b)).card = 5 ∧
      ∃ sweep, ofOperands .word false .diff a b = .ok sweep ∧ sweep.bands.length = 6 := by
  intro a b
  have ha : a.Proper := show ∀ r ∈ a, ¬ r.IsEmpty by decide
  have hb : b.Proper := show ∀ r ∈ b, ¬ r.IsEmpty by decide
  have hsa : a.Sweepable := Cover.sweepable_of_length (by decide) (by decide)
  have hsb : b.Sweepable := Cover.sweepable_of_length (by decide) (by decide)
  have hstarts : (Cover.bandStarts (a ++ b)).card = 5 := by decide
  rcases reduced_and_length_bands ha hb hsa hsb .word .diff with ⟨_, hjoined, hsplit⟩
  rw [hstarts] at hsplit
  exact ⟨ha, hb, hsa, hsb, hjoined, hstarts, hsplit⟩

end Sweep

end Rectilinear
