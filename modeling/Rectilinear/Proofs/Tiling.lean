import Mathlib.Data.List.Chain
import Rectilinear.Sweep.Band

/-!
# Tilings by bands

The bands of a sweep tile the columns from left to right, without gap or overlap.  Cutting a tiling
at a column gives two tilings whose bands are pieces of the old ones, and joining keeps a tiling.  A
tiling is reduced if no two neighbours are joinable; joining around an edge then gives what joining
the whole line would give.
-/

namespace Rectilinear

namespace Band

def Spans (band : Band) (x : Int) : Prop :=
  band.left ≤ x ∧ x ≤ band.right

/-- The bands tile the columns from the first bound to the second. -/
def Tiles : Int → Int → List Band → Prop
  | low, high, [] => low = high + 1
  | low, high, band :: rest =>
      band.left = low ∧ low ≤ band.right ∧ Tiles (band.right + 1) high rest

/-- The bands before a column and those from it on; a band across it is cut in two. -/
def cut (column : Int) : List Band → List Band × List Band
  | [] => ([], [])
  | band :: rest =>
      if band.right < column then
        (band :: (cut column rest).1, (cut column rest).2)
      else if band.left < column then
        ([{ band with right := column - 1 }], { band with left := column } :: rest)
      else
        ([], band :: rest)

structure PieceOf (piece band : Band) : Prop where
  left_le : band.left ≤ piece.left
  right_le : piece.right ≤ band.right
  inA_eq : piece.inA = band.inA
  inB_eq : piece.inB = band.inB
  openRow_eq : piece.openRow = band.openRow

def Reduced (op : SetOp) (bands : List Band) : Prop :=
  bands.IsChain fun band next => ¬ band.Joinable op next

/-!
## Tilings

A tiling falls into tilings of consecutive columns, and bands further right start after those
further left end.
-/

theorem Tiles.low_le {low high : Int} {bands : List Band} (h : Tiles low high bands) :
    low ≤ high + 1 := by
  induction bands generalizing low with
  | nil =>
      simp only [Tiles] at h
      omega
  | cons band rest ih =>
      have hrest := ih h.2.2
      have hright := h.2.1
      omega

theorem tiles_append_iff {low high : Int} {front back : List Band} :
    Tiles low high (front ++ back) ↔
      ∃ mid, Tiles low mid front ∧ Tiles (mid + 1) high back := by
  induction front generalizing low with
  | nil =>
      simp only [List.nil_append, Tiles]
      constructor
      · intro h
        exact ⟨low - 1, by omega, by rwa [Int.sub_add_cancel]⟩
      · rintro ⟨mid, rfl, h⟩
        exact h
  | cons band front ih =>
      simp only [List.cons_append, Tiles, ih]
      constructor
      · rintro ⟨hleft, hright, mid, hfront, hback⟩
        exact ⟨mid, ⟨hleft, hright, hfront⟩, hback⟩
      · rintro ⟨mid, ⟨hleft, hright, hfront⟩, hback⟩
        exact ⟨hleft, hright, mid, hfront, hback⟩

theorem Tiles.append {low mid high : Int} {front back : List Band}
    (hfront : Tiles low mid front) (hback : Tiles (mid + 1) high back) :
    Tiles low high (front ++ back) :=
  tiles_append_iff.mpr ⟨mid, hfront, hback⟩

theorem Tiles.bounds {low high : Int} {bands : List Band} (h : Tiles low high bands) :
    ∀ band ∈ bands, low ≤ band.left ∧ band.left ≤ band.right ∧ band.right ≤ high := by
  induction bands generalizing low with
  | nil => simp
  | cons first rest ih =>
      rcases h with ⟨hleft, hright, hrest⟩
      have hlow := hrest.low_le
      intro band hband
      rcases List.mem_cons.mp hband with rfl | hband
      · omega
      · have := ih hrest band hband
        omega

theorem Tiles.exists_spans {low high : Int} {bands : List Band} (h : Tiles low high bands)
    {x : Int} (hlow : low ≤ x) (hhigh : x ≤ high) : ∃ band ∈ bands, band.Spans x := by
  induction bands generalizing low with
  | nil =>
      simp only [Tiles] at h
      omega
  | cons first rest ih =>
      rcases h with ⟨hleft, hright, hrest⟩
      by_cases hx : x ≤ first.right
      · exact ⟨first, by simp, by simp only [Spans]; omega⟩
      · rcases ih hrest (by omega) with ⟨band, hband, hspans⟩
        exact ⟨band, by simp [hband], hspans⟩

theorem Tiles.pairwise_lt {low high : Int} {bands : List Band} (h : Tiles low high bands) :
    bands.Pairwise fun band next => band.right < next.left := by
  induction bands generalizing low with
  | nil => exact List.Pairwise.nil
  | cons first rest ih =>
      rcases h with ⟨_, _, hrest⟩
      refine List.pairwise_cons.mpr ⟨?_, ih hrest⟩
      intro band hband
      have := hrest.bounds band hband
      omega

theorem tiles_map {low high : Int} {bands : List Band} {f : Band → Band}
    (hleft : ∀ band, (f band).left = band.left) (hright : ∀ band, (f band).right = band.right) :
    Tiles low high (bands.map f) ↔ Tiles low high bands := by
  induction bands generalizing low with
  | nil => rfl
  | cons band rest ih => simp only [List.map_cons, Tiles, hleft, hright, ih]

/-!
## Cutting

The bands on both sides of a cut are pieces of bands, which differ from the whole in their columns
only.
-/

theorem PieceOf.refl (band : Band) : band.PieceOf band :=
  ⟨Int.le_refl _, Int.le_refl _, rfl, rfl, rfl⟩

theorem PieceOf.trans {piece part band : Band} (h : piece.PieceOf part)
    (hpart : part.PieceOf band) : piece.PieceOf band :=
  ⟨Int.le_trans hpart.left_le h.left_le, Int.le_trans h.right_le hpart.right_le,
    h.inA_eq.trans hpart.inA_eq, h.inB_eq.trans hpart.inB_eq,
    h.openRow_eq.trans hpart.openRow_eq⟩

theorem Tiles.cut {low high : Int} {bands : List Band} (h : Tiles low high bands) (column : Int)
    (hlow : low ≤ column) (hhigh : column ≤ high + 1) :
    Tiles low (column - 1) (cut column bands).1 ∧ Tiles column high (cut column bands).2 := by
  induction bands generalizing low with
  | nil =>
      simp only [Tiles] at h
      simp only [Band.cut, Tiles]
      omega
  | cons band rest ih =>
      rcases h with ⟨hleft, hright, hrest⟩
      simp only [Band.cut]
      split
      · rename_i hbefore
        rcases ih hrest (by omega) with ⟨hfront, hback⟩
        exact ⟨⟨hleft, hright, hfront⟩, hback⟩
      · split
        · refine ⟨⟨hleft, ?_, rfl⟩, rfl, ?_, hrest⟩
          · show low ≤ column - 1
            omega
          · show column ≤ band.right
            omega
        · have hcolumn : column = low := by omega
          subst hcolumn
          exact ⟨by simp only [Tiles]; omega, hleft, hright, hrest⟩

theorem pieceOf_of_mem_cut {column : Int} {bands : List Band} :
    ∀ piece ∈ (cut column bands).1 ++ (cut column bands).2, ∃ band ∈ bands,
      piece.PieceOf band := by
  induction bands with
  | nil => simp [cut]
  | cons band rest ih =>
      intro piece hpiece
      simp only [cut] at hpiece
      split at hpiece
      · rcases List.mem_cons.mp hpiece with rfl | hpiece
        · exact ⟨piece, by simp, PieceOf.refl piece⟩
        · rcases ih piece hpiece with ⟨other, hother, hpieceOf⟩
          exact ⟨other, by simp [hother], hpieceOf⟩
      · split at hpiece
        · simp only [List.cons_append, List.nil_append, List.mem_cons] at hpiece
          rcases hpiece with rfl | rfl | hpiece
          · refine ⟨band, by simp, Int.le_refl _, ?_, rfl, rfl, rfl⟩
            show column - 1 ≤ band.right
            omega
          · refine ⟨band, by simp, ?_, Int.le_refl _, rfl, rfl, rfl⟩
            show band.left ≤ column
            omega
          · exact ⟨piece, by simp [hpiece], PieceOf.refl piece⟩
        · exact ⟨piece, hpiece, PieceOf.refl piece⟩

/-!
## Joinable bands

Being joinable is an equivalence on what a band has besides its columns.
-/

theorem Joinable.refl (op : SetOp) (band : Band) : band.Joinable op band :=
  ⟨rfl, rfl, Or.inl rfl⟩

theorem Joinable.symm {op : SetOp} {band next : Band} (h : band.Joinable op next) :
    next.Joinable op band := by
  rcases h with ⟨hinA, hinB, hopen⟩
  refine ⟨hinA.symm, hinB.symm, ?_⟩
  rcases hopen with hopen | hopen
  · exact Or.inl hopen.symm
  · rw [Holds, hinA, hinB] at hopen
    exact Or.inr hopen

theorem Joinable.trans {op : SetOp} {band next last : Band} (h : band.Joinable op next)
    (hnext : next.Joinable op last) : band.Joinable op last := by
  rcases h with ⟨hinA, hinB, hopen⟩
  rcases hnext with ⟨hinA', hinB', hopen'⟩
  refine ⟨hinA.trans hinA', hinB.trans hinB', ?_⟩
  rcases hopen with hopen | hopen
  · rcases hopen' with hopen' | hopen'
    · exact Or.inl (hopen.trans hopen')
    · rw [Holds, ← hinA, ← hinB] at hopen'
      exact Or.inr hopen'
  · exact Or.inr hopen

theorem reduced_cons_congr {op : SetOp} {band other : Band} {rest : List Band}
    (h : band.Joinable op other) :
    Reduced op (band :: rest) ↔ Reduced op (other :: rest) := by
  simp only [Reduced, List.isChain_cons]
  constructor
  · rintro ⟨hhead, hrest⟩
    exact ⟨fun next hnext hother => hhead next hnext (h.trans hother), hrest⟩
  · rintro ⟨hhead, hrest⟩
    exact ⟨fun next hnext hband => hhead next hnext (h.symm.trans hband), hrest⟩

theorem Reduced.cut {op : SetOp} {column : Int} {bands : List Band} (h : Reduced op bands) :
    Reduced op (cut column bands).1 ∧ Reduced op (cut column bands).2 := by
  induction bands with
  | nil => exact ⟨List.IsChain.nil, List.IsChain.nil⟩
  | cons band rest ih =>
      rcases List.isChain_cons.mp h with ⟨hhead, hrest⟩
      rcases ih hrest with ⟨hfront, hback⟩
      simp only [Band.cut]
      split
      · refine ⟨List.isChain_cons.mpr ⟨?_, hfront⟩, hback⟩
        intro next hnext hjoinable
        cases rest with
        | nil => simp [Band.cut] at hnext
        | cons other rest =>
            apply hhead other rfl
            simp only [Band.cut] at hnext
            split at hnext
            · cases hnext
              exact hjoinable
            · split at hnext
              · cases hnext
                exact hjoinable
              · cases hnext
      · split
        · refine ⟨List.IsChain.singleton _, ?_⟩
          have hhigh : Joinable op { band with left := column } band := ⟨rfl, rfl, Or.inl rfl⟩
          exact (reduced_cons_congr hhigh).mpr h
        · exact ⟨List.IsChain.nil, h⟩

/-!
## Joining

Joining starts with a band that differs from the first one in its right end only.  It has nothing to
do left of a reduced part, and in a reduced part after the first band.  What is kept by joining two
neighbours therefore holds of all joined bands.
-/

theorem tiles_joinFrom {op : SetOp} {low high : Int} {band : Band} {rest : List Band}
    (h : Tiles low high (band :: rest)) : Tiles low high (joinFrom op band rest) := by
  induction rest generalizing low band with
  | nil => exact h
  | cons next rest ih =>
      rcases h with ⟨hleft, hright, hnext, hnextRight, hrest⟩
      simp only [joinFrom]
      split
      · apply ih
        refine ⟨hleft, ?_, hrest⟩
        show low ≤ next.right
        omega
      · exact ⟨hleft, hright, ih ⟨hnext, hnextRight, hrest⟩⟩

theorem Tiles.join {op : SetOp} {low high : Int} {bands : List Band}
    (h : Tiles low high bands) : Tiles low high (join op bands) := by
  cases bands with
  | nil => exact h
  | cons band rest => exact tiles_joinFrom h

theorem forall_mem_joinFrom {op : SetOp} {P : Band → Prop} {low high : Int} {band : Band}
    {rest : List Band} (h : Tiles low high (band :: rest)) (hP : ∀ b ∈ band :: rest, P b)
    (hjoin : ∀ first next : Band, P first → P next → next.left = first.right + 1 →
      first.Joinable op next → P { first with right := next.right }) :
    ∀ b ∈ joinFrom op band rest, P b := by
  induction rest generalizing low band with
  | nil => exact hP
  | cons next rest ih =>
      rcases h with ⟨hleft, hright, hnext, hnextRight, hrest⟩
      have hPband := hP band (by simp)
      have hPnext := hP next (by simp)
      simp only [joinFrom]
      split
      · rename_i hjoinable
        have hjoined : Tiles low high ({ band with right := next.right } :: rest) :=
          ⟨hleft, by simp only; omega, hrest⟩
        apply ih hjoined
        intro b hb
        rcases List.mem_cons.mp hb with rfl | hb
        · exact hjoin band next hPband hPnext hnext hjoinable
        · exact hP b (by simp [hb])
      · intro b hb
        rcases List.mem_cons.mp hb with rfl | hb
        · exact hPband
        · exact ih ⟨hnext, hnextRight, hrest⟩ (fun b hb => hP b (by simp [hb])) b hb

theorem forall_mem_join {op : SetOp} {P : Band → Prop} {low high : Int} {bands : List Band}
    (h : Tiles low high bands) (hP : ∀ b ∈ bands, P b)
    (hjoin : ∀ first next : Band, P first → P next → next.left = first.right + 1 →
      first.Joinable op next → P { first with right := next.right }) :
    ∀ b ∈ join op bands, P b := by
  cases bands with
  | nil => exact hP
  | cons band rest => exact forall_mem_joinFrom h hP hjoin

theorem exists_joinFrom_eq_cons (op : SetOp) (band : Band) (rest : List Band) :
    ∃ right others, joinFrom op band rest = { band with right := right } :: others := by
  induction rest generalizing band with
  | nil => exact ⟨band.right, [], rfl⟩
  | cons next rest ih =>
      simp only [joinFrom]
      split
      · exact ih { band with right := next.right }
      · exact ⟨band.right, joinFrom op next rest, rfl⟩

theorem reduced_joinFrom (op : SetOp) (band : Band) (rest : List Band) :
    Reduced op (joinFrom op band rest) := by
  induction rest generalizing band with
  | nil => exact List.IsChain.singleton band
  | cons next rest ih =>
      simp only [joinFrom]
      split
      · exact ih { band with right := next.right }
      · rename_i hjoinable
        refine List.isChain_cons.mpr ⟨?_, ih next⟩
        intro first hfirst
        rcases exists_joinFrom_eq_cons op next rest with ⟨right, others, hothers⟩
        rw [hothers] at hfirst
        cases hfirst
        exact hjoinable

theorem reduced_join (op : SetOp) (bands : List Band) : Reduced op (join op bands) := by
  cases bands with
  | nil => exact List.IsChain.nil
  | cons band rest => exact reduced_joinFrom op band rest

theorem joinFrom_of_reduced {op : SetOp} {band : Band} {rest : List Band}
    (h : Reduced op (band :: rest)) : joinFrom op band rest = band :: rest := by
  induction rest generalizing band with
  | nil => rfl
  | cons next rest ih =>
      rcases List.isChain_cons_cons.mp h with ⟨hhead, hrest⟩
      rw [joinFrom, if_neg hhead, ih hrest]

theorem join_append_cons {op : SetOp} {front : List Band} {band : Band} (rest : List Band)
    (h : Reduced op (front ++ [band])) :
    join op (front ++ band :: rest) = front ++ joinFrom op band rest := by
  induction front with
  | nil => rfl
  | cons first front ih =>
      cases front with
      | nil =>
          have hhead := (List.isChain_cons_cons.mp h).1
          simp only [List.cons_append, List.nil_append, join, joinFrom, if_neg hhead]
      | cons second front =>
          rcases List.isChain_cons_cons.mp h with ⟨hhead, hrest⟩
          have ihrest := ih hrest
          simp only [List.cons_append, join] at ihrest
          simp only [List.cons_append, join, joinFrom, if_neg hhead, ihrest]

/-- Joining stops at a reduced part, of which only the first band can be joined to what comes
before. -/
theorem joinFrom_append_cons {op : SetOp} {band next : Band} {front rest : List Band}
    (h : Reduced op (next :: rest)) :
    joinFrom op band (front ++ next :: rest) = joinFrom op band (front ++ [next]) ++ rest := by
  induction front generalizing band with
  | nil =>
      simp only [List.nil_append, joinFrom]
      split
      · rename_i hjoinable
        -- a joined band is joinable with what the last band that it took in is joinable with
        have hlike : Joinable op { band with right := next.right } next := hjoinable
        rw [joinFrom_of_reduced ((reduced_cons_congr hlike).mpr h)]
        rfl
      · rw [joinFrom_of_reduced h]
        rfl
  | cons first front ih =>
      simp only [List.cons_append, joinFrom]
      split
      · exact ih
      · rw [ih]
        rfl

theorem joinAround_eq_join {op : SetOp} {before beyond : List Band} (spanned : List Band)
    (hbefore : Reduced op before) (hbeyond : Reduced op beyond) :
    joinAround op before spanned beyond = join op (before ++ spanned ++ beyond) := by
  -- beyond the edge only the first band can be joined, before it only the last
  have hright : ∀ window : List Band,
      join op (window ++ beyond.take 1) ++ beyond.drop 1 = join op (window ++ beyond) := by
    intro window
    cases beyond with
    | nil => simp
    | cons next rest =>
        cases window with
        | nil =>
            simp only [List.nil_append, List.take_succ_cons, List.take_zero, List.drop_succ_cons,
              List.drop_zero, join, joinFrom, joinFrom_of_reduced hbeyond, List.singleton_append]
        | cons band window =>
            simp only [List.cons_append, List.take_succ_cons, List.take_zero,
              List.drop_succ_cons, List.drop_zero, join, joinFrom_append_cons hbeyond]
  rcases List.eq_nil_or_concat before with rfl | ⟨front, last, rfl⟩
  · simpa [joinAround] using hright spanned
  · rw [List.concat_eq_append] at *
    have hleft := join_append_cons (spanned ++ beyond) hbefore
    have hwindow := hright (last :: spanned)
    simp only [List.cons_append, join] at hwindow
    have hjoin : join op (last :: (spanned ++ beyond.take 1)) =
        joinFrom op last (spanned ++ beyond.take 1) := rfl
    rw [List.append_assoc, List.append_assoc, List.singleton_append, hleft, ← hwindow]
    simp [joinAround, hjoin]

end Band

end Rectilinear
