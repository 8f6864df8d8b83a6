import Mathlib.Algebra.Group.Basic
import Mathlib.Algebra.Group.Int.Defs
import Rectilinear.Proofs.Pieces

/-!
# Translated covers

Normal forms and closed forms compare bounds with bounds of the same axis, and move them by one.
Both are blind to a displacement of all rectangles: what they make of the translated rectangles is
the translation of what they make of the rectangles.
-/

namespace Rectilinear

theorem Steps.settleFar_add (low far d : Int) :
    exact.settleFar (low + d) (far + d) = exact.settleFar low far + d := by
  rw [settleFar_exact, settleFar_exact]
  split_ifs <;> omega

theorem touch_add (low high low' high' d : Int) :
    Touch (low + d) (high + d) (low' + d) (high' + d) ↔ Touch low high low' high' := by
  simp only [Touch]
  omega

namespace Rect

section Translate

variable {dx dy : Int} {r s : Rect}

@[simp] theorem isEmpty_translate : (r.translate dx dy).IsEmpty ↔ r.IsEmpty := by
  simp only [IsEmpty, translate]
  omega

theorem contains_translate {x y : Int} :
    (r.translate dx dy).Contains x y ↔ r.Contains (x - dx) (y - dy) := by
  simp only [contains_iff, translate]
  constructor <;> intro h <;> omega

@[simp] theorem inside_translate :
    (r.translate dx dy).Inside (s.translate dx dy) ↔ r.Inside s := by
  simp only [Inside, translate]
  omega

@[simp] theorem intersects_translate :
    (r.translate dx dy).Intersects (s.translate dx dy) ↔ r.Intersects s := by
  simp only [Intersects, translate]
  omega

@[simp] theorem mergeable_translate :
    (r.translate dx dy).Mergeable (s.translate dx dy) ↔ r.Mergeable s := by
  simp only [Mergeable, inside_translate]
  simp [translate, touch_add]

@[simp] theorem translate_le_translate :
    r.translate dx dy ≤ s.translate dx dy ↔ r ≤ s := by
  simp [le_iff, translate]

@[simp] theorem translate_inj : r.translate dx dy = s.translate dx dy ↔ r = s := by
  simp only [ext_iff_bounds, translate]
  omega

theorem hull_translate :
    (r.translate dx dy).hull (s.translate dx dy) = (r.hull s).translate dx dy := by
  simp only [ext_iff_bounds, hull, translate]
  omega

theorem clipWith_translate :
    (r.translate dx dy).clipWith .exact (s.translate dx dy) =
      (r.clipWith .exact s).translate dx dy := by
  simp only [clipWith_eq, translate, Int.max_add_right, Int.min_add_right,
    Steps.settleFar_add]

end Translate

end Rect

namespace Cover

/-!
## Normal forms

Merging compares members by conditions that a displacement keeps, and the bounding box of translated
rectangles is the translated bounding box.
-/

section Normalize

variable (dx dy : Int)

theorem translate_cons (r : Rect) (c : Cover) :
    translate dx dy (r :: c) = r.translate dx dy :: translate dx dy c :=
  rfl

theorem length_translate (c : Cover) : (c.translate dx dy).length = c.length :=
  List.length_map _

theorem nonempty_translate (c : Cover) :
    (c.translate dx dy).nonempty = c.nonempty.translate dx dy := by
  rw [nonempty, translate, List.filter_map, nonempty, translate]
  congr 1
  apply List.filter_congr
  intro r _
  simp

theorem sorted_translate (c : Cover) : (c.translate dx dy).sorted = c.sorted.translate dx dy := by
  symm
  apply List.map_mergeSort
  intro r _ s _
  simp

theorem takeMergeable_translate (r : Rect) (c : Cover) :
    takeMergeable (r.translate dx dy) (c.translate dx dy) =
      (takeMergeable r c).map fun taken =>
        (taken.1.translate dx dy, translate dx dy taken.2) := by
  induction c with
  | nil => rfl
  | cons s c ih =>
      simp only [translate_cons, takeMergeable, Rect.mergeable_translate, ih]
      split
      · rfl
      · cases takeMergeable r c with
        | none => rfl
        | some taken => rfl

theorem absorb_translate (r : Rect) (c : Cover) :
    absorb (r.translate dx dy) (c.translate dx dy) =
      ((absorb r c).1.translate dx dy, (absorb r c).2.translate dx dy) := by
  fun_induction absorb r c with
  | case1 r c hnone =>
      apply absorb_of_take_none
      rw [takeMergeable_translate, hnone]
      rfl
  | case2 r c s others htake ih =>
      rw [← ih, ← Rect.hull_translate]
      apply absorb_of_take_some
      rw [takeMergeable_translate, htake]
      rfl

theorem mergePass_translate (c : Cover) :
    mergePass (c.translate dx dy) = (mergePass c).translate dx dy := by
  fun_induction mergePass c with
  | case1 => simp [translate, mergePass]
  | case2 r rest absorbed ih =>
      rw [translate_cons, mergePass, absorb_translate, translate_cons, ← ih]

theorem mergeAll_translate (c : Cover) :
    (mergeAll (c.translate dx dy)).cover = (mergeAll c).cover.translate dx dy := by
  fun_induction mergeAll c with
  | case1 c hshorter rest ih =>
      rw [mergeAll, mergePass_translate, length_translate, length_translate, if_pos hshorter]
      exact ih
  | case2 c hidle =>
      rw [mergeAll, mergePass_translate, length_translate, length_translate, if_neg hidle]

theorem normalize_translate (c : Cover) :
    (c.translate dx dy).normalize = c.normalize.translate dx dy := by
  simp only [normalize, normalization, nonempty_translate, mergeAll_translate, sorted_translate]

end Normalize

end Cover

namespace ClosedForm

/-!
## Closed forms

A closed form is built from choices between two rectangles and from lists of at most one rectangle,
each of them decided by comparing bounds.
-/

def translate (dx dy : Int) : ClosedForm → ClosedForm
  | settled c => settled (c.translate dx dy)
  | pieces c => pieces (c.translate dx dy)

section Translate

variable {dx dy : Int} {r s : Rect}

theorem cover_translate (form : ClosedForm) :
    (form.translate dx dy).cover = form.cover.translate dx dy := by
  cases form with
  | settled c => rfl
  | pieces c => exact Cover.normalize_translate dx dy c

theorem ite_translate {p q : Prop} [Decidable p] [Decidable q] {t u : Rect} (hpq : p ↔ q)
    (htu : t = u.translate dx dy) :
    (if p then [t] else []) = Cover.translate dx dy (if q then [u] else []) := by
  by_cases h : q <;> simp [hpq, h, htu, Cover.translate]

theorem beside_translate :
    beside .exact (r.translate dx dy) (s.translate dx dy) =
      Cover.translate dx dy (beside .exact r s) := by
  rw [beside_exact, beside_exact, Cover.translate, List.map_append]
  congr 1
  · apply ite_translate
    · simp [Rect.translate]
    · simp [Rect.translate, add_sub_right_comm]
  · apply ite_translate
    · simp [Rect.translate]
    · simp [Rect.translate, Int.add_right_comm]

theorem belowAbove_translate :
    belowAbove .exact (r.translate dx dy) (s.translate dx dy) =
      Cover.translate dx dy (belowAbove .exact r s) := by
  rw [belowAbove_exact, belowAbove_exact, Cover.translate, List.map_append]
  congr 1
  · apply ite_translate
    · simp [Rect.translate]
    · simp [Rect.translate, add_sub_right_comm]
  · apply ite_translate
    · simp [Rect.translate]
    · simp [Rect.translate, Int.add_right_comm]

theorem choice_translate {p q : Prop} [Decidable p] [Decidable q] (hpq : p ↔ q) :
    (if p then r.translate dx dy else s.translate dx dy) =
      (if q then r else s).translate dx dy := by
  by_cases h : q <;> simp [hpq, h]

theorem staggered_translate (overlap : Rect) :
    staggered .exact (r.translate dx dy) (s.translate dx dy) (overlap.translate dx dy) =
      Cover.translate dx dy (staggered .exact r s overlap) := by
  have hupper : (if (overlap.translate dx dy).top < (r.translate dx dy).top
      then r.translate dx dy else s.translate dx dy) =
        (if overlap.top < r.top then r else s).translate dx dy :=
    choice_translate (by simp [Rect.translate])
  have hlower : (if (r.translate dx dy).bottom < (overlap.translate dx dy).bottom
      then r.translate dx dy else s.translate dx dy) =
        (if r.bottom < overlap.bottom then r else s).translate dx dy :=
    choice_translate (by simp [Rect.translate])
  simp only [staggered_exact, hupper, hlower]
  rw [Cover.translate, List.map_append, List.map_cons]
  congr 1
  · congr 1
    · simp [Rect.translate, Int.min_add_right, Int.max_add_right]
    · apply ite_translate
      · simp [Rect.translate]
      · simp [Rect.translate, Int.add_right_comm]
  · apply ite_translate
    · simp [Rect.translate]
    · simp [Rect.translate, add_sub_right_comm]

theorem union_translate :
    union .exact (r.translate dx dy) (s.translate dx dy) =
      (union .exact r s).translate dx dy := by
  have hrows : ∀ t u : Rect, (t.translate dx dy).bottom = (u.translate dx dy).bottom ∧
      (t.translate dx dy).top = (u.translate dx dy).top ↔ t.bottom = u.bottom ∧ t.top = u.top := by
    simp [Rect.translate]
  have hcolumns : ∀ t u : Rect, (t.translate dx dy).left = (u.translate dx dy).left ∧
      (t.translate dx dy).right = (u.translate dx dy).right ↔
        t.left = u.left ∧ t.right = u.right := by
    simp [Rect.translate]
  simp only [union_exact, Rect.isEmpty_translate, Rect.intersects_translate, Rect.inside_translate,
    Rect.clipWith_translate, beside_translate, belowAbove_translate, staggered_translate, hrows,
    hcolumns]
  split_ifs <;> rfl

theorem inter_translate :
    inter .exact (r.translate dx dy) (s.translate dx dy) =
      (inter .exact r s).translate dx dy := by
  simp only [inter_eq, Rect.clipWith_translate, Rect.isEmpty_translate]
  split_ifs <;> rfl

/-- The strip of one side; both its bounds and its owner are chosen by which rectangle reaches
further. -/
theorem side_translate {same same' further further' : Prop} [Decidable same] [Decidable same']
    [Decidable further] [Decidable further'] (hsame : same' ↔ same) (hfurther : further' ↔ further)
    (g g' : Rect → Rect) (hg : ∀ t : Rect, g' (t.translate dx dy) = (g t).translate dx dy) :
    (if ¬ same' then
      [(g' (outer (r.translate dx dy) (s.translate dx dy) further').1,
        (outer (r.translate dx dy) (s.translate dx dy) further').2)] else []) =
    (if ¬ same then [(g (outer r s further).1, (outer r s further).2)] else []).map
      fun strip => (strip.1.translate dx dy, strip.2) := by
  by_cases h : same
  · simp [h, hsame]
  · by_cases hlt : further <;> simp [outer, h, hsame, hfurther, hlt, hg]

theorem strips_translate :
    strips .exact (r.translate dx dy) (s.translate dx dy) =
      (strips .exact r s).map fun strip => (strip.1.translate dx dy, strip.2) := by
  have hsame : ∀ p q d : Int, p + d = q + d ↔ p = q := by omega
  have hlt : ∀ p q d : Int, p + d < q + d ↔ p < q := by omega
  simp only [strips_exact, List.map_append]
  congr 1
  · congr 1
    · congr 1
      · refine side_translate (hsame ..) (hlt ..) (fun t => { t with right := _ })
          (fun t => { t with right := _ }) ?_
        intro t
        simp [Rect.translate, add_sub_right_comm]
      · refine side_translate (hsame ..) (hlt ..) (fun t => ⟨_, _, t.bottom, _⟩)
          (fun t => ⟨_, _, t.bottom, _⟩) ?_
        intro t
        simp [Rect.translate, add_sub_right_comm]
    · refine side_translate (hsame ..) (hlt ..) (fun t => { t with left := _ })
        (fun t => { t with left := _ }) ?_
      intro t
      simp [Rect.translate, Int.add_right_comm]
  · refine side_translate (hsame ..) (hlt ..) (fun t => ⟨_, _, _, t.top⟩)
      (fun t => ⟨_, _, _, t.top⟩) ?_
    intro t
    simp [Rect.translate, Int.add_right_comm]

theorem symmDiff_translate :
    symmDiff .exact (r.translate dx dy) (s.translate dx dy) =
      (symmDiff .exact r s).translate dx dy := by
  simp only [symmDiff_exact, Rect.isEmpty_translate, Rect.intersects_translate, Rect.translate_inj,
    strips_translate, List.map_map]
  split_ifs
  · rfl
  · rfl
  · simp only [translate, Cover.translate, List.map_map]
    rfl

theorem diff_translate :
    diff .exact (r.translate dx dy) (s.translate dx dy) = (diff .exact r s).translate dx dy := by
  simp only [diff_exact, Rect.isEmpty_translate, Rect.intersects_translate, strips_translate,
    List.filter_map, List.map_map]
  split_ifs
  · rfl
  · rfl
  · simp only [translate, Cover.translate, List.map_map]
    rfl

theorem closedForm_translate (op : SetOp) :
    op.closedForm .exact (r.translate dx dy) (s.translate dx dy) =
      (op.closedForm .exact r s).translate dx dy := by
  cases op with
  | and => exact inter_translate
  | or => exact union_translate
  | xor => exact symmDiff_translate
  | diff => exact diff_translate

end Translate

end ClosedForm

end Rectilinear
