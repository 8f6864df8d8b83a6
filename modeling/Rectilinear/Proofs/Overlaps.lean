import Mathlib.Order.MinMax
import Rectilinear.Proofs.Emptiness
import Rectilinear.Proofs.Pieces

/-!
# Overlaps of many rectangles

Clipping by the members of a cover, one after the other, leaves the points that all of them contain,
with the same bounds in whatever order they come.  An axis that collapses forgets its far bound, but
from there on its low bound only rises and its far bound stays below: what was forgotten cannot
matter again.
-/

namespace Rectilinear

namespace Steps

theorem settleFar_min_settleFar (low far low' far' : Int) :
    exact.settleFar (max low low') (min (exact.settleFar low far) far') =
      exact.settleFar (max low low') (min far far') := by
  simp only [settleFar_exact]
  split_ifs <;> omega

theorem le_settleFar_or (low far : Int) :
    low ≤ exact.settleFar low far ∨ exact.settleFar low far = low - 1 := by
  simp only [settleFar_exact]
  split_ifs <;> omega

end Steps

namespace Rect

/-- Each axis holds a point or is in its collapsed form. -/
def Trimmed (r : Rect) : Prop :=
  (r.left ≤ r.right ∨ r.right = r.left - 1) ∧ (r.bottom ≤ r.top ∨ r.top = r.bottom - 1)

instance (r : Rect) : Decidable r.Trimmed :=
  inferInstanceAs (Decidable (_ ∧ _))

theorem trimmed_clipWith (r s : Rect) : (r.clipWith .exact s).Trimmed :=
  ⟨Steps.le_settleFar_or _ _, Steps.le_settleFar_or _ _⟩

theorem clipWith_clipWith (r s t : Rect) :
    (r.clipWith .exact s).clipWith .exact t =
      { left := max (max r.left s.left) t.left
        right := Steps.exact.settleFar (max (max r.left s.left) t.left)
          (min (min r.right s.right) t.right)
        bottom := max (max r.bottom s.bottom) t.bottom
        top := Steps.exact.settleFar (max (max r.bottom s.bottom) t.bottom)
          (min (min r.top s.top) t.top) } := by
  simp only [clipWith_eq, Steps.settleFar_min_settleFar]

theorem clipWith_right_comm (r s t : Rect) :
    (r.clipWith .exact s).clipWith .exact t = (r.clipWith .exact t).clipWith .exact s := by
  rw [clipWith_clipWith, clipWith_clipWith, max_right_comm r.left, min_right_comm r.right,
    max_right_comm r.bottom, min_right_comm r.top]

end Rect

namespace Cover

def clipFrom (r : Rect) (c : Cover) : Rect :=
  c.foldl Rect.clip r

def clipExact (r : Rect) (c : Cover) : Rect :=
  c.foldl (Rect.clipWith .exact) r

theorem clipExact_perm {c d : Cover} (h : c.Perm d) (r : Rect) : clipExact r c = clipExact r d :=
  h.foldl_eq' (fun s _ t _ u => Rect.clipWith_right_comm u s t) r

theorem contains_clipExact_iff {r : Rect} {c : Cover} {x y : Int} :
    (clipExact r c).Contains x y ↔ ∀ s ∈ r :: c, s.Contains x y := by
  induction c generalizing r with
  | nil => simp [clipExact]
  | cons s c ih =>
      have hrest : (clipExact (r.clipWith .exact s) c).Contains x y ↔
          ∀ t ∈ r.clipWith .exact s :: c, t.Contains x y := ih
      simp only [List.forall_mem_cons, Rect.contains_clipWith_iff, and_assoc] at hrest ⊢
      exact hrest

theorem trimmed_clipExact {c : Cover} (h : c ≠ []) (r : Rect) : (clipExact r c).Trimmed := by
  rcases List.eq_nil_or_concat c with rfl | ⟨front, last, rfl⟩
  · exact absurd rfl h
  · rw [clipExact, List.concat_eq_append, List.foldl_concat]
    exact Rect.trimmed_clipWith _ _

section InRange

variable {r : Rect} {c : Cover} (hr : r.InRange) (hc : c.InRange)

include hr hc

theorem clipFrom_eq : clipFrom r c = clipExact r c := by
  induction c generalizing r with
  | nil => rfl
  | cons s c ih =>
      rcases List.forall_mem_cons.mp hc with ⟨hs, hrest⟩
      have hstep : r.clip s = r.clipWith .exact s := Rect.clip_eq hr hs
      have hfold : clipFrom (r.clip s) c = clipExact (r.clip s) c :=
        ih (Rect.inRange_clip hr hs) hrest
      rw [clipFrom, List.foldl_cons, ← clipFrom, hfold, hstep]
      rfl

/-- Clipping by several rectangles does not depend on their order and leaves their common points.
Each axis of the result holds a point or is collapsed, and no collapse on the way saturates. -/
theorem clipFrom_order_irrelevant :
    (∀ d, c.Perm d → clipFrom r d = clipFrom r c) ∧
    (∀ x y, (clipFrom r c).Contains x y ↔ r.Contains x y ∧ ∀ s ∈ c, s.Contains x y) ∧
    (c ≠ [] → (clipFrom r c).Trimmed) ∧
    ∀ before, before <+: c → clipFrom r before = clipExact r before := by
  have hexact := clipFrom_eq hr hc
  refine ⟨?_, ?_, ?_, ?_⟩
  · intro d hperm
    have hd : Cover.InRange d := fun s hs => hc s (hperm.mem_iff.mpr hs)
    rw [hexact, clipFrom_eq hr hd, clipExact_perm hperm]
  · intro x y
    rw [hexact, contains_clipExact_iff, List.forall_mem_cons]
  · intro hne
    rw [hexact]
    exact trimmed_clipExact hne r
  · intro before hbefore
    exact clipFrom_eq hr fun s hs => hc s (hbefore.subset hs)

end InRange

theorem clipFrom_order_irrelevant_collapsing :
    let r : Rect := ⟨minBound, 9, 0, maxBound⟩
    let c : Cover := [⟨12, 20, 4, 4⟩, Rect.plane, ⟨3, 5, 7, 6⟩, ⟨minBound, minBound, 0, 8⟩]
    let d : Cover := [⟨minBound, minBound, 0, 8⟩, ⟨3, 5, 7, 6⟩, ⟨12, 20, 4, 4⟩, Rect.plane]
    r.InRange ∧ c.InRange ∧ c.Perm d ∧ c ≠ [] ∧ clipFrom r c = ⟨12, 11, 7, 6⟩ ∧
      clipFrom r d = clipFrom r c ∧ (clipFrom r c).Trimmed ∧
      clipFrom r [⟨12, 20, 4, 4⟩, Rect.plane] = clipExact r [⟨12, 20, 4, 4⟩, Rect.plane] := by
  intro r c d
  have hr : r.InRange := by decide
  have hc : c.InRange := by decide
  have hperm : c.Perm d := by decide
  have hne : c ≠ [] := by decide
  rcases clipFrom_order_irrelevant hr hc with ⟨horder, _, htrimmed, hexact⟩
  exact ⟨hr, hc, hperm, hne, by decide, horder d hperm, htrimmed hne, hexact _ (by decide)⟩

end Cover

end Rectilinear
