import Rectilinear.Cover.Basic
import Rectilinear.Rect.Merge

/-!
# Canonical covers

A cover is canonical if its members are non-empty, none goes before the one that it follows, and no
two of them intersect or can be replaced by one rectangle.
-/

namespace Rectilinear

namespace Cover

def Canonical (c : Cover) : Prop :=
  (∀ r ∈ c, ¬ r.IsEmpty) ∧ (∀ neighbours ∈ c.zip c.tail, neighbours.1 ≤ neighbours.2) ∧
    c.Pairwise fun r s => ¬ r.Intersects s ∧ ¬ r.Mergeable s

instance (c : Cover) : Decidable c.Canonical :=
  inferInstanceAs (Decidable (_ ∧ _))

theorem canonical_nil : Canonical [] :=
  ⟨by simp, by simp, List.Pairwise.nil⟩

theorem canonical_singleton {r : Rect} (h : ¬ r.IsEmpty) : Canonical [r] :=
  ⟨by simpa using h, by simp, List.pairwise_singleton _ _⟩

end Cover

end Rectilinear
