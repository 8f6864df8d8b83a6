import Rectilinear.Rect.Resize

/-!
# Covers

A cover is a list of rectangles that stands for the union of their points.  Its members may be
empty, overlap or repeat; `Cover.normalize` and the set operations bring covers into a normal form.
-/

namespace Rectilinear

abbrev Cover :=
  List Rect

namespace Cover

def Contains (c : Cover) (x y : Int) : Prop :=
  ∃ r ∈ c, r.Contains x y

instance (c : Cover) (x y : Int) : Decidable (c.Contains x y) :=
  inferInstanceAs (Decidable (∃ r ∈ c, r.Contains x y))

/-- The number of members that contain a point. -/
def coverage (c : Cover) (x y : Int) : Nat :=
  c.countP fun r => r.Contains x y

def InRange (c : Cover) : Prop :=
  ∀ r ∈ c, r.InRange

instance (c : Cover) : Decidable c.InRange :=
  inferInstanceAs (Decidable (∀ r ∈ c, r.InRange))

def translate (dx dy : Int) (c : Cover) : Cover :=
  c.map (Rect.translate dx dy)

def nonempty (c : Cover) : Cover :=
  c.filter fun r => ¬ r.IsEmpty

def sorted (c : Cover) : Cover :=
  c.mergeSort fun r s => r ≤ s

def rectAt (cover : Cover) (index : Nat) : Except OutOfRange Rect :=
  match cover[index]? with
  | some r => .ok r
  | none => .error ⟨index, cover.length⟩

def text (c : Cover) : String :=
  String.intercalate ", " (c.map Rect.text)

/-!
## Membership, coverage and order

A cover contains a point that one of its members contains.  Empty members add nothing to it, and
sorting keeps the members.
-/

@[simp] theorem contains_nil (x y : Int) : ¬ Contains [] x y := by
  simp [Contains]

@[simp] theorem contains_cons (r : Rect) (c : Cover) (x y : Int) :
    Contains (r :: c) x y ↔ r.Contains x y ∨ Contains c x y := by
  simp [Contains]

@[simp] theorem contains_append (c d : Cover) (x y : Int) :
    Contains (c ++ d) x y ↔ Contains c x y ∨ Contains d x y := by
  simp [Contains, or_and_right, exists_or]

theorem coverage_pos_iff {c : Cover} {x y : Int} : 0 < c.coverage x y ↔ c.Contains x y := by
  simp [coverage, Contains, List.countP_pos_iff]

theorem contains_nonempty (c : Cover) (x y : Int) : c.nonempty.Contains x y ↔ c.Contains x y := by
  constructor
  · rintro ⟨r, hr, hxy⟩
    exact ⟨r, (List.mem_filter.mp hr).1, hxy⟩
  · rintro ⟨r, hr, hxy⟩
    refine ⟨r, List.mem_filter.mpr ⟨hr, ?_⟩, hxy⟩
    simp only [decide_eq_true_eq]
    intro hempty
    exact Rect.isEmpty_iff.mp hempty x y hxy

theorem perm_sorted (c : Cover) : c.sorted.Perm c :=
  List.mergeSort_perm c _

theorem pairwise_sorted (c : Cover) : c.sorted.Pairwise (· ≤ ·) := by
  have htrans : ∀ r s t : Rect,
      decide (r ≤ s) = true → decide (s ≤ t) = true → decide (r ≤ t) = true := by
    intro r s t hrs hst
    simp only [decide_eq_true_eq] at *
    exact Rect.le_trans hrs hst
  have htotal : ∀ r s : Rect, (decide (r ≤ s) || decide (s ≤ r)) = true := by
    intro r s
    simpa using Rect.le_total r s
  simpa [sorted] using List.pairwise_mergeSort htrans htotal c

end Cover

end Rectilinear
