import Rectilinear.Expr
import Rectilinear.Proofs.Exactness

/-!
# Expressions and formulas

Every operation of an expression succeeds, and gives the canonical cover of the points at which the
expression holds as a formula.  A result is itself an operand that the next operation can take.
Complements make this true of the points in range only: all other points are outside the plane.
-/

namespace Rectilinear

namespace Expr

def Sweepable : Expr → Prop
  | rect r => r.InRange
  | cover c => c.Sweepable
  | not e => e.Sweepable
  | binary _ e f => e.Sweepable ∧ f.Sweepable

def Describes (e : Expr) (c : Cover) : Prop :=
  ∀ x y, InRange x → InRange y → (c.Contains x y ↔ e.Holds x y)

/-- An expression has a value, and the value can be an operand. -/
def Sound (e : Expr) : Prop :=
  ∃ c, e.eval = .ok c ∧ c.Sweepable ∧ e.Describes c

def Exact (e : Expr) : Prop :=
  ∃ c, e.eval = .ok c ∧ c.Canonical ∧ c.Sweepable ∧ e.Describes c

theorem Exact.sound {e : Expr} (h : e.Exact) : e.Sound := by
  rcases h with ⟨c, heval, _, hsweepable, hdescribes⟩
  exact ⟨c, heval, hsweepable, hdescribes⟩

/-!
## One operation

Whether a point belongs to the result of an operation is decided by whether its operands cover the
point.  A complement is one as well, with the plane for an operand.
-/

theorem holds_binary_iff {op : SetOp} {e f : Expr} {a b : Cover} {x y : Int}
    (he : a.Contains x y ↔ e.Holds x y) (hf : b.Contains x y ↔ f.Holds x y) :
    op.Holds (a.coverage x y) (b.coverage x y) ↔ (binary op e f).Holds x y := by
  have hzero : b.coverage x y = 0 ↔ ¬ b.Contains x y := by
    rw [← Cover.coverage_pos_iff]
    omega
  cases op <;> simp only [SetOp.Holds, Holds, Cover.coverage_pos_iff, hzero, he, hf]

theorem holds_compl_iff {e : Expr} {a : Cover} {x y : Int} (hx : InRange x) (hy : InRange y)
    (he : a.Contains x y ↔ e.Holds x y) :
    SetOp.xor.Holds (Cover.coverage [Rect.plane] x y) (a.coverage x y) ↔ (not e).Holds x y := by
  have hplane : Cover.Contains [Rect.plane] x y := ⟨Rect.plane, by simp, hx, hy⟩
  simp only [SetOp.Holds, Holds, Cover.coverage_pos_iff, hplane, he, true_iff]

theorem exact_binary (op : SetOp) {e f : Expr} (he : e.Sound) (hf : f.Sound) :
    (binary op e f).Exact := by
  rcases he with ⟨a, hevala, hsa, ha⟩
  rcases hf with ⟨b, hevalb, hsb, hb⟩
  rcases Combination.exact_ofOperands hsa hsb .word {} op with
    ⟨c, houtcome, hcanonical, hpartitions⟩
  refine ⟨c, ?_, hcanonical, hpartitions.sweepable, ?_⟩
  · rw [eval, hevala, hevalb]
    exact houtcome
  · intro x y hx hy
    exact (hpartitions.contains_iff x y).trans (holds_binary_iff (ha x y hx hy) (hb x y hx hy))

theorem exact_not {e : Expr} (he : e.Sound) : (not e).Exact := by
  rcases he with ⟨a, hevala, hsa, ha⟩
  have hplane : Cover.Sweepable [Rect.plane] := Cover.sweepable_singleton (by decide)
  rcases Combination.exact_ofOperands hplane hsa .word {} .xor with
    ⟨c, houtcome, hcanonical, hpartitions⟩
  refine ⟨c, ?_, hcanonical, hpartitions.sweepable, ?_⟩
  · rw [eval, hevala]
    exact houtcome
  · intro x y hx hy
    exact (hpartitions.contains_iff x y).trans (holds_compl_iff hx hy (ha x y hx hy))

/-!
## Whole expressions

By induction over an expression, all its operations succeed.
-/

theorem sound_and_exact_operations (e : Expr) (h : e.Sweepable) :
    e.Sound ∧ ∀ f ∈ e.operations, f.Exact := by
  induction e with
  | rect r =>
      refine ⟨⟨[r], rfl, Cover.sweepable_singleton h, ?_⟩, by simp [operations]⟩
      intro x y _ _
      simp [Holds]
  | cover c =>
      refine ⟨⟨c, rfl, h, ?_⟩, by simp [operations]⟩
      intro x y _ _
      rfl
  | not e ih =>
      rcases ih h with ⟨hsound, hoperations⟩
      have hexact := exact_not hsound
      refine ⟨hexact.sound, ?_⟩
      intro f hf
      rcases List.mem_append.mp hf with hf | hf
      · exact hoperations f hf
      · rw [List.mem_singleton.mp hf]
        exact hexact
  | binary op e f ihe ihf =>
      rcases ihe h.1 with ⟨hsounde, hoperationse⟩
      rcases ihf h.2 with ⟨hsoundf, hoperationsf⟩
      have hexact := exact_binary op hsounde hsoundf
      refine ⟨hexact.sound, ?_⟩
      intro g hg
      rcases List.mem_append.mp hg with hg | hg
      · rcases List.mem_append.mp hg with hg | hg
        · exact hoperationse g hg
        · exact hoperationsf g hg
      · rw [List.mem_singleton.mp hg]
        exact hexact

theorem eval_exact (e : Expr) (h : e.Sweepable) :
    (∃ c, e.eval = .ok c ∧
        ∀ x y, InRange x → InRange y → (c.Contains x y ↔ e.Holds x y)) ∧
      ∀ f ∈ e.operations, ∃ c, f.eval = .ok c ∧ c.Canonical ∧
        ∀ x y, InRange x → InRange y → (c.Contains x y ↔ f.Holds x y) := by
  rcases sound_and_exact_operations e h with ⟨⟨c, heval, _, hdescribes⟩, hoperations⟩
  refine ⟨⟨c, heval, hdescribes⟩, ?_⟩
  intro f hf
  rcases hoperations f hf with ⟨d, heval, hcanonical, _, hdescribes⟩
  exact ⟨d, heval, hcanonical, hdescribes⟩

theorem eval_exact_nested :
    let e := not (binary .diff (not (rect ⟨minBound, 0, minBound, maxBound⟩))
      (cover [⟨-2, 5, 1, 4⟩, ⟨3, 1, 0, 0⟩, ⟨-2, 5, 1, 4⟩]))
    (∃ c, e.eval = .ok c ∧
        ∀ x y, InRange x → InRange y → (c.Contains x y ↔ e.Holds x y)) ∧
      ∀ f ∈ e.operations, ∃ c, f.eval = .ok c ∧ c.Canonical ∧
        ∀ x y, InRange x → InRange y → (c.Contains x y ↔ f.Holds x y) :=
  eval_exact _ ⟨show Rect.InRange _ by decide,
    Cover.sweepable_of_length (by decide) (by decide)⟩

end Expr

end Rectilinear
