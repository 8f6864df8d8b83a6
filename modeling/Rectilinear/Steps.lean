import Rectilinear.Bounds

/-!
# Steps on bounds

The closed form of a set operation moves bounds by one and collapses axes.  It can be taken in any
monad in which these steps are: in one where they cannot fail it is just a closed form, in another
one it tells whether a step does.
-/

namespace Rectilinear

structure Steps (m : Type → Type) where
  next : Int → m Int
  prev : Int → m Int
  collapsed : Int → m Int

namespace Steps

variable {m : Type → Type} [Monad m]

def word : Steps Id where
  next x := Int.bmod (x + 1) 4294967296
  prev x := Int.bmod (x - 1) 4294967296
  collapsed low := Rectilinear.collapsed low

def exact : Steps Id where
  next x := x + 1
  prev x := x - 1
  collapsed low := low - 1

def lift (steps : Steps Id) : Steps m where
  next x := pure (steps.next x)
  prev x := pure (steps.prev x)
  collapsed low := pure (steps.collapsed low)

/-- In range, every step is the step on integers. -/
structure ExactInRange (steps : Steps m) : Prop where
  next : ∀ {x : Int}, InRange (x + 1) → steps.next x = pure (x + 1)
  prev : ∀ {x : Int}, InRange (x - 1) → steps.prev x = pure (x - 1)
  collapsed : ∀ {low : Int}, InRange (low - 1) → steps.collapsed low = pure (low - 1)

theorem exactInRange_exact : exact.ExactInRange :=
  ⟨fun _ => rfl, fun _ => rfl, fun _ => rfl⟩

theorem exactInRange_word : word.ExactInRange := by
  constructor
  · intro x h
    simp only [InRange, minBound, maxBound] at h
    show Int.bmod (x + 1) 4294967296 = x + 1
    rw [Int.bmod_def]
    omega
  · intro x h
    simp only [InRange, minBound, maxBound] at h
    show Int.bmod (x - 1) 4294967296 = x - 1
    rw [Int.bmod_def]
    omega
  · exact clamp_of_inRange

theorem ExactInRange.lift {steps : Steps Id} (h : steps.ExactInRange) :
    (steps.lift : Steps m).ExactInRange :=
  ⟨fun hx => congrArg pure (h.next hx), fun hx => congrArg pure (h.prev hx),
    fun hx => congrArg pure (h.collapsed hx)⟩

end Steps

/-- A list of one result, which is taken only on a condition. -/
def singletonIf {m : Type → Type} [Monad m] {α : Type} (p : Prop) [Decidable p] (x : m α) :
    m (List α) :=
  if p then do return [← x] else pure []

section Lawful

variable {m : Type → Type} [Monad m] [LawfulMonad m] {steps : Steps m} {α : Type} {p : Prop}
  [Decidable p] {x : Int}

theorem singletonIf_next (h : steps.ExactInRange) (f : Int → α) (hx : p → InRange (x + 1)) :
    singletonIf p (do return f (← steps.next x)) = pure (if p then [f (x + 1)] else []) := by
  by_cases hp : p
  · rw [singletonIf, if_pos hp, if_pos hp, h.next (hx hp), pure_bind, pure_bind]
  · rw [singletonIf, if_neg hp, if_neg hp]

theorem singletonIf_prev (h : steps.ExactInRange) (f : Int → α) (hx : p → InRange (x - 1)) :
    singletonIf p (do return f (← steps.prev x)) = pure (if p then [f (x - 1)] else []) := by
  by_cases hp : p
  · rw [singletonIf, if_pos hp, if_pos hp, h.prev (hx hp), pure_bind, pure_bind]
  · rw [singletonIf, if_neg hp, if_neg hp]

end Lawful

end Rectilinear
