import Rectilinear.Error
import Rectilinear.Steps

/-!
# Arithmetic of set operations

A set operation only ever moves a bound by one, collapses an axis, turns a row into a bound, or
counts one rectangle more.  In `word` arithmetic a free step wraps around, a checked one fails at
the extreme bound, and the others saturate; this is the arithmetic that runs.  In `exact` arithmetic
every step is the step on integers.  In `checked` arithmetic a step panics instead of giving what a
word cannot hold.
-/

namespace Rectilinear

inductive Arith where
  | word
  | exact
  | checked
  deriving DecidableEq, Repr

namespace Arith

/-!
## Steps that can fail

A band is only split where there is a next or a previous bound, which exact arithmetic does not ask
for.  In `word` arithmetic counting saturates at what a word can hold, and so does the bound of a
row.
-/

/-- A number, unless a word cannot hold it. -/
def checkRange (x : Int) : Except Failure Int :=
  if InRange x then .ok x else .error (.panic .overflow)

def steps : Arith → Steps (Except Failure)
  | word => Steps.word.lift
  | exact => Steps.exact.lift
  | checked =>
      { next := fun x => checkRange (x + 1)
        prev := fun x => checkRange (x - 1)
        collapsed := fun low => checkRange (low - 1) }

def next? : Arith → Int → Option Int
  | exact, x => some (x + 1)
  | _, x => if x < maxBound then some (x + 1) else none

def prev? : Arith → Int → Option Int
  | exact, x => some (x - 1)
  | _, x => if minBound < x then some (x - 1) else none

/-- The bound that stands for a row of the sweep. -/
def bound : Arith → Int → Except Failure Int
  | word, row => .ok (clamp row)
  | exact, row => .ok row
  | checked, row => checkRange row

def maxCount : Nat := 4294967295

def more : Arith → Nat → Except Failure Nat
  | word, n => .ok (min (n + 1) maxCount)
  | exact, n => .ok (n + 1)
  | checked, n => if n < maxCount then .ok (n + 1) else .error (.panic .overflow)

/-!
## Steps in range

Within the range of a word, all three arithmetics take the steps on integers.
-/

theorem checkRange_of_inRange {x : Int} (h : InRange x) : checkRange x = .ok x :=
  if_pos h

theorem exactInRange_steps (arith : Arith) : arith.steps.ExactInRange := by
  cases arith with
  | word => exact Steps.exactInRange_word.lift
  | exact => exact Steps.exactInRange_exact.lift
  | checked => exact ⟨checkRange_of_inRange, checkRange_of_inRange, checkRange_of_inRange⟩

theorem next?_of_lt {arith : Arith} {x : Int} (h : x < maxBound) :
    arith.next? x = some (x + 1) := by
  cases arith <;> simp [next?, h]

theorem prev?_of_gt {arith : Arith} {x : Int} (h : minBound < x) :
    arith.prev? x = some (x - 1) := by
  cases arith <;> simp [prev?, h]

theorem bound_of_inRange {arith : Arith} {row : Int} (h : InRange row) :
    arith.bound row = .ok row := by
  cases arith with
  | word => exact congrArg Except.ok (clamp_of_inRange h)
  | exact => rfl
  | checked => exact checkRange_of_inRange h

theorem more_of_lt {arith : Arith} {n : Nat} (h : n < maxCount) : arith.more n = .ok (n + 1) := by
  cases arith with
  | word => exact congrArg Except.ok (Nat.min_eq_left h)
  | exact => rfl
  | checked => exact if_pos h

end Arith

end Rectilinear
