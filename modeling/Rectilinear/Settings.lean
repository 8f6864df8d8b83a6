/-!
# Engine settings

Switches of the combining engine.  They change how a result is computed, and which events tell of
it.
-/

namespace Rectilinear

structure Settings where
  /-- Join neighbouring bands of equal coverage during a sweep. -/
  coalesceBands : Bool := true
  /-- Use the closed forms when both operands are single rectangles. -/
  pairwiseFastPath : Bool := true
  deriving DecidableEq, Repr

instance : Inhabited Settings :=
  ⟨{}⟩

end Rectilinear
