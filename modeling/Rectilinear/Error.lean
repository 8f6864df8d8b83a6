import Rectilinear.SetOp

/-!
# Failures

A sweep keeps counts of what covers each of its bands.  Where its bookkeeping breaks, it returns an
error: a rectangle stops at a row where none of its operand covers the band, or there is no bound at
which a band could be split.  A panic is no result at all: arithmetic that is checked overflows, or
a band is taken from beyond the last one.
-/

namespace Rectilinear

inductive SweepError where
  | inconsistentCoverage (operand : Operand) (row : Int)
  | infiniteSplit (bound : Int)
  deriving DecidableEq, Repr

def SweepError.message : SweepError → String
  | inconsistentCoverage operand row =>
      "Invalid edge count for " ++ operand.text ++ " list at y = " ++ toString row
  | infiniteSplit bound => "Cannot split sweep band at infinite boundary " ++ toString bound

inductive Panic where
  | overflow
  | indexOutOfBounds
  deriving DecidableEq, Repr

inductive Failure where
  | error (e : SweepError)
  | panic (p : Panic)
  deriving DecidableEq, Repr

end Rectilinear
