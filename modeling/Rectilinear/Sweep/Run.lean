import Rectilinear.Sweep.Band

/-!
# Sweeps

A sweep starts with one band that spans all columns and applies the edges in order.  Whenever an
edge changes a band for which the operation holds, the rows since the band was opened are added to
the result.
-/

namespace Rectilinear

/-- The bands from left to right, and the rectangles emitted so far. -/
structure Sweep where
  bands : List Band
  emitted : Cover
  deriving DecidableEq, Repr

namespace Sweep

def initial : Sweep :=
  ⟨[Band.line], []⟩

def step (arith : Arith) (coalesce : Bool) (op : SetOp) (sweep : Sweep) (edge : Edge) :
    Except Failure Sweep := do
  let (before, onward) ← Band.splitBefore arith edge.left sweep.bands
  let crossing ← Band.cross arith op edge onward
  let bands :=
    if coalesce then
      Band.joinAround op before crossing.spanned crossing.beyond
    else
      before ++ crossing.spanned ++ crossing.beyond
  .ok ⟨bands, sweep.emitted ++ crossing.emitted⟩

def run (arith : Arith) (coalesce : Bool) (op : SetOp) (edges : List Edge) :
    Except Failure Sweep :=
  edges.foldlM (step arith coalesce op) initial

def ofOperands (arith : Arith) (coalesce : Bool) (op : SetOp) (a b : Cover) :
    Except Failure Sweep :=
  run arith coalesce op (Edge.ofOperands a b)

theorem run_append (arith : Arith) (coalesce : Bool) (op : SetOp) (edges more : List Edge) :
    run arith coalesce op (edges ++ more) =
      (run arith coalesce op edges).bind fun sweep =>
        more.foldlM (step arith coalesce op) sweep := by
  simp only [run, List.foldlM_append]
  rfl

end Sweep

end Rectilinear
