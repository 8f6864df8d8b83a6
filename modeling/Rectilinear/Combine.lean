import Rectilinear.ClosedForm
import Rectilinear.Event
import Rectilinear.Settings
import Rectilinear.Sweep.Run

/-!
# Combining covers

A set operation on two covers gives the canonical cover of the points for which it holds.  Empty
members are dropped first.  An operand without members may decide the result at once; two single
rectangles have a closed form; all else is swept.
-/

namespace Rectilinear

/-- What a set operation gives, and the events that tell how. -/
structure Combination where
  outcome : Except Failure Cover
  events : List Event

namespace Cover

def Normalization.event (normal : Normalization) : Event :=
  .normalized normal.passes normal.cover.length

end Cover

/-- A panic leaves no event behind. -/
def Failure.events (op : SetOp) : Failure → List Event
  | error e => [.sweepAborted op e]
  | panic _ => []

namespace ClosedForm

def events : ClosedForm → List Event
  | settled _ => []
  | pieces c => [c.normalization.event]

end ClosedForm

namespace Combination

def ofClosedForm (arith : Arith) (op : SetOp) (r s : Rect) : Combination :=
  match op.closedFormM arith.steps r s with
  | .error e =>
      { outcome := .error e
        events := [.closedFormUsed op] }
  | .ok form =>
      { outcome := .ok form.cover
        events := .closedFormUsed op :: form.events }

def ofSweep (arith : Arith) (coalesce : Bool) (op : SetOp) (a b : Cover) : Combination :=
  let started := .sweepStarted op a.length b.length (Edge.ofOperands a b).length
  match Sweep.ofOperands arith coalesce op a b with
  | .error e =>
      { outcome := .error e
        events := started :: e.events op }
  | .ok sweep =>
      let normal := sweep.emitted.normalization
      { outcome := .ok normal.cover
        events :=
          started :: sweep.emitted.map .rectEmitted ++
            [normal.event, .sweepFinished op normal.cover.length sweep.bands.length] }

def ofNonempty (arith : Arith) (settings : Settings) (op : SetOp) (a b : Cover) : Combination :=
  match op, a, b with
  | .and, [], _ => ⟨.ok [], []⟩
  | .diff, [], _ => ⟨.ok [], []⟩
  | .and, _, [] => ⟨.ok [], []⟩
  | op, [r], [s] =>
      if settings.pairwiseFastPath then
        ofClosedForm arith op r s
      else
        ofSweep arith settings.coalesceBands op [r] [s]
  | op, a, b => ofSweep arith settings.coalesceBands op a b

def ofOperands (arith : Arith) (settings : Settings) (op : SetOp) (a b : Cover) : Combination :=
  ofNonempty arith settings op a.nonempty b.nonempty

end Combination

namespace Cover

/-!
## The set operations

A set operation gives the cover of the points for which it holds.  The complement of a cover is what
the plane has besides it.
-/

def combine (settings : Settings) (op : SetOp) (a b : Cover) : Except Failure Cover :=
  (Combination.ofOperands .word settings op a b).outcome

def inter (a b : Cover) : Except Failure Cover :=
  combine {} .and a b

def union (a b : Cover) : Except Failure Cover :=
  combine {} .or a b

def symmDiff (a b : Cover) : Except Failure Cover :=
  combine {} .xor a b

def diff (a b : Cover) : Except Failure Cover :=
  combine {} .diff a b

def compl (a : Cover) : Except Failure Cover :=
  symmDiff [Rect.plane] a

end Cover

end Rectilinear
