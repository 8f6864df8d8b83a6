import Rectilinear.Arith
import Rectilinear.Sweep.Edge

/-!
# Bands

Between two edges, the columns of the plane fall into bands of uniform coverage.  A band knows how
many rectangles of each operand cover it, and the row since when they do.  An edge is applied to the
bands that it spans; those that it spans in part are split first, and afterwards equal neighbours
may be joined again.
-/

namespace Rectilinear

structure Band where
  left : Int
  right : Int
  openRow : Int
  inA : Nat
  inB : Nat
  deriving DecidableEq, Repr

namespace Band

/-- Before the first edge nothing is covered, and the band has been open below every row. -/
def line : Band :=
  ⟨minBound, maxBound, -9223372036854775808, 0, 0⟩

def Holds (op : SetOp) (band : Band) : Prop :=
  op.Holds band.inA band.inB

instance (op : SetOp) (band : Band) : Decidable (band.Holds op) :=
  inferInstanceAs (Decidable (op.Holds _ _))

/-!
## Changing a band

When an edge changes a band for which the operation holds, the band first adds to the result the
rectangle that it has covered since it was opened.  Then the rectangle that starts or stops is
counted, and the band is opened anew.
-/

def rectBefore (arith : Arith) (row : Int) (band : Band) : Except Failure Rect := do
  return ⟨band.left, band.right, ← arith.bound band.openRow, ← arith.bound (row - 1)⟩

def emitted (arith : Arith) (op : SetOp) (row : Int) (band : Band) : Except Failure Cover :=
  singletonIf (band.Holds op ∧ band.openRow < row) (band.rectBefore arith row)

def apply (arith : Arith) (edge : Edge) (band : Band) : Except Failure Band :=
  match edge.kind, edge.operand with
  | .start, .a => do return { band with openRow := edge.row, inA := ← arith.more band.inA }
  | .start, .b => do return { band with openRow := edge.row, inB := ← arith.more band.inB }
  | .stop, .a =>
      if band.inA = 0 then .error (.error (.inconsistentCoverage .a edge.row))
      else .ok { band with openRow := edge.row, inA := band.inA - 1 }
  | .stop, .b =>
      if band.inB = 0 then .error (.error (.inconsistentCoverage .b edge.row))
      else .ok { band with openRow := edge.row, inB := band.inB - 1 }

/-!
## Splitting

Splitting a band at a bound gives the columns up to the bound and those after it.  An edge first
sets apart the bands left of it; since the bands span the whole line, one of them reaches its left
end.  From there on it is applied to band after band, as far as it reaches.
-/

def split (arith : Arith) (last : Int) (band : Band) : Except Failure (Band × Band) :=
  match arith.next? last with
  | none => .error (.error (.infiniteSplit last))
  | some next => .ok ({ band with right := last }, { band with left := next })

def splitBefore (arith : Arith) (column : Int) :
    List Band → Except Failure (List Band × List Band)
  | [] => .error (.panic .indexOutOfBounds)
  | band :: rest =>
      if band.right < column then do
        let (before, onward) ← splitBefore arith column rest
        .ok (band :: before, onward)
      else if band.left < column then
        match arith.prev? column with
        | none => .error (.error (.infiniteSplit column))
        | some last => do
            let (low, high) ← band.split arith last
            .ok ([low], high :: rest)
      else
        .ok ([], band :: rest)

structure Crossing where
  /-- The bands that the edge spans. -/
  spanned : List Band
  /-- The bands right of it. -/
  beyond : List Band
  /-- What the spanned bands add to the result. -/
  emitted : Cover
  deriving DecidableEq, Repr

/-- Applies an edge to bands of which the first starts at the left end of the edge. -/
def cross (arith : Arith) (op : SetOp) (edge : Edge) : List Band → Except Failure Crossing
  | [] => .ok ⟨[], [], []⟩
  | band :: rest =>
      if edge.right < band.left then
        .ok ⟨[], band :: rest, []⟩
      else if edge.right < band.right then do
        let (low, high) ← band.split arith edge.right
        let added ← low.emitted arith op edge.row
        let after ← low.apply arith edge
        .ok ⟨[after], high :: rest, added⟩
      else do
        let added ← band.emitted arith op edge.row
        let after ← band.apply arith edge
        let crossing ← cross arith op edge rest
        .ok
          { crossing with
            spanned := after :: crossing.spanned
            emitted := added ++ crossing.emitted }

/-!
## Joining

Two neighbours are joinable if that cannot change what is added to the result later: they have equal
coverage and, if the operation holds for it, have been open since the same row.  The bands that an
edge spans are joined with each other and with the two beside them, from left to right.
-/

def Joinable (op : SetOp) (band next : Band) : Prop :=
  band.inA = next.inA ∧ band.inB = next.inB ∧ (band.openRow = next.openRow ∨ ¬ band.Holds op)

instance (op : SetOp) (band next : Band) : Decidable (band.Joinable op next) :=
  inferInstanceAs (Decidable (_ ∧ _))

def joinFrom (op : SetOp) (band : Band) : List Band → List Band
  | [] => [band]
  | next :: rest =>
      if band.Joinable op next then
        joinFrom op { band with right := next.right } rest
      else
        band :: joinFrom op next rest

def join (op : SetOp) : List Band → List Band
  | [] => []
  | band :: rest => joinFrom op band rest

def joinAround (op : SetOp) (before spanned beyond : List Band) : List Band :=
  before.dropLast ++ join op (before.getLast?.toList ++ spanned ++ beyond.take 1) ++ beyond.drop 1

end Band

end Rectilinear
