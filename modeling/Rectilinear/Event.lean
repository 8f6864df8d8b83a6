import Rectilinear.Error
import Rectilinear.Log.Level
import Rectilinear.Rect.Basic

/-!
# Events

Set operations, normalizing and loading a configuration tell what they do by events.  An event has a
level, a target that names the part it comes from, a message, and fields.
-/

namespace Rectilinear

inductive Event where
  | closedFormUsed (op : SetOp)
  | sweepStarted (op : SetOp) (a b edges : Nat)
  | rectEmitted (rect : Rect)
  | normalized (passes members : Nat)
  | sweepFinished (op : SetOp) (members bands : Nat)
  | sweepAborted (op : SetOp) (error : SweepError)
  | configLoaded (path : String)
  deriving DecidableEq, Repr

namespace Event

inductive Value where
  | count (n : Nat)
  | text (s : String)
  deriving DecidableEq, Repr

def Value.toText : Value → String
  | count n => toString n
  | text s => s

def level : Event → Log.Level
  | closedFormUsed .. => .trace
  | sweepStarted .. => .debug
  | rectEmitted .. => .trace
  | normalized .. => .trace
  | sweepFinished .. => .debug
  | sweepAborted .. => .warn
  | configLoaded .. => .debug

def target : Event → String
  | normalized .. => "novade_region::canonical"
  | configLoaded .. => "novade_region::config::loader"
  | _ => "novade_region::sweep"

def message : Event → String
  | closedFormUsed .. => "Combining two single regions in closed form"
  | sweepStarted .. => "Running region sweep"
  | rectEmitted .. => "Emitting swept region"
  | normalized .. => "Canonicalized region list"
  | sweepFinished .. => "Region sweep finished"
  | sweepAborted .. => "Region sweep aborted"
  | configLoaded .. => "Loaded region configuration"

def fields : Event → List (String × Value)
  | closedFormUsed op => [("op", .text op.text)]
  | sweepStarted op a b edges =>
      [("op", .text op.text), ("a", .count a), ("b", .count b), ("edges", .count edges)]
  | rectEmitted rect => [("region", .text rect.text)]
  | normalized passes members => [("passes", .count passes), ("regions", .count members)]
  | sweepFinished op members bands =>
      [("op", .text op.text), ("regions", .count members), ("bands", .count bands)]
  | sweepAborted op error => [("op", .text op.text), ("error", .text error.message)]
  | configLoaded path => [("path", .text path)]

end Event

end Rectilinear
