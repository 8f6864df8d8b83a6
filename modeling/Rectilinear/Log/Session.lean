import Rectilinear.Log.Filter
import Rectilinear.Log.Format
import Rectilinear.Text.Lowercase

/-!
# Logging sessions

A session has at most one subscriber: the first that is installed stays.  It writes the events that
its filter shows, as lines of text or as records.
-/

namespace Rectilinear

namespace Log

structure Subscriber where
  format : Format
  filter : Filter
  deriving DecidableEq, Repr

inductive LogError where
  /-- The level or the format is unknown. -/
  | filter (reason : String)
  | alreadyInstalled
  deriving DecidableEq, Repr

/-- The text of an error.  That of a second installation is left to the host. -/
def LogError.message? : LogError → Option String
  | filter reason => some ("Failed to set log filter: " ++ reason)
  | alreadyInstalled => none

def Subscriber.ofSettings (level format : String) : Except LogError Subscriber :=
  let levelName := Text.lowercase level
  let formatName := Text.lowercase format
  match Level.ofName? levelName, Format.ofName? formatName with
  | none, _ => .error (.filter (invalidLevel levelName))
  | _, none => .error (.filter (invalidFormat formatName))
  | some level, some format => .ok ⟨format, Filter.ofLevel level⟩

inductive Entry where
  | line (text : String)
  | record (event : Event)
  deriving DecidableEq, Repr

def eventText (event : Event) : String :=
  let level := event.level.label
  let fields := event.fields.map fun (name, value) => " " ++ name ++ "=" ++ value.toText
  "".pushn ' ' (5 - level.length) ++ level ++ " " ++ event.target ++ ": " ++ event.message ++
    String.join fields

/-- What a subscriber writes for an event.  Line ends in a field break the line. -/
def Subscriber.entries (subscriber : Subscriber) (event : Event) : List Entry :=
  if subscriber.filter.Shows event then
    match subscriber.format with
    | .text => ((eventText event).splitOn "\n").map .line
    | .json => [.record event]
  else
    []

structure Session where
  subscriber : Option Subscriber
  deriving DecidableEq, Repr

namespace Session

def initial : Session :=
  ⟨none⟩

def install (session : Session) (level format : String) : Except LogError Session := do
  let subscriber ← Subscriber.ofSettings level format
  match session.subscriber with
  | none => .ok ⟨some subscriber⟩
  | some _ => .error .alreadyInstalled

/-- Installs a subscriber that writes text, by a filter of the environment if there is one, unless a
subscriber is installed already. -/
def installMinimal (session : Session) (environment : Option String) : Session :=
  match session.subscriber with
  | none =>
      let filter := (environment.bind Filter.ofText?).getD (Filter.ofLevel .info)
      ⟨some ⟨.text, filter⟩⟩
  | some _ => session

def write (session : Session) (events : List Event) : List Entry :=
  match session.subscriber with
  | none => []
  | some subscriber => events.flatMap subscriber.entries

end Session

end Log

end Rectilinear
