import Rectilinear.Toml.Reader

/-!
# Dates and times

A date, a time of day, or both, the latter with or without an offset.  No setting takes one, so only
whether a text is one matters.
-/

namespace Rectilinear

namespace Toml

def isLeapYear (year : Nat) : Bool :=
  year % 4 == 0 && (year % 100 != 0 || year % 400 == 0)

def daysInMonth (year month : Nat) : Nat :=
  if month = 2 then (if isLeapYear year then 29 else 28)
  else if month = 4 ∨ month = 6 ∨ month = 9 ∨ month = 11 then 30
  else 31

namespace Reader

def fixedDigits : Nat → Nat → Reader Nat
  | 0, value => pure value
  | count + 1, value => do
      let d ← satisfying Char.isDigit
      fixedDigits count (10 * value + (d.toNat - '0'.toNat))

def date : Reader Unit := do
  let year ← fixedDigits 4 0
  char '-'
  let month ← fixedDigits 2 0
  char '-'
  let day ← fixedDigits 2 0
  require (1 ≤ month ∧ month ≤ 12 ∧ 1 ≤ day ∧ day ≤ daysInMonth year month)

def hourMinute : Reader Unit := do
  let hour ← fixedDigits 2 0
  char ':'
  let minute ← fixedDigits 2 0
  require (hour ≤ 23 ∧ minute ≤ 59)

/-- A time of day.  A leap second is allowed in every minute. -/
def time : Reader Unit := do
  hourMinute
  char ':'
  let second ← fixedDigits 2 0
  require (second ≤ 60)
  let _ ← optionally do
    char '.'
    let _ ← satisfying Char.isDigit
    skipWhile Char.isDigit

def offset : Reader Unit :=
  (do let _ ← satisfying fun c => c == 'Z' || c == 'z') <|>
    (do
      let _ ← satisfying fun c => c == '+' || c == '-'
      hourMinute)

def dateTime : Reader Unit :=
  (do
    date
    let _ ← optionally do
      let _ ← satisfying fun c => c == 'T' || c == 't' || c == ' '
      time
      optionally offset) <|>
    time

end Reader

end Toml

end Rectilinear
