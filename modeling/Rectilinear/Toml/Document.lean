import Rectilinear.Toml.Dates
import Rectilinear.Toml.Numbers
import Rectilinear.Toml.Value

/-!
# TOML documents

A document is read line by line.  A header makes the lines after it belong to its table.
-/

namespace Rectilinear

namespace Toml

structure KeyPath where
  path : List String
  key : String

/-- Arrays and tables in braces may be nested less deep than this, and dotted keys have fewer parts.
-/
def nestingLimit : Nat := 80

namespace Reader

def keyPath : Reader KeyPath := do
  let keys ← dottedKey (nestingLimit - 1)
  match keys.getLast? with
  | some key => return ⟨keys.dropLast, key⟩
  | none => failure

def numberOrDate : Reader Value := do
  dateTime <|> float <|> integer
  return .other

/-!
## Values

The first argument is the number of steps that reading may take, the second how deep arrays and
tables may still be nested.
-/

mutual

def value : Nat → Nat → Reader Value
  | 0, _ => failure
  | steps + 1, depth => do
      match ← peek? with
      | some '"' => return .string (← string)
      | some '\'' => return .string (← string)
      | some '[' => do
          require (0 < depth)
          char '['
          return .array (← items steps (depth - 1))
      | some '{' => do
          require (0 < depth)
          char '{'
          blanks
          if (← optionally (char '}')).isSome then
            return .table .inline []
          else
            return .table .inline (← pairs steps (depth - 1) [])
      | some 't' => do
          word "true"
          return .boolean true
      | some 'f' => do
          word "false"
          return .boolean false
      | _ => numberOrDate

def items : Nat → Nat → Reader (List Value)
  | 0, _ => failure
  | steps + 1, depth => do
      gap
      if (← optionally (char ']')).isSome then
        return []
      else
        let item ← value steps depth
        gap
        if (← optionally (char ',')).isSome then
          return item :: (← items steps depth)
        else
          char ']'
          return [item]

def pairs : Nat → Nat → Entries → Reader Entries
  | 0, _, _ => failure
  | steps + 1, depth, entries => do
      let keys ← keyPath
      char '='
      blanks
      let item ← value steps depth
      blanks
      match Entries.insert keys.path keys.key item .inline entries with
      | none => failure
      | some entries =>
          if (← optionally (char ',')).isSome then
            pairs steps depth entries
          else
            char '}'
            return entries

end

/-!
## Lines

A header in brackets opens the table that the lines after it belong to, and every other line that is
not blank has an entry of that table.
-/

structure Progress where
  root : Entries
  current : List String

def header (progress : Progress) : Reader Progress := do
  char '['
  let double := (← optionally (char '[')).isSome
  let keys ← keyPath
  word (if double then "]]" else "]")
  lineRest
  let opened := if double then Entries.openTables else Entries.openTable
  match opened keys.path keys.key .header progress.root with
  | some root => return ⟨root, keys.path ++ [keys.key]⟩
  | none => failure

def entry (steps : Nat) (progress : Progress) : Reader Progress := do
  let keys ← keyPath
  char '='
  blanks
  let item ← value steps (nestingLimit - 1)
  lineRest
  let added := Entries.update false (Entries.insert keys.path keys.key item) progress.current
  match added .header progress.root with
  | some root => return { progress with root }
  | none => failure

def lines (steps : Nat) : Nat → Progress → Reader Entries
  | 0, _ => failure
  | limit + 1, progress => do
      blanks
      match ← peek? with
      | none => return progress.root
      | some '[' => lines steps limit (← header progress)
      | some '#' => do
          lineRest
          lines steps limit progress
      | some '\n' => do
          newline
          lines steps limit progress
      | some '\r' => do
          newline
          lines steps limit progress
      | some _ => lines steps limit (← entry steps progress)

end Reader

/-- The entries of a document.  Every step of reading takes at least one character, and so does
every line; a value takes at most two steps for each character. -/
def Entries.ofText? (text : String) : Option Entries :=
  let text :=
    match text.toList with
    | '\ufeff' :: rest => rest
    | rest => rest
  let steps := 2 * text.length + 2
  (Reader.lines steps (text.length + 1) ⟨[], []⟩ text).map Prod.fst

end Toml

end Rectilinear
