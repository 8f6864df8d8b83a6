/-!
# TOML values

Tables are lists of entries in the order in which they were made.  How a table came about decides
what may be added to it later: a table written in braces is complete, one with a header of its own
has only that header, and one that dotted keys made is open to further dotted keys.
-/

namespace Rectilinear

namespace Toml

inductive TableKind where
  /-- Written in braces. -/
  | inline
  /-- Has a header of its own, or is the whole document. -/
  | header
  /-- Needed by the header of a table within it. -/
  | implied
  /-- Made by dotted keys. -/
  | dotted
  deriving DecidableEq, Repr

inductive Value where
  | string (text : String)
  | boolean (b : Bool)
  /-- A number, date or time, which no setting takes. -/
  | other
  | array (items : List Value)
  /-- Tables that share a header in double brackets; the last of them is open. -/
  | tables (complete : List (List (String × Value))) (last : List (String × Value))
  | table (kind : TableKind) (entries : List (String × Value))
  deriving Repr

abbrev Entries :=
  List (String × Value)

namespace Entries

def put (key : String) (value : Value) : Entries → Entries
  | [] => [(key, value)]
  | (other, old) :: rest =>
      if other = key then (key, value) :: rest else (other, old) :: put key value rest

/-- What is done to the table that a path leads to: its kind and its entries give its new entries,
unless it must not be changed. -/
abbrev Update :=
  TableKind → Entries → Option Entries

/-- Follows a path from a table and updates the table that it leads to.  Tables that are missing are
made.  A path of a dotted key does not lead into tables with a header of their own, and no path
leads into a value in braces or brackets. -/
def update (byDots : Bool) (change : Update) : List String → Update
  | [], kind, entries => change kind entries
  | key :: path, _, entries =>
      match entries.lookup key with
      | none => do
          let kind := if byDots then TableKind.dotted else TableKind.implied
          let inner ← update byDots change path kind []
          some (put key (.table kind inner) entries)
      | some (.table kind inner) => do
          if kind = .inline ∨ byDots ∧ kind = .header then
            none
          else
            let inner ← update byDots change path kind inner
            some (put key (.table kind inner) entries)
      | some (.tables complete last) => do
          let last ← update byDots change path .header last
          some (put key (.tables complete last) entries)
      | some _ => none

/-!
## Adding entries and headers

Entries are added with dotted keys.  A header in single brackets opens a table, and one in double
brackets a further table of an array.
-/

def insert (path : List String) (key : String) (value : Value) : Update :=
  update true
    (fun kind entries =>
      if (kind = .dotted ↔ path = []) ∨ (entries.lookup key).isSome then none
      else some (entries ++ [(key, value)]))
    path

def openTable (path : List String) (key : String) : Update :=
  update false
    (fun _ entries =>
      match entries.lookup key with
      | none => some (put key (.table .header []) entries)
      | some (.table .implied inner) => some (put key (.table .header inner) entries)
      | some _ => none)
    path

def openTables (path : List String) (key : String) : Update :=
  update false
    (fun _ entries =>
      match entries.lookup key with
      | none => some (put key (.tables [] []) entries)
      | some (.tables complete last) => some (put key (.tables (complete ++ [last]) []) entries)
      | some _ => none)
    path

end Entries

end Toml

end Rectilinear
