import Rectilinear.Toml.Layout

/-!
# Strings and keys

A string is basic, with escapes, or literal, without; each of the two stands on one line between
single delimiters, or on several between triple ones.
-/

namespace Rectilinear

namespace Toml

def hexValue? (c : Char) : Option Nat :=
  if '0' ≤ c ∧ c ≤ '9' then some (c.toNat - '0'.toNat)
  else if 'a' ≤ c ∧ c ≤ 'f' then some (c.toNat - 'a'.toNat + 10)
  else if 'A' ≤ c ∧ c ≤ 'F' then some (c.toNat - 'A'.toNat + 10)
  else none

def scalar? (digits : List Char) : Option Char := do
  let values ← digits.mapM hexValue?
  let code := values.foldl (fun code value => 16 * code + value) 0
  if h : code.isValidChar then some (Char.ofNatAux code h) else none

abbrev Split :=
  Option (List Char × List Char)

def Split.push (c : Char) (split : Split) : Split :=
  split.map fun (text, rest) => (c :: text, rest)

/-- Up to two delimiters may stand directly before the closing ones; they belong to the text. -/
def closing (quote : Char) : List Char → List Char × List Char
  | c :: d :: rest =>
      if c = quote then
        if d = quote then ([quote, quote], rest) else ([quote], d :: rest)
      else
        ([], c :: d :: rest)
  | [c] => if c = quote then ([quote], []) else ([], [c])
  | [] => ([], [])

/-!
## Bodies

The reader of a body starts after the opening delimiter and stops after the closing one.
-/

/-- The body of a basic string.  After a backslash at the end of a line, blanks and line ends are
left out. -/
def basicBody (multiline : Bool) (trimming : Bool) : List Char → Split
  | [] => none
  | '"' :: rest =>
      if multiline then
        match rest with
        | '"' :: '"' :: after => some (closing '"' after)
        | _ => (basicBody multiline false rest).push '"'
      else
        some ([], rest)
  | '\\' :: rest =>
      match rest with
      | 'b' :: rest => (basicBody multiline false rest).push '\x08'
      | 't' :: rest => (basicBody multiline false rest).push '\t'
      | 'n' :: rest => (basicBody multiline false rest).push '\n'
      | 'f' :: rest => (basicBody multiline false rest).push '\x0c'
      | 'r' :: rest => (basicBody multiline false rest).push '\r'
      | '"' :: rest => (basicBody multiline false rest).push '"'
      | '\\' :: rest => (basicBody multiline false rest).push '\\'
      | 'u' :: a :: b :: c :: d :: rest =>
          (scalar? [a, b, c, d]).bind (basicBody multiline false rest).push
      | 'U' :: a :: b :: c :: d :: e :: f :: g :: h :: rest =>
          (scalar? [a, b, c, d, e, f, g, h]).bind (basicBody multiline false rest).push
      | rest =>
          if multiline && startsLine (rest.dropWhile isBlank) then
            basicBody multiline true rest
          else
            none
  | '\n' :: rest =>
      if !multiline then none
      else if trimming then basicBody multiline true rest
      else (basicBody multiline false rest).push '\n'
  | '\r' :: '\n' :: rest =>
      if !multiline then none
      else if trimming then basicBody multiline true rest
      else (basicBody multiline false rest).push '\n'
  | c :: rest =>
      if trimming && isBlank c then basicBody multiline true rest
      else if isVisible c then (basicBody multiline false rest).push c
      else none

def literalBody (multiline : Bool) : List Char → Split
  | [] => none
  | '\'' :: rest =>
      if multiline then
        match rest with
        | '\'' :: '\'' :: after => some (closing '\'' after)
        | _ => (literalBody multiline rest).push '\''
      else
        some ([], rest)
  | '\n' :: rest => if multiline then (literalBody multiline rest).push '\n' else none
  | '\r' :: '\n' :: rest => if multiline then (literalBody multiline rest).push '\n' else none
  | c :: rest => if isVisible c then (literalBody multiline rest).push c else none

def dropFirstLineEnd : List Char → List Char
  | '\n' :: rest => rest
  | '\r' :: '\n' :: rest => rest
  | rest => rest

def Split.toString (split : Split) : Option (String × List Char) :=
  split.map fun (text, rest) => (String.ofList text, rest)

namespace Reader

def singleLineString : Reader String
  | '"' :: rest => (basicBody false false rest).toString
  | '\'' :: rest => (literalBody false rest).toString
  | _ => none

def string : Reader String
  | '"' :: '"' :: '"' :: rest => (basicBody true false (dropFirstLineEnd rest)).toString
  | '\'' :: '\'' :: '\'' :: rest => (literalBody true (dropFirstLineEnd rest)).toString
  | text => singleLineString text

/-!
## Keys

A key is bare or a string on one line, and dots join several of them.
-/

def isBareKeyChar (c : Char) : Bool :=
  c.isAlphanum || c == '_' || c == '-'

def bareKey : Reader String := fun text =>
  let key := text.takeWhile isBareKeyChar
  if key.isEmpty then none else some (String.ofList key, text.dropWhile isBareKeyChar)

def simpleKey : Reader String :=
  singleLineString <|> bareKey

def dottedKey : Nat → Reader (List String)
  | 0 => failure
  | limit + 1 => do
      blanks
      let key ← simpleKey
      blanks
      if (← optionally (char '.')).isSome then
        return key :: (← dottedKey limit)
      else
        return [key]

end Reader

end Toml

end Rectilinear
