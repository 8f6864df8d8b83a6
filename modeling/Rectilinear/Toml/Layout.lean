import Rectilinear.Toml.Reader

/-!
# Layout of TOML texts

Blanks, line ends and comments.
-/

namespace Rectilinear

namespace Toml

def isBlank (c : Char) : Bool :=
  c == ' ' || c == '\t'

def isVisible (c : Char) : Bool :=
  c == '\t' || (0x20 ≤ c.toNat && c.toNat != 0x7f)

def startsLine : List Char → Bool
  | '\n' :: _ => true
  | '\r' :: '\n' :: _ => true
  | _ => false

namespace Reader

def blanks : Reader Unit :=
  skipWhile isBlank

def newline : Reader Unit :=
  word "\n" <|> word "\r\n"

def comment : Reader Unit := do
  char '#'
  skipWhile isVisible

def lineRest : Reader Unit := do
  blanks
  let _ ← optionally comment
  newline <|> atEnd

/-- Drops blanks, line ends and comments.  Within a comment, only a line end leads out of it. -/
def dropGap (inComment : Bool) : List Char → Option (List Char)
  | [] => if inComment then none else some []
  | '\n' :: rest => dropGap false rest
  | '\r' :: '\n' :: rest => dropGap false rest
  | c :: rest =>
      if inComment then
        if isVisible c then dropGap true rest else none
      else if isBlank c then
        dropGap false rest
      else if c = '#' then
        dropGap true rest
      else
        some (c :: rest)

def gap : Reader Unit :=
  fun text => (dropGap false text).map fun rest => ((), rest)

end Reader

end Toml

end Rectilinear
