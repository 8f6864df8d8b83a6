/-!
# Readers

A reader takes what it reads off the front of a text, or fails.
-/

namespace Rectilinear

namespace Toml

abbrev Reader :=
  StateT (List Char) Option

namespace Reader

def peek? : Reader (Option Char) :=
  fun text => some (text.head?, text)

def satisfying (p : Char → Bool) : Reader Char
  | [] => none
  | c :: rest => if p c then some (c, rest) else none

def char (c : Char) : Reader Unit := do
  let _ ← satisfying (· == c)

def word (text : String) : Reader Unit :=
  text.toList.forM char

def skipWhile (p : Char → Bool) : Reader Unit :=
  fun text => some ((), text.dropWhile p)

def optionally {α : Type} (reader : Reader α) : Reader (Option α) :=
  some <$> reader <|> pure none

def require (p : Prop) [Decidable p] : Reader Unit :=
  if p then pure () else failure

def atEnd : Reader Unit
  | [] => some ((), [])
  | _ :: _ => none

end Reader

end Toml

end Rectilinear
