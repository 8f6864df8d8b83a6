import Rectilinear.Text.Glyphless

/-!
# Quoted text

A quoted text stands between double quotes.  Double quotes, backslashes, line ends and tabs in it
are escaped, and so is every character that has no glyph of its own.
-/

namespace Rectilinear

namespace Text

/-- The code point of a character in hexadecimal, between braces. -/
def escapeCode (c : Char) : List Char :=
  '\\' :: 'u' :: '\x7b' :: Nat.toDigits 16 c.toNat ++ ['\x7d']

def escapeChar (c : Char) : List Char :=
  if c = '"' then ['\\', '"']
  else if c = '\\' then ['\\', '\\']
  else if c = '\n' then ['\\', 'n']
  else if c = '\t' then ['\\', 't']
  else if c = '\r' then ['\\', 'r']
  else if c.toNat = 0 then ['\\', '0']
  else if glyphless.Has c then escapeCode c
  else [c]

def quote (text : String) : String :=
  String.ofList ('"' :: text.toList.flatMap escapeChar ++ ['"'])

end Text

end Rectilinear
