import Rectilinear.Toml.Strings

/-!
# Numbers

Integers are signed words of 64 bits.  Fractions are binary floating point numbers of double
precision; one that rounds to infinity is refused, unless it is negative.  No setting takes a
number, so only whether a text is one matters.
-/

namespace Rectilinear

namespace Toml

def digitsFrom (isDigit : Char → Bool) : List Char → List Char × List Char
  | [] => ([], [])
  | '_' :: d :: rest =>
      if isDigit d then
        let (digits, after) := digitsFrom isDigit rest
        (d :: digits, after)
      else
        ([], '_' :: d :: rest)
  | d :: rest =>
      if isDigit d then
        let (digits, after) := digitsFrom isDigit rest
        (d :: digits, after)
      else
        ([], d :: rest)

def isHexDigit (c : Char) : Bool :=
  (hexValue? c).isSome

def isOctalDigit (c : Char) : Bool :=
  '0' ≤ c && c ≤ '7'

def isBinaryDigit (c : Char) : Bool :=
  c == '0' || c == '1'

def valueOf (base : Nat) (digits : List Char) : Nat :=
  digits.foldl (fun value d => base * value + (hexValue? d).getD 0) 0

/-- `mantissa * 10 ^ scale` is at least the midpoint of the greatest double and the next power of
two, so that it rounds to infinity.  That midpoint has 309 digits. -/
def roundsToInfinity (mantissa : Nat) (scale : Int) : Bool :=
  let midpoint := Nat.pow 2 1024 - Nat.pow 2 970
  let size := (Nat.toDigits 10 mantissa).length + scale
  if mantissa = 0 ∨ size < 309 then false
  else if 309 < size then true
  else if 0 ≤ scale then midpoint ≤ mantissa * Nat.pow 10 scale.toNat
  else midpoint * Nat.pow 10 (-scale).toNat ≤ mantissa

namespace Reader

def digits (isDigit : Char → Bool) : Reader (List Char) := fun text =>
  match text with
  | d :: _ => if isDigit d then some (digitsFrom isDigit text) else none
  | [] => none

def sign : Reader Bool := do
  let found ← optionally (satisfying fun c => c == '+' || c == '-')
  return found == some '-'

def decimal : Reader (Bool × List Char) := do
  let negative ← sign
  if (← optionally (char '0')).isSome then
    return (negative, ['0'])
  else
    return (negative, ← digits Char.isDigit)

def maxInteger : Nat := 9223372036854775807

def decimalInteger : Reader Unit := do
  let (negative, whole) ← decimal
  require (valueOf 10 whole ≤ if negative then maxInteger + 1 else maxInteger)

def markedInteger (mark : String) (base : Nat) (isDigit : Char → Bool) : Reader Unit := do
  word mark
  require (valueOf base (← digits isDigit) ≤ maxInteger)

def integer : Reader Unit :=
  markedInteger "0x" 16 isHexDigit <|> markedInteger "0o" 8 isOctalDigit <|>
    markedInteger "0b" 2 isBinaryDigit <|> decimalInteger

def exponent : Reader Int := do
  let _ ← satisfying fun c => c == 'e' || c == 'E'
  let negative ← sign
  let value := valueOf 10 (← digits Char.isDigit)
  return if negative then -value else value

def fraction : Reader (List Char) := do
  char '.'
  digits Char.isDigit

def finiteFloat : Reader Unit := do
  let (negative, whole) ← decimal
  let part ← optionally fraction
  let power ← optionally exponent
  require (part.isSome || power.isSome)
  let decimals := part.getD []
  require (negative || !roundsToInfinity (valueOf 10 (whole ++ decimals))
    (power.getD 0 - decimals.length))

def specialFloat : Reader Unit := do
  let _ ← sign
  word "inf" <|> word "nan"

def float : Reader Unit :=
  finiteFloat <|> specialFloat

end Reader

end Toml

end Rectilinear
