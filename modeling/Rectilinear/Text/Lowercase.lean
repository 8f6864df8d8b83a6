import Rectilinear.Text.CaseTables

/-!
# Small letters

Texts are lowercased character by character, with two exceptions: a capital sigma at the end of a
word becomes a final sigma, and a capital I with dot becomes two characters.
-/

namespace Rectilinear

namespace Text

def CaseShift.Applies (shift : CaseShift) (c : Char) : Prop :=
  shift.first ≤ c.toNat ∧ c.toNat ≤ shift.last ∧ (c.toNat - shift.first) % shift.step = 0

instance (shift : CaseShift) (c : Char) : Decidable (shift.Applies c) :=
  inferInstanceAs (Decidable (_ ∧ _))

def lowerChar (c : Char) : Char :=
  match caseShifts.find? fun shift => shift.Applies c with
  | some found => Char.ofNat (c.toNat + found.shift).toNat
  | none => c

def meetsLetter (text : List Char) : Bool :=
  match text.find? fun c => ¬ caseIgnorable.Has c with
  | some c => cased.Has c
  | none => false

/-- Lowercases what follows some text; the text is given from its end. -/
def lowerAfter : List Char → List Char → List Char
  | _, [] => []
  | before, c :: rest =>
      let small :=
        if c = 'Σ' then
          [if meetsLetter before && !meetsLetter rest then 'ς' else 'σ']
        else if c = 'İ' then
          ['i', '\u0307']
        else
          [lowerChar c]
      small ++ lowerAfter (c :: before) rest

def lowercase (text : String) : String :=
  String.ofList (lowerAfter [] text.toList)

end Text

end Rectilinear
