import Rectilinear.Text.Ranges

/-!
# Blank text

A text is blank if all its characters have the property `White_Space`.
-/

namespace Rectilinear

namespace Text

def whiteSpace : Ranges :=
  [(0x9, 0xd), (0x20, 0x20), (0x85, 0x85), (0xa0, 0xa0), (0x1680, 0x1680), (0x2000, 0x200a),
    (0x2028, 0x2029), (0x202f, 0x202f), (0x205f, 0x205f), (0x3000, 0x3000)]

def IsBlank (text : String) : Prop :=
  ∀ c ∈ text.toList, whiteSpace.Has c

instance (text : String) : Decidable (IsBlank text) :=
  inferInstanceAs (Decidable (∀ c ∈ text.toList, whiteSpace.Has c))

end Text

end Rectilinear
