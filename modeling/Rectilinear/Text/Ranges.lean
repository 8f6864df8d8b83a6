/-!
# Ranges of characters

Properties of characters are given by tables of closed ranges of code points, in ascending order.
-/

namespace Rectilinear

namespace Text

abbrev Ranges :=
  List (Nat × Nat)

namespace Ranges

def Has (table : Ranges) (c : Char) : Prop :=
  ∃ range ∈ table, range.1 ≤ c.toNat ∧ c.toNat ≤ range.2

instance (table : Ranges) (c : Char) : Decidable (table.Has c) :=
  inferInstanceAs (Decidable (∃ range ∈ table, range.1 ≤ c.toNat ∧ c.toNat ≤ range.2))

end Ranges

end Text

end Rectilinear
