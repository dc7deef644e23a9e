/-!
Sets of characters, as ranges of their codes with both ends included.
-/

namespace SignOn.Text

def inRanges (ranges : List (Nat × Nat)) (c : Char) : Bool :=
  ranges.any fun (first, last) => first ≤ c.toNat && c.toNat ≤ last

end SignOn.Text
