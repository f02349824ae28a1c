/-!
# Ranges of characters

Sets of characters given as ascending ranges of code points.
-/

namespace MarkerManifests
namespace Text

/-- Whether the code point of a character lies in one of the ranges. -/
def isWithin (ranges : List (Nat × Nat)) (character : Char) : Bool :=
  ranges.any fun (first, last) => first ≤ character.toNat && character.toNat ≤ last

end Text
end MarkerManifests
