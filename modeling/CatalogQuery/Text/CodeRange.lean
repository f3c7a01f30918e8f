/-!
# Ranges of code points

A class of characters is a table of ranges of code points, both ends included.
-/

namespace CatalogQuery
namespace Text

/-- Whether a code point lies in one of the ranges. -/
def inRanges (ranges : Array (Nat × Nat)) (code : Nat) : Bool :=
  ranges.any fun range => range.1 ≤ code && code ≤ range.2

end Text
end CatalogQuery
