import CatalogQuery.Text.CodeRange

/-!
# Blanks

Blanks around a numeral are ignored.  They are the white space of Unicode, to
which the information separators do not belong.
-/

namespace CatalogQuery
namespace Text

/-- The ranges of the Unicode white space. -/
def whiteSpaceRanges : Array (Nat × Nat) := #[
  (9, 13), (32, 32), (133, 133), (160, 160), (5760, 5760), (8192, 8202), (8232, 8233),
  (8239, 8239), (8287, 8287), (12288, 12288)]

/-- Whether a character is Unicode white space. -/
def isWhiteSpace (c : Char) : Bool := inRanges whiteSpaceRanges c.toNat

/-- The characters without white space at either end. -/
def trim (chars : List Char) : List Char :=
  ((chars.dropWhile isWhiteSpace).reverse.dropWhile isWhiteSpace).reverse

end Text
end CatalogQuery
