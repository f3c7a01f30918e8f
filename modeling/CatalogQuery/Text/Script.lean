import CatalogQuery.Text.CodeRange

/-!
# Scripts

The scripts that the rules for labels ask for, for the characters of labels.  A
range may run over characters that no label holds.
-/

namespace CatalogQuery
namespace Text

/-- The ranges of the Greek letters. -/
def greekRanges : Array (Nat × Nat) := #[
  (881, 993), (1011, 1020), (7462, 7466), (7936, 8182), (43877, 43877)]

/-- The ranges of the Hebrew letters. -/
def hebrewRanges : Array (Nat × Nat) := #[
  (1425, 1524), (64286, 64286)]

/-- The ranges of the characters that Japanese is written in. -/
def japaneseRanges : Array (Nat × Nat) := #[
  (12293, 12293), (12295, 12295), (12353, 12438), (12445, 12538), (12541, 12542), (12784, 40959),
  (64014, 64041), (94179, 94179), (94192, 94193), (110576, 110951), (131072, 201546)]

/-- Whether a character is Greek. -/
def isGreek (c : Char) : Bool := inRanges greekRanges c.toNat

/-- Whether a character is Hebrew. -/
def isHebrew (c : Char) : Bool := inRanges hebrewRanges c.toNat

/-- Whether a character is one that Japanese is written in. -/
def isJapanese (c : Char) : Bool := inRanges japaneseRanges c.toNat

end Text
end CatalogQuery
