import CatalogQuery.Text.Direction

/-!
# Joining letters

Which letters of cursive scripts join with their neighbours, for the characters
of labels.  Between two letters that join, marks and format characters are
passed over.  A range may run over characters that no label holds.
-/

namespace CatalogQuery
namespace Text

/-- The ranges of the letters that join with the next letter. -/
def joinsNextRanges : Array (Nat × Nat) := #[
  (1568, 1568), (1574, 1574), (1576, 1576), (1578, 1582), (1587, 1607), (1609, 1610), (1646, 1647),
  (1657, 1671), (1690, 1727), (1729, 1730), (1740, 1740), (1742, 1742), (1744, 1745), (1786, 1788),
  (1791, 1791), (1810, 1812), (1818, 1821), (1823, 1831), (1833, 1833), (1835, 1835), (1837, 1838),
  (1870, 1880), (1884, 1898), (1901, 1904), (1906, 1906), (1909, 1911), (1914, 1919), (1994, 2026),
  (2113, 2117), (2120, 2120), (2122, 2131), (2133, 2133), (2144, 2144), (2146, 2149), (2152, 2152),
  (2182, 2182), (2185, 2189), (2208, 2217), (2223, 2224), (2227, 2232), (2234, 2248), (6176, 6264),
  (6279, 6312), (6314, 6314), (43072, 43122), (68288, 68292), (68301, 68301), (68307, 68316),
  (68318, 68320), (68480, 68480), (68482, 68482), (68486, 68488), (68490, 68491), (68493, 68493),
  (68496, 68496), (68864, 68897), (68899, 68899), (69424, 69426), (69428, 69444), (69488, 69491),
  (69494, 69505), (69552, 69552), (69554, 69555), (69560, 69560), (69563, 69564), (69566, 69567),
  (69569, 69569), (69572, 69572), (125218, 125251)]

/-- The ranges of the letters that join with the letter before. -/
def joinsPreviousRanges : Array (Nat × Nat) := #[
  (1568, 1568), (1570, 1610), (1646, 1647), (1649, 1651), (1657, 1749), (1774, 1775), (1786, 1788),
  (1791, 1808), (1810, 1839), (1869, 1919), (1994, 2026), (2112, 2136), (2144, 2144), (2146, 2149),
  (2151, 2178), (2182, 2182), (2185, 2190), (2208, 2220), (2222, 2248), (6176, 6264), (6279, 6312),
  (6314, 6314), (43072, 43121), (68288, 68293), (68295, 68298), (68302, 68310), (68312, 68321),
  (68324, 68324), (68480, 68497), (68865, 68899), (69424, 69444), (69488, 69505), (69552, 69552),
  (69554, 69558), (69560, 69567), (69569, 69572), (125218, 125251)]

/-- The format characters and spacing marks that joining passes over. -/
def passedOver : List Nat := [3263, 3270, 72199, 72200, 72767, 125259]

/-- The marks that joining does not pass over. -/
def notPassedOver : List Nat := [71454]

/-- Whether a character joins with the next letter. -/
def joinsNext (c : Char) : Bool := inRanges joinsNextRanges c.toNat

/-- Whether a character joins with the letter before. -/
def joinsPrevious (c : Char) : Bool := inRanges joinsPreviousRanges c.toNat

/-- Whether joining passes over a character. -/
def isPassedOver (c : Char) : Bool :=
  let code := c.toNat
  passedOver.contains code || (direction c == .mark && !notPassedOver.contains code)

end Text
end CatalogQuery
