/-!
# Hexadecimal digits

Escapes in documents, quoted texts and query strings write code units and bytes
in hexadecimal.
-/

namespace CatalogQuery
namespace Text

/-- The hexadecimal digit of a number below sixteen. -/
def hexDigit (n : Nat) : Char :=
  Char.ofNat (if n % 16 < 10 then 48 + n % 16 else 87 + n % 16)

/-- The hexadecimal digit of a number below sixteen, in upper case. -/
def upperHexDigit (n : Nat) : Char := (hexDigit n).toUpper

/-- The value of a hexadecimal digit. -/
def hexValue? (c : Char) : Option Nat :=
  if '0' ≤ c ∧ c ≤ '9' then some (c.toNat - 48)
  else if 'a' ≤ c ∧ c ≤ 'f' then some (c.toNat - 87)
  else if 'A' ≤ c ∧ c ≤ 'F' then some (c.toNat - 55)
  else none

/-- The last `width` hexadecimal digits of a number. -/
def fixedHex : Nat → Nat → List Char
  | 0, _ => []
  | width + 1, n => fixedHex width (n / 16) ++ [hexDigit n]

end Text
end CatalogQuery
