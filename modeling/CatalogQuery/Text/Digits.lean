/-!
# Decimal digits

Reading and writing runs of ASCII digits, the common part of every number and
timestamp format of the library.
-/

namespace CatalogQuery
namespace Text

/-- The value of an ASCII digit. -/
def digitValue? (c : Char) : Option Nat :=
  if '0' ≤ c ∧ c ≤ '9' then some (c.toNat - 48) else none

/-- Whether a character is an ASCII digit. -/
def isDigit (c : Char) : Bool := (digitValue? c).isSome

/-- The ASCII digit of a number below ten. -/
def digitChar (n : Nat) : Char := Char.ofNat (48 + n % 10)

/-- The number that a run of digits stands for, continuing from `start`;
characters that are no digits count as zero. -/
def foldDigits (start : Nat) (digits : List Char) : Nat :=
  digits.foldl (fun n c => 10 * n + (digitValue? c).getD 0) start

/-- The number that a run of digits stands for. -/
def ofDigits (digits : List Char) : Nat := foldDigits 0 digits

/-- The last `width` decimal digits of a number, padded with zeros. -/
def fixedDigits : Nat → Nat → List Char
  | 0, _ => []
  | width + 1, n => fixedDigits width (n / 10) ++ [digitChar n]

/-- The number written by the next `width` characters, all of them digits, and
what follows them. -/
def takeFixed? (width : Nat) (chars : List Char) : Option (Nat × List Char) :=
  let digits := chars.take width
  if digits.length = width ∧ digits.all isDigit then
    some (ofDigits digits, chars.drop width)
  else none

end Text
end CatalogQuery
