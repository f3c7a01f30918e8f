import CatalogQuery.Binary64
import CatalogQuery.Text.Blank
import CatalogQuery.Text.DecimalDigit
import CatalogQuery.Text.Digits

/-!
# Numerals

Three readings of a text as a number.  `integer?` reads the integers of query
strings and command lines: blanks around, a sign, and the decimal digits of
any script with single underscores between them.  `plainInteger` and
`plainReal?` read the numbers of filters and settings: ASCII digits only, an
integer possibly with a fraction of zeros, a real number possibly with an
exponent or one of the names of infinity and of the value that is no number.
-/

namespace CatalogQuery
namespace Text

/-- The greatest number of digits of an integer that is read from a text. -/
def numeralDigitLimit : Nat := 4300

/-- The sign at the start of a numeral and what follows it. -/
def takeSign : List Char → Bool × List Char
  | '-' :: rest => (true, rest)
  | '+' :: rest => (false, rest)
  | rest => (false, rest)

/-- The characters without underscores, if every underscore stands between two
other characters. -/
def withoutUnderscores? : List Char → Option (List Char)
  | [] => some []
  | '_' :: _ => none
  | [_, '_'] => none
  | c :: '_' :: rest => (withoutUnderscores? rest).map (c :: ·)
  | c :: rest => (withoutUnderscores? rest).map (c :: ·)

/-- An integer with the given sign. -/
def signed (negative : Bool) (size : Nat) : Int := if negative then -(size : Int) else size

/-- The values of the characters, if all of them are decimal digits of some
script. -/
def decimalValues? (chars : List Char) : Option (List Nat) := chars.mapM decimalValue?

/-- The integer that a text writes, with blanks around it, a sign, digits of
any script and single underscores between digits. -/
def integer? (text : String) : Option Int := do
  let (negative, body) := takeSign (trim text.toList)
  let digits ← withoutUnderscores? body
  let values ← decimalValues? digits
  if values.isEmpty ∨ numeralDigitLimit < values.length then none
  else some (signed negative (values.foldl (fun n d => 10 * n + d) 0))

/-- Why a text is not the integer that a filter or a setting needs. -/
inductive IntegerError where
  | notInteger
  | tooLong
deriving DecidableEq, Repr

/-- A numeral without a fraction of zeros, if it has one. -/
def withoutZeroFraction (body : List Char) : List Char :=
  let whole := body.takeWhile (· != '.')
  match body.dropWhile (· != '.') with
  | '.' :: fraction =>
      if !fraction.isEmpty && fraction.all (· == '0') then whole else body
  | _ => body

/-- A numeral without the zeros at its start and any underscores among them;
where no other digit follows the last of these characters stays.  A minus sign
keeps the zeros that follow it, and it may stand after zeros as well.  Nothing
else may be at the start. -/
def withoutLeadingZeros? : List Char → Option (List Char)
  | '0' :: rest => afterZero? '0' rest
  | c :: rest => if mayStart c then some (c :: rest) else none
  | [] => none
where
  /-- Whether a numeral may go on with a character after its zeros. -/
  mayStart (c : Char) : Bool := c == '-' || isDigit c
  /-- What is left after a zero or underscore that is dropped only if another
  digit comes. -/
  afterZero? (last : Char) : List Char → Option (List Char)
    | [] => some [last]
    | c :: rest =>
        if c = '0' ∨ c = '_' then afterZero? c rest
        else if c = '.' then some (last :: c :: rest)
        else if mayStart c then some (c :: rest)
        else none

/-- A numeral without its plus sign and its spare zeros. -/
def withoutSpareStart? : List Char → Option (List Char)
  | '+' :: '-' :: _ => none
  | '+' :: body => withoutLeadingZeros? body
  | body => withoutLeadingZeros? body

/-- The characters that are left of a numeral when spare zeros, a fraction of
zeros and underscores are dropped. -/
def bareNumeral? (chars : List Char) : Option (List Char) :=
  (withoutSpareStart? chars).bind fun body => withoutUnderscores? (withoutZeroFraction body)

/-- The integer that a minus sign, which may be left out, and digits write. -/
def signedDigits? : List Char → Option Int
  | '-' :: digits => unsigned? true digits
  | digits => unsigned? false digits
where
  /-- The integer of the digits after the sign. -/
  unsigned? (negative : Bool) (digits : List Char) : Option Int :=
    if digits.isEmpty ∨ !digits.all isDigit then none
    else some (signed negative (ofDigits digits))

/-- Whether an integer fits in 64 bits. -/
def fitsWord (i : Int) : Bool := -9223372036854775808 ≤ i && i ≤ 9223372036854775807

/-- The number of characters after a minus sign. -/
def unsignedLength : List Char → Nat
  | '-' :: rest => rest.length
  | chars => chars.length

/-- The integer that a text writes in ASCII digits, with white space around
it, a sign, single underscores between digits and a fraction of zeros.  One
that fits in 64 bits may have any number of zeros at its start; any other has a
bounded number of digits. -/
def plainInteger (text : String) : Except IntegerError Int :=
  match bareNumeral? (trim text.toList) with
  | none => .error .notInteger
  | some body =>
      let long := numeralDigitLimit < unsignedLength body
      match signedDigits? body with
      | some i => if long ∧ !fitsWord i then .error .tooLong else .ok i
      | none => .error (if long then .tooLong else .notInteger)

/-- Whether two texts are equal but for the case of ASCII letters. -/
def sameLetters (chars : List Char) (name : String) : Bool :=
  chars.map Char.toLower == name.toList

/-- The exponent that ends a numeral. -/
def exponent? : List Char → Option Int
  | [] => some 0
  | mark :: rest =>
      if mark = 'e' ∨ mark = 'E' then
        let (negative, digits) := takeSign rest
        if digits.isEmpty ∨ !digits.all isDigit then none
        else some (signed negative (ofDigits digits))
      else none

/-- The real number of a numeral after its sign: digits with a point before,
among or after them, and an exponent that may be left out. -/
def unsignedReal? (negative : Bool) (body : List Char) : Option Binary64 :=
  if sameLetters body "inf" ∨ sameLetters body "infinity" then some (.infinite negative)
  else if sameLetters body "nan" then some .nan
  else
    let whole := body.takeWhile isDigit
    let rest := body.dropWhile isDigit
    let (fraction, rest) := match rest with
      | '.' :: more => (more.takeWhile isDigit, more.dropWhile isDigit)
      | _ => ([], rest)
    if whole.isEmpty ∧ fraction.isEmpty then none
    else
      (exponent? rest).map fun power =>
        Binary64.ofDecimal negative (ofDigits (whole ++ fraction))
          (power - (fraction.length : Int))

/-- The real number that a text writes: either with white space around it, or
with underscores between its characters. -/
def plainReal? (text : String) : Option Binary64 :=
  let signedReal? (chars : List Char) : Option Binary64 :=
    let (negative, body) := takeSign chars
    unsignedReal? negative body
  match signedReal? (trim text.toList) with
  | some value => some value
  | none => (withoutUnderscores? text.toList).bind signedReal?

end Text
end CatalogQuery
