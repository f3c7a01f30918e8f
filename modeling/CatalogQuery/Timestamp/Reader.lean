import CatalogQuery.Text.Numeral
import CatalogQuery.Timestamp

/-!
# Reading timestamps

A timestamp is read from a date, from a date and a time of day, or from a
number: seconds since the start of 1970, or milliseconds when the number is
beyond twenty thousand million either way.
-/

namespace CatalogQuery
namespace Timestamp

/-- The parts of a time of day, before their ranges are known to hold. -/
structure TimeParts where
  hour : Nat
  minute : Nat
  second : Nat
  micro : Nat
  offset : Option Int

/-- The fraction of a second that a run of digits stands for, to the
microsecond; further digits are ignored. -/
def microsOfDigits (digits : List Char) : Nat :=
  let kept := digits.take 6
  Text.ofDigits kept * Nat.pow 10 (6 - kept.length)

/-- The offset after its sign: two digits of hours, a colon that may be left
out, and two digits of minutes. -/
def readOffsetSize? (chars : List Char) : Option Nat := do
  let (hours, rest) ← Text.takeFixed? 2 chars
  let rest := match rest with
    | ':' :: more => more
    | _ => rest
  let (minutes, rest) ← Text.takeFixed? 2 rest
  if rest.isEmpty ∧ minutes < 60 ∧ hours < 24 then some (60 * hours + minutes) else none

/-- The offset that ends a timestamp. -/
def readOffset? : List Char → Option (Option Int)
  | [] => some none
  | ['Z'] => some (some 0)
  | ['z'] => some (some 0)
  | '+' :: rest => (readOffsetSize? rest).map fun size => some (size : Int)
  | '-' :: rest => (readOffsetSize? rest).map fun size => some (-(size : Int))
  | '\u2212' :: rest => (readOffsetSize? rest).map fun size => some (-(size : Int))
  | _ => none

/-- The fraction of a second, at least one digit after a point or a comma, and
what follows it. -/
def readFraction? : List Char → Option (Nat × List Char)
  | c :: rest =>
      if c = '.' ∨ c = ',' then
        let digits := rest.takeWhile Text.isDigit
        if digits.isEmpty then none
        else some (microsOfDigits digits, rest.dropWhile Text.isDigit)
      else some (0, c :: rest)
  | [] => some (0, [])

/-- A time of day: hours and minutes, seconds and a fraction that may be left
out, and an offset that may be left out. -/
def readTime? (chars : List Char) : Option TimeParts := do
  let (hour, rest) ← Text.takeFixed? 2 chars
  let rest ← match rest with
    | ':' :: more => some more
    | _ => none
  let (minute, rest) ← Text.takeFixed? 2 rest
  match rest with
  | ':' :: more =>
      let (second, rest) ← Text.takeFixed? 2 more
      let (micro, rest) ← readFraction? rest
      let offset ← readOffset? rest
      some ⟨hour, minute, second, micro, offset⟩
  | _ =>
      let offset ← readOffset? rest
      some ⟨hour, minute, 0, 0, offset⟩

/-- A date, alone or followed by a time of day. -/
def ofCalendar? (chars : List Char) : Option Timestamp := do
  let (year, rest) ← Text.takeFixed? 4 chars
  let rest ← match rest with
    | '-' :: more => some more
    | _ => none
  let (month, rest) ← Text.takeFixed? 2 rest
  let rest ← match rest with
    | '-' :: more => some more
    | _ => none
  let (day, rest) ← Text.takeFixed? 2 rest
  match rest with
  | [] => of? year month day 0 0 0 0 none
  | separator :: more =>
      if separator = 'T' ∨ separator = 't' ∨ separator = ' ' ∨ separator = '_' then
        let time ← readTime? more
        of? year month day time.hour time.minute time.second time.micro time.offset
      else none

/-- The greatest number that is taken as seconds. -/
def greatestSecondCount : Nat := 20000000000

/-- The timestamp of a whole number of seconds, or of milliseconds beyond the
greatest number of seconds. -/
def ofInt? (count : Int) : Option Timestamp :=
  if count.natAbs ≤ greatestSecondCount then ofUnix? count 0
  else ofUnix? (count / 1000) ((count % 1000).toNat * 1000)

/-- The quotient rounded to the nearest integer, an exact half upwards. -/
def roundHalfUp (num den : Nat) : Nat := (2 * num + den) / (2 * den)

/-- The microseconds of a fraction of a unit that has `unit` of them: fraction
and product are double-precision numbers, the product rounded to the nearest
integer. -/
def microsOfFraction (num den unit : Nat) : Nat :=
  let (num, den) := (Binary64.ofRatio false num den).sizeRatio
  let (num, den) := (Binary64.ofRatio false (num * unit) den).sizeRatio
  roundHalfUp num den

/-- The timestamp of a number that may have a fraction, which counts forward
from the integer below the number. -/
def ofReal? (value : Binary64) : Option Timestamp := do
  let (whole, num, den) ← value.floorAndRest
  if value.sizeAbove greatestSecondCount then
    ofUnix? (whole / 1000) ((whole % 1000).toNat * 1000 + microsOfFraction num den 1000)
  else ofUnix? whole (microsOfFraction num den 1000000)

/-- The greatest size of an integer of 64 bits. -/
def greatestCount : Nat := 9223372036854775807

/-- The timestamp of a number in a text: an integer of 64 bits, or a real number
that has a point after its first digits. -/
def ofNumeral? (chars : List Char) : Option Timestamp :=
  let (negative, body) := Text.takeSign chars
  let digits := body.takeWhile Text.isDigit
  match body.dropWhile Text.isDigit with
  | [] =>
      if digits.isEmpty ∨ greatestCount < Text.ofDigits digits then none
      else ofInt? (Text.signed negative (Text.ofDigits digits))
  | '.' :: _ => (Text.unsignedReal? negative body).bind ofReal?
  | _ => none

/-- The timestamp that a text stands for. -/
def ofText? (text : String) : Option Timestamp :=
  match ofCalendar? text.toList with
  | some found => some found
  | none => ofNumeral? text.toList

end Timestamp
end CatalogQuery
