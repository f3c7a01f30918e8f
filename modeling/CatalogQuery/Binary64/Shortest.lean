import CatalogQuery.Binary64

/-!
# The shortest text of a double-precision number

A finite number is written with the fewest significant digits that read back
as the same number; of several such texts the nearest one is taken.  The
digits are found by trying one to seventeen digits in exact arithmetic.  A
number from `0.0001` up to below ten to the sixteenth is written positionally,
any other with an exponent.
-/

namespace CatalogQuery
namespace Binary64

/-- The decimal exponent of the leading digit of a positive quotient: the
greatest `k` with `10 ^ k ≤ num / den`. -/
def leadingPower (num den : Nat) : Int :=
  if den ≤ num then ((Nat.repr (num / den)).length : Int) - 1
  else
    let places := (Nat.repr (den / num)).length
    if den ≤ num * Nat.pow 10 (places - 1) then -((places : Int) - 1) else -(places : Int)

/-- The quotient divided by `10 ^ power`, as a quotient. -/
def shiftDecimal (num den : Nat) (power : Int) : Nat × Nat :=
  if power < 0 then (num * Nat.pow 10 power.natAbs, den) else (num, den * Nat.pow 10 power.natAbs)

/-- Whether `digits * 10 ^ power` reads back as the positive value with this
mantissa and exponent. -/
def readsBack (mantissa : Nat) (exponent : Int) (digits : Nat) (power : Int) : Bool :=
  ofDecimal false digits power == finite false mantissa exponent

/-- The nearest decimal with `count` significant digits, if it or its other
neighbour on that grid reads back as the value. -/
def decimalWith? (mantissa : Nat) (exponent : Int) (count : Nat) : Option (Nat × Int) :=
  let (num, den) := ratio mantissa exponent
  let power := leadingPower num den - (count : Int) + 1
  let (scaled, unit) := shiftDecimal num den power
  let below := scaled / unit
  let nearest := roundQuotient scaled unit
  let other := if nearest = below then below + 1 else below
  if readsBack mantissa exponent nearest power then some (nearest, power)
  else if readsBack mantissa exponent other power then some (other, power)
  else none

/-- The fewest digits, from `count` up, that read back. -/
def fewestDigits (mantissa : Nat) (exponent : Int) : Nat → Nat → Nat × Int
  | 0, _ => (mantissa, exponent)
  | tries + 1, count =>
      match decimalWith? mantissa exponent count with
      | some found => found
      | none => fewestDigits mantissa exponent tries (count + 1)

/-- The significant digits of a positive finite value and the place of the
decimal point: `(d, p)` stands for `0.d * 10 ^ p`. -/
def shortestDigits (mantissa : Nat) (exponent : Int) : List Char × Int :=
  let (digits, power) := fewestDigits mantissa exponent 17 1
  let text := (Nat.repr digits).toList
  let significant := (text.reverse.dropWhile (· == '0')).reverse
  (significant, power + (text.length : Int))

/-- How a number is written: where positional notation ends and how the
special values are spelled. -/
structure TextFormat where
  /-- The least place of the decimal point that is written positionally. -/
  leastPoint : Int
  /-- The greatest place of the decimal point that is written positionally. -/
  greatestPoint : Int
  /-- The text of the positive infinity. -/
  infinity : String
  /-- The text of a value that is not a number. -/
  notANumber : String

/-- The format of a number in running text. -/
def TextFormat.plain : TextFormat := ⟨-3, 16, "inf", "nan"⟩

/-- The format of a number in a JSON document. -/
def TextFormat.json : TextFormat := ⟨-3, 16, "Infinity", "NaN"⟩

/-- The text of a positive value with the given digits and decimal point. -/
def placeDigits (format : TextFormat) (digits : List Char) (point : Int) : String :=
  if point < format.leastPoint ∨ format.greatestPoint < point then
    let exponent := point - 1
    let size := Nat.repr exponent.natAbs
    let padded := if size.length < 2 then "0" ++ size else size
    let mark := if exponent < 0 then "e-" else "e+"
    match digits with
    | [] => "0"
    | [d] => String.ofList [d] ++ mark ++ padded
    | d :: rest => String.ofList (d :: '.' :: rest) ++ mark ++ padded
  else if point ≤ 0 then
    "0." ++ String.ofList (List.replicate point.natAbs '0' ++ digits)
  else
    let whole := digits.take point.natAbs
    let fraction := digits.drop point.natAbs
    let padding := List.replicate (point.natAbs - whole.length) '0'
    String.ofList (whole ++ padding) ++ "." ++
      (if fraction.isEmpty then "0" else String.ofList fraction)

/-- The text of a number in the given format. -/
def write (format : TextFormat) : Binary64 → String
  | nan => format.notANumber
  | infinite negative => (if negative then "-" else "") ++ format.infinity
  | finite negative mantissa exponent =>
      let sign := if negative then "-" else ""
      if mantissa = 0 then sign ++ "0.0"
      else
        let (digits, point) := shortestDigits mantissa exponent
        sign ++ placeDigits format digits point

end Binary64
end CatalogQuery
