/-!
# Double-precision numbers

A number is kept by its meaning: not a number, an infinity, or a signed
mantissa times a power of two.  `ofRatio` rounds a quotient of natural numbers
to the nearest representable value, an exact half going to the even mantissa,
and it is the only place where a finite value is built, so two finite values
are the same number with the same sign exactly when they are equal as data.
All arithmetic is exact and on natural numbers.
-/

namespace CatalogQuery

/-- A double-precision number.  A finite value stands for
`mantissa * 2 ^ exponent`, negated if `negative` holds; the mantissa has at
most 53 bits, and exactly 53 unless the exponent is the least one, -1074. -/
inductive Binary64 where
  | nan
  | infinite (negative : Bool)
  | finite (negative : Bool) (mantissa : Nat) (exponent : Int)
deriving DecidableEq, Repr, Inhabited

namespace Binary64

/-- The quotient of two natural numbers, rounded to the nearest integer with
an exact half going to the even neighbour. -/
def roundQuotient (num den : Nat) : Nat :=
  let quotient := num / den
  let twice := 2 * (num % den)
  if twice < den then quotient
  else if den < twice then quotient + 1
  else if quotient % 2 = 0 then quotient
  else quotient + 1

/-- The quotient `num / den / 2 ^ exponent`, rounded. -/
def scaledQuotient (num den : Nat) (exponent : Int) : Nat :=
  if exponent < 0 then roundQuotient (num * Nat.pow 2 exponent.natAbs) den
  else roundQuotient num (den * Nat.pow 2 exponent.natAbs)

/-- The least exponent of a finite value. -/
def leastExponent : Int := -1074

/-- The greatest exponent of a finite value. -/
def greatestExponent : Int := 971

/-- The exponent at which the quotient has a mantissa of 53 bits, or the least
exponent if that is greater. -/
def exponentFor (num den : Nat) : Int :=
  let guess : Int := (Nat.log2 num : Int) - (Nat.log2 den : Int) - 52
  let small : Bool :=
    if guess < 0 then num * Nat.pow 2 guess.natAbs < den * Nat.pow 2 52
    else num < den * Nat.pow 2 guess.natAbs * Nat.pow 2 52
  max leastExponent (if small then guess - 1 else guess)

/-- Zero with the given sign. -/
def zero (negative : Bool) : Binary64 := finite negative 0 leastExponent

/-- The number nearest to `num / den`, with the given sign. -/
def ofRatio (negative : Bool) (num den : Nat) : Binary64 :=
  if num = 0 ∨ den = 0 then zero negative
  else
    let exponent := exponentFor num den
    let rounded := scaledQuotient num den exponent
    let (mantissa, exponent) :=
      if rounded = Nat.pow 2 53 then (Nat.pow 2 52, exponent + 1) else (rounded, exponent)
    if greatestExponent < exponent then infinite negative
    else finite negative mantissa exponent

/-- The number nearest to `digits * 10 ^ power`, with the given sign.  Powers
far outside the range are answered without computing them. -/
def ofDecimal (negative : Bool) (digits : Nat) (power : Int) : Binary64 :=
  let size : Int := (Nat.repr digits).length
  if digits = 0 then zero negative
  else if 400 < size + power then infinite negative
  else if size + power < -400 then zero negative
  else if power < 0 then ofRatio negative digits (Nat.pow 10 power.natAbs)
  else ofRatio negative (digits * Nat.pow 10 power.natAbs) 1

/-- The number nearest to an integer. -/
def ofInt (value : Int) : Binary64 :=
  ofRatio (value < 0) value.natAbs 1

/-- The exact quotient that the size of a finite value is. -/
def ratio (mantissa : Nat) (exponent : Int) : Nat × Nat :=
  if exponent < 0 then (mantissa, Nat.pow 2 exponent.natAbs)
  else (mantissa * Nat.pow 2 exponent.natAbs, 1)

/-- The exact size of a finite value as a quotient; zero for any other. -/
def sizeRatio : Binary64 → Nat × Nat
  | finite _ mantissa exponent => ratio mantissa exponent
  | _ => (0, 1)

/-- Whether the value is neither an infinity nor not a number. -/
def isFinite : Binary64 → Bool
  | finite .. => true
  | _ => false

/-- The integer below or at a finite value, and the rest in `[0, 1)` as a
quotient. -/
def floorAndRest : Binary64 → Option (Int × Nat × Nat)
  | finite negative mantissa exponent =>
      let (num, den) := ratio mantissa exponent
      if negative then
        if num % den = 0 then some (-(num / den : Nat), 0, den)
        else some (-((num / den : Nat) : Int) - 1, den - num % den, den)
      else some ((num / den : Nat), num % den, den)
  | _ => none

/-- The integer that a finite value without a fraction is. -/
def toInt? : Binary64 → Option Int
  | finite negative mantissa exponent =>
      let (num, den) := ratio mantissa exponent
      if num % den = 0 then
        some (if negative then -(num / den : Nat) else (num / den : Nat))
      else none
  | _ => none

/-- Whether the size of a number is above a natural number. -/
def sizeAbove (bound : Nat) : Binary64 → Bool
  | nan => false
  | infinite _ => true
  | finite _ mantissa exponent =>
      let (num, den) := ratio mantissa exponent
      bound * den < num

/-- The numerator of a finite value over the denominator of its size. -/
def signedNumerator (negative : Bool) (num : Nat) : Int := if negative then -(num : Int) else num

/-- Whether two numbers have the same value: zeros of either sign have, and a
value that is not a number has the value of none. -/
def sameValue : Binary64 → Binary64 → Bool
  | nan, _ => false
  | finite n m e, finite n' m' e' =>
      (m == 0 && m' == 0) || (n == n' && m == m' && e == e')
  | x, y => x == y

/-- Whether the first number is below the second. -/
def lt : Binary64 → Binary64 → Bool
  | nan, _ => false
  | _, nan => false
  | infinite n, infinite n' => n && !n'
  | infinite n, finite .. => n
  | finite .., infinite n => !n
  | finite n m e, finite n' m' e' =>
      let (num, den) := ratio m e
      let (num', den') := ratio m' e'
      signedNumerator n num * den' < signedNumerator n' num' * den

/-- Whether a number is below an integer. -/
def ltInt (x : Binary64) (i : Int) : Bool :=
  match x with
  | nan => false
  | infinite n => n
  | finite n m e =>
      let (num, den) := ratio m e
      signedNumerator n num < i * den

/-- Whether a number is above an integer. -/
def gtInt (x : Binary64) (i : Int) : Bool :=
  match x with
  | nan => false
  | infinite n => !n
  | finite n m e =>
      let (num, den) := ratio m e
      i * den < signedNumerator n num

end Binary64
end CatalogQuery
