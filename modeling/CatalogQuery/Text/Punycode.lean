import CatalogQuery.Text

/-!
# Punycode

Letters of any script are written with the letters of ASCII: first the
characters of ASCII in their order, then, behind a hyphen, the steps that insert
the others.  The others are inserted in the order of their numbers; a step is
how many insertions, counting every place for every number, are passed over.
It is written in digits to the base 36, the least first, and which digit is the
last one is seen from thresholds that follow the steps before.
-/

namespace CatalogQuery
namespace Text
namespace Punycode

/-- The digit with a value below 36. -/
def digitChar (value : Nat) : Char :=
  if value < 26 then Char.ofNat (97 + value) else Char.ofNat (22 + value)

/-- The value of a digit. -/
def digitValue? (c : Char) : Option Nat :=
  if 'a' ≤ c ∧ c ≤ 'z' then some (c.toNat - 97)
  else if 'A' ≤ c ∧ c ≤ 'Z' then some (c.toNat - 65)
  else if '0' ≤ c ∧ c ≤ '9' then some (c.toNat - 22)
  else none

/-- The threshold of the digit at a place, which is a multiple of 36: a digit
below it is the last one. -/
def threshold (bias place : Nat) : Nat := max 1 (min 26 (place - bias))

theorem one_le_threshold (bias place : Nat) : 1 ≤ threshold bias place := by
  unfold threshold; omega

/-- The bias that a scaled step leads to, starting from a sum. -/
def settle (sum step : Nat) : Nat :=
  if 455 < step then settle (sum + 36) (step / 35) else sum + 36 * step / (step + 38)
termination_by step
decreasing_by exact Nat.div_lt_self (by omega) (by omega)

/-- The bias after a step that makes `count` characters. -/
def nextBias (first : Bool) (step count : Nat) : Nat :=
  let scaled := if first then step / 700 else step / 2
  settle 0 (scaled + scaled / count)

/-- The digits of a step from a place on. -/
def stepDigits (bias place step : Nat) : List Char :=
  let least := threshold bias place
  if step < least then [digitChar step]
  else
    digitChar (least + (step - least) % (36 - least)) ::
      stepDigits bias (place + 36) ((step - least) / (36 - least))
termination_by step
decreasing_by
  have least := one_le_threshold bias place
  have smaller : (step - threshold bias place) / (36 - threshold bias place) ≤
      step - threshold bias place := Nat.div_le_self _ _
  omega

/-- Where a writer stands: the bias, the insertions passed over since the last
step, how many characters are there, and whether a step was written. -/
structure Writer where
  bias : Nat
  passed : Nat
  count : Nat
  first : Bool

/-- The digits for the insertions of one character, whose number is given, into
a text. -/
def insertions (number : Nat) : Writer → List Char → List Char × Writer
  | writer, [] => ([], writer)
  | writer, c :: rest =>
      if c.toNat < number then
        insertions number { writer with passed := writer.passed + 1 } rest
      else if c.toNat = number then
        let digits := stepDigits writer.bias 36 writer.passed
        let (more, writer) := insertions number
          ⟨nextBias writer.first writer.passed (writer.count + 1), 0, writer.count + 1, false⟩
          rest
        (digits ++ more, writer)
      else insertions number writer rest

/-- The digits for the insertions of several characters, whose numbers rise;
`start` is the least number that can come next. -/
def steps (chars : List Char) : Nat → Writer → List Nat → List Char
  | _, _, [] => []
  | start, writer, number :: rest =>
      let passed := writer.passed + (number - start) * (writer.count + 1)
      let (digits, writer) := insertions number { writer with passed } chars
      digits ++ steps chars (number + 1) { writer with passed := writer.passed + 1 } rest

/-- Whether a character belongs to ASCII. -/
def isBasic (c : Char) : Bool := c.toNat < 0x80

/-- The numbers of the characters beyond ASCII, each once, in order. -/
def extendedNumbers (chars : List Char) : List Nat :=
  (((chars.filter (!isBasic ·)).map Char.toNat).eraseDups).mergeSort (· ≤ ·)

/-- The written form of characters. -/
def encode (chars : List Char) : List Char :=
  let basic := chars.filter isBasic
  (if basic.isEmpty then [] else basic ++ ['-']) ++
    steps chars 0x80 ⟨72, 0, basic.length, true⟩ (extendedNumbers chars)

/-- The step at the start of digits, and the rest. -/
def takeStep? (bias : Nat) : Nat → Nat → Nat → List Char → Option (Nat × List Char)
  | _, _, _, [] => none
  | place, weight, sum, c :: rest => do
      let value ← digitValue? c
      let least := threshold bias place
      let sum := sum + value * weight
      if value < least then some (sum, rest)
      else takeStep? bias (place + 36) (weight * (36 - least)) sum rest

theorem takeStep?_shorter {bias place weight sum : Nat} {chars : List Char}
    {taken : Nat × List Char} (found : takeStep? bias place weight sum chars = some taken) :
    taken.2.length < chars.length := by
  induction chars generalizing place weight sum with
  | nil => simp [takeStep?] at found
  | cons c rest ih =>
      unfold takeStep? at found
      cases value : digitValue? c with
      | none => simp [value] at found
      | some v =>
          simp only [value, Option.bind_eq_bind, Option.bind_some] at found
          split at found
          · cases found; simp
          · have shorter := ih found; simp only [List.length_cons]; omega

/-- Read the insertions that digits write into code points; `passed` counts the
insertions before. -/
def insertAll? (bias passed : Nat) (first : Bool) (points : List CodePoint)
    (digits : List Char) : Option (List CodePoint) :=
  if digits.isEmpty then some points
  else
    match found : takeStep? bias 36 1 0 digits with
    | none => none
    | some (step, rest) =>
        have _shorter := takeStep?_shorter found
        let total := passed + step
        let count := points.length + 1
        let number := 0x80 + total / count
        if 0x10FFFF < number then none
        else
          let place := total % count
          insertAll? (nextBias first step count)
            ((number - 0x80) * (count + 1) + place + 1) false
            (points.take place ++ .ofNat number :: points.drop place) rest
termination_by digits.length

/-- The code points that a written form stands for. -/
def decode? (chars : List Char) : Option (List CodePoint) :=
  let digits := (chars.reverse.takeWhile (· != '-')).reverse
  let basic := chars.take (chars.length - digits.length - 1)
  insertAll? 72 0 true (basic.map .char) digits

end Punycode
end Text
end CatalogQuery
