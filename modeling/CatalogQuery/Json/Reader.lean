import CatalogQuery.Text.Digits
import CatalogQuery.Text.Hexadecimal
import CatalogQuery.Value

/-!
# Reading JSON documents

`Json.read` accepts the JSON grammar with the three extra literals `NaN`,
`Infinity` and `-Infinity`.  A number without point and exponent is an
integer, any other a double-precision number; of a repeated name the last
value counts, at the place of the first.  A half of a surrogate pair is kept
where its other half does not follow.  The reader descends with a bound on the
number of steps, which the length of the text always suffices for, and into
nested lists and objects only to a given depth.
-/

namespace CatalogQuery
namespace Json

/-- Why a text is no document that can be read. -/
inductive ReadError where
  /-- The text does not follow the grammar. -/
  | malformed
  /-- An integer has more digits than are read. -/
  | oversizedInteger
  /-- Lists and objects are nested too deeply. -/
  | tooDeep
deriving DecidableEq, Repr

/-- The greatest number of digits of an integer. -/
def integerDigitLimit : Nat := 4300

/-- How deep lists and objects may be nested. -/
def nestingLimit : Nat := 980

/-- Whether a code point may stand between the parts of a document. -/
def isSpace (point : CodePoint) : Bool :=
  point == .char ' ' || point == .char '\t' || point == .char '\n' || point == .char '\r'

/-- The text after leading blanks. -/
def skipSpace (points : List CodePoint) : List CodePoint := points.dropWhile isSpace

/-- The number that the next four characters write in hexadecimal. -/
def takeHex4? : List CodePoint → Option (Nat × List CodePoint)
  | .char a :: .char b :: .char c :: .char d :: rest => do
      let a ← Text.hexValue? a
      let b ← Text.hexValue? b
      let c ← Text.hexValue? c
      let d ← Text.hexValue? d
      some (((a * 16 + b) * 16 + c) * 16 + d, rest)
  | _ => none

/-- The code point that an escape for a UTF-16 code unit starts, with the second
half of a surrogate pair if an escape for one follows. -/
def takeUnit? (points : List CodePoint) : Option (CodePoint × List CodePoint) := do
  let (unit, rest) ← takeHex4? points
  if 0xD800 ≤ unit ∧ unit < 0xDC00 then
    match rest with
    | .char '\\' :: .char 'u' :: more =>
        let (low, after) ← takeHex4? more
        if 0xDC00 ≤ low ∧ low < 0xE000 then
          some (.ofNat (0x10000 + (unit - 0xD800) * 0x400 + (low - 0xDC00)), after)
        else some (.ofNat unit, rest)
    | _ => some (.ofNat unit, rest)
  else some (.ofNat unit, rest)

/-- The character of a one-letter escape. -/
def simpleEscape? : CodePoint → Option Char
  | .char '"' => some '"'
  | .char '\\' => some '\\'
  | .char '/' => some '/'
  | .char 'b' => some '\x08'
  | .char 'f' => some '\x0c'
  | .char 'n' => some '\n'
  | .char 'r' => some '\r'
  | .char 't' => some '\t'
  | _ => none

/-- The rest of a text in quotes after its opening quote, in reverse, and what
follows the closing quote. -/
def takeQuoted? : Nat → List CodePoint → List CodePoint →
    Option (List CodePoint × List CodePoint)
  | 0, _, _ => none
  | _ + 1, _, [] => none
  | _ + 1, seen, .char '"' :: rest => some (seen, rest)
  | steps + 1, seen, .char '\\' :: .char 'u' :: rest =>
      match takeUnit? rest with
      | some (point, after) => takeQuoted? steps (point :: seen) after
      | none => none
  | steps + 1, seen, .char '\\' :: escape :: rest =>
      match simpleEscape? escape with
      | some c => takeQuoted? steps (.char c :: seen) rest
      | none => none
  | steps + 1, seen, point :: rest =>
      if point.toNat < 0x20 ∨ point = .char '\\' then none
      else takeQuoted? steps (point :: seen) rest

/-- A text in quotes, after its opening quote. -/
def takeText? (points : List CodePoint) : Option (Text × List CodePoint) :=
  (takeQuoted? (points.length + 1) [] points).map fun (seen, rest) => (⟨seen.reverse⟩, rest)

/-- The digits before the point: a single zero, or digits that do not start
with one. -/
def takeWhole? : List Char → Option (List Char × List Char)
  | '0' :: rest => some (['0'], rest)
  | chars =>
      let digits := chars.takeWhile Text.isDigit
      if digits.isEmpty then none else some (digits, chars.dropWhile Text.isDigit)

/-- The digits after a point, if there is a point with a digit after it. -/
def takeFraction (chars : List Char) : List Char × List Char :=
  match chars with
  | '.' :: rest =>
      let digits := rest.takeWhile Text.isDigit
      if digits.isEmpty then ([], chars) else (digits, rest.dropWhile Text.isDigit)
  | _ => ([], chars)

/-- The exponent, if there is one. -/
def takeExponent (chars : List Char) : Option Int × List Char :=
  match chars with
  | mark :: rest =>
      if mark = 'e' ∨ mark = 'E' then
        let (negative, body) := match rest with
          | '-' :: more => (true, more)
          | '+' :: more => (false, more)
          | _ => (false, rest)
        let digits := body.takeWhile Text.isDigit
        if digits.isEmpty then (none, chars)
        else
          let size : Int := Text.ofDigits digits
          (some (if negative then -size else size), body.dropWhile Text.isDigit)
      else (none, chars)
  | [] => (none, [])

/-- A number, after its sign. -/
def takeNumber (negative : Bool) (chars : List Char) :
    Except ReadError (Value × List Char) :=
  match takeWhole? chars with
  | none => .error .malformed
  | some (whole, rest) =>
      let (fraction, rest) := takeFraction rest
      let (exponent, rest) := takeExponent rest
      if fraction.isEmpty ∧ exponent.isNone then
        if integerDigitLimit < whole.length then .error .oversizedInteger
        else
          let size : Int := Text.ofDigits whole
          .ok (.int (if negative then -size else size), rest)
      else
        .ok (.real (Binary64.ofDecimal negative (Text.ofDigits (whole ++ fraction))
          (exponent.getD 0 - (fraction.length : Int))), rest)

/-- The text after a literal that it starts with. -/
def afterLiteral? (literal : String) (chars : List Char) : Option (List Char) :=
  if literal.toList.isPrefixOf chars then some (chars.drop literal.length) else none

/-- A value that is neither a text nor a list nor an object. -/
def readScalar (chars : List Char) : Except ReadError (Value × List Char) :=
  match chars with
  | 'n' :: _ => literal "null" .null
  | 't' :: _ => literal "true" (.bool true)
  | 'f' :: _ => literal "false" (.bool false)
  | 'N' :: _ => literal "NaN" (.real .nan)
  | 'I' :: _ => literal "Infinity" (.real (.infinite false))
  | '-' :: 'I' :: _ => literal "-Infinity" (.real (.infinite true))
  | '-' :: rest => takeNumber true rest
  | _ => takeNumber false chars
where
  /-- The value of a literal, if the text starts with it. -/
  literal (text : String) (value : Value) : Except ReadError (Value × List Char) :=
    match afterLiteral? text chars with
    | some rest => .ok (value, rest)
    | none => .error .malformed

/-- Whether a character may belong to a number or a literal. -/
def isScalarChar (c : Char) : Bool := c.isAlphanum || c == '+' || c == '-' || c == '.'

/-- The characters at the start of a text that may belong to a number or a
literal, and the rest. -/
def takeScalarChars : List CodePoint → List Char × List CodePoint
  | .char c :: rest =>
      if isScalarChar c then
        let (chars, after) := takeScalarChars rest
        (c :: chars, after)
      else ([], .char c :: rest)
  | points => ([], points)

/-- A number or a literal at the start of a text. -/
def takeScalar (points : List CodePoint) : Except ReadError (Value × List CodePoint) :=
  let (chars, rest) := takeScalarChars points
  (readScalar chars).map fun (value, left) => (value, left.map .char ++ rest)

mutual

/-- The value at the start of a text without leading blanks, with lists and
objects nested to a depth. -/
def takeValue : Nat → Nat → List CodePoint → Except ReadError (Value × List CodePoint)
  | 0, _, _ => .error .malformed
  | _ + 1, _, .char '"' :: rest =>
      match takeText? rest with
      | some (text, after) => .ok (.text text, after)
      | none => .error .malformed
  | _ + 1, 0, .char '[' :: _ => .error .tooDeep
  | _ + 1, 0, .char '\x7b' :: _ => .error .tooDeep
  | steps + 1, depth + 1, .char '[' :: rest =>
      match skipSpace rest with
      | .char ']' :: after => .ok (.list [], after)
      | more => takeItems steps depth [] more
  | steps + 1, depth + 1, .char '\x7b' :: rest =>
      match skipSpace rest with
      | .char '\x7d' :: after => .ok (.object [], after)
      | more => takeFields steps depth [] more
  | _ + 1, _, points => takeScalar points

/-- The items of a list that has at least one more, those seen in reverse. -/
def takeItems : Nat → Nat → List Value → List CodePoint →
    Except ReadError (Value × List CodePoint)
  | 0, _, _, _ => .error .malformed
  | steps + 1, depth, seen, points =>
      match takeValue steps depth points with
      | .error e => .error e
      | .ok (item, rest) =>
          match skipSpace rest with
          | .char ',' :: more => takeItems steps depth (item :: seen) (skipSpace more)
          | .char ']' :: after => .ok (.list (item :: seen).reverse, after)
          | _ => .error .malformed

/-- The fields of an object that has at least one more, those seen in
reverse. -/
def takeFields : Nat → Nat → List (Text × Value) → List CodePoint →
    Except ReadError (Value × List CodePoint)
  | 0, _, _, _ => .error .malformed
  | steps + 1, depth, seen, .char '"' :: points =>
      match takeText? points with
      | none => .error .malformed
      | some (name, rest) =>
          match skipSpace rest with
          | .char ':' :: more =>
              match takeValue steps depth (skipSpace more) with
              | .error e => .error e
              | .ok (value, rest) =>
                  match skipSpace rest with
                  | .char ',' :: more =>
                      takeFields steps depth ((name, value) :: seen) (skipSpace more)
                  | .char '\x7d' :: after =>
                      .ok (.object (Fields.ofPairs ((name, value) :: seen).reverse), after)
                  | _ => .error .malformed
          | _ => .error .malformed
  | _ + 1, _, _, _ => .error .malformed

end

/-- The value that a whole text is the document of, with lists and objects
nested to a depth. -/
def readWithin (depth : Nat) (text : Text) : Except ReadError Value :=
  match takeValue (text.points.length + 1) depth (skipSpace text.points) with
  | .error e => .error e
  | .ok (value, rest) => if (skipSpace rest).isEmpty then .ok value else .error .malformed

/-- The value that a whole text is the document of. -/
def read (text : Text) : Except ReadError Value := readWithin nestingLimit text

end Json
end CatalogQuery
