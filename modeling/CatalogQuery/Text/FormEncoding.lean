import CatalogQuery.Text.Percent
import CatalogQuery.Text.Split

/-!
# Form encoding

Query strings are lists of pairs in form encoding: pairs are joined by `&` and
a name to its value by `=`; letters, digits and `_.-~` stand for themselves, a
space is written as `+`, and any other byte of the UTF-8 form as `%` and two
hexadecimal digits.
-/

namespace CatalogQuery
namespace Text
namespace FormEncoding

/-- Whether a byte stands for itself. -/
def isPlain (byte : Nat) : Bool :=
  (48 ≤ byte && byte ≤ 57) || (65 ≤ byte && byte ≤ 90) || (97 ≤ byte && byte ≤ 122) ||
    byte == 95 || byte == 46 || byte == 45 || byte == 126

/-- How a byte is written. -/
def encodeByte (byte : Nat) : List Char :=
  if isPlain byte then [Char.ofNat byte]
  else if byte = 32 then ['+']
  else Percent.escapeByte byte

/-- A name or a value in form encoding. -/
def encodePart (chars : List Char) : List Char := (Utf8.encode chars).flatMap encodeByte

/-- A pair in form encoding, if both parts are strings. -/
def encodePair? (name value : Text) : Option (List Char) := do
  some (encodePart (← name.chars?) ++ '=' :: encodePart (← value.chars?))

/-- A list of pairs in form encoding, if all parts are strings. -/
def encode? (pairs : List (Text × Text)) : Option String := do
  let written ← pairs.mapM fun (name, value) => encodePair? name value
  some (String.intercalate "&" (written.map String.ofList))

/-- The text of some characters: `+` is a space, and escapes stand for bytes, of
which those that are no UTF-8 are replaced. -/
def decodeChars (chars : List Char) : List CodePoint :=
  (Percent.unescape (chars.map fun c => if c = '+' then ' ' else c)).map .char

/-- The text of a name or a value; halves stay as they are.  `seen` holds the
characters since the last half in reverse. -/
def decodePoints (seen : List Char) : List CodePoint → List CodePoint
  | [] => decodeChars seen.reverse
  | .char c :: rest => decodePoints (c :: seen) rest
  | .half place :: rest => decodeChars seen.reverse ++ .half place :: decodePoints [] rest

/-- The text of a name or a value. -/
def decodePart (points : List CodePoint) : Text := ⟨decodePoints [] points⟩

/-- The pairs of a query string.  Empty parts are passed over; a part without
`=` is a name with an empty value. -/
def decode (query : Text) : List (Text × Text) :=
  ((splitAll (.char '&') query.points).filter (!·.isEmpty)).map fun part =>
    let (name, value) := splitFirst (.char '=') part
    (decodePart name, decodePart (value.getD []))

end FormEncoding
end Text
end CatalogQuery
