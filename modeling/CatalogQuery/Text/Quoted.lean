import CatalogQuery.Text
import CatalogQuery.Text.Hexadecimal
import CatalogQuery.Text.Printable

/-!
# Quoted texts

A text is shown in messages between single quotes, or between double quotes if
it holds a single quote and no double quote.  Backslashes, the chosen quote
and all characters that are not printable are written as escapes.
-/

namespace CatalogQuery
namespace Text

/-- The escape of the number of a code point. -/
def numberEscape (number : Nat) : List Char :=
  if number < 0x100 then '\\' :: 'x' :: fixedHex 2 number
  else if number < 0x10000 then '\\' :: 'u' :: fixedHex 4 number
  else '\\' :: 'U' :: fixedHex 8 number

/-- How a character is written between quotes of the given kind. -/
def quoteChar (mark c : Char) : List Char :=
  if c = mark ∨ c = '\\' then ['\\', c]
  else if c = '\n' then ['\\', 'n']
  else if c = '\r' then ['\\', 'r']
  else if c = '\t' then ['\\', 't']
  else if isPrintable c then [c]
  else numberEscape c.toNat

/-- How a code point is written between quotes of the given kind. -/
def quotePoint (mark : Char) : CodePoint → List Char
  | .char c => quoteChar mark c
  | .half place => numberEscape (CodePoint.toNat (.half place))

/-- A text as a string, halves being written as escapes. -/
def shown (text : Text) : String :=
  String.ofList <| text.points.flatMap fun point =>
    match point with
    | .char c => [c]
    | .half place => numberEscape (CodePoint.toNat (.half place))

/-- The quote that a text is put between. -/
def quoteMark (points : List CodePoint) : Char :=
  if points.contains (.char '\'') && !points.contains (.char '"') then '"' else '\''

/-- A text between quotes. -/
def quoted (text : Text) : String :=
  let mark := quoteMark text.points
  String.ofList (mark :: text.points.flatMap (quotePoint mark) ++ [mark])

end Text
end CatalogQuery
