import CatalogQuery.Text.Hexadecimal
import CatalogQuery.Text.Utf8

/-!
# Percent escapes

A part of an address writes a character that it cannot hold as the bytes of its
UTF-8 form, each as `%` and two hexadecimal digits.  Escapes that are there
already are not escaped again.
-/

namespace CatalogQuery
namespace Text
namespace Percent

/-- The escape of a byte. -/
def escapeByte (byte : Nat) : List Char := ['%', upperHexDigit (byte / 16), upperHexDigit byte]

/-- Whether a character stands for itself in every part of an address. -/
def isUnreserved (c : Char) : Bool :=
  c.isAlphanum || c == '-' || c == '.' || c == '_' || c == '~'

/-- A character that stands for itself if it is safe. -/
def escapeChar (isSafe : Char → Bool) (c : Char) : List Char :=
  if isUnreserved c || isSafe c then [c] else (Utf8.encodeChar c).flatMap escapeByte

/-- Characters with all unsafe ones escaped; escapes stay as they are. -/
def escape (isSafe : Char → Bool) : List Char → List Char
  | [] => []
  | '%' :: a :: b :: rest =>
      if (hexValue? a).isSome ∧ (hexValue? b).isSome then '%' :: a :: b :: escape isSafe rest
      else escapeChar isSafe '%' ++ escape isSafe (a :: b :: rest)
  | c :: rest => escapeChar isSafe c ++ escape isSafe rest

/-- The bytes of characters: an escape is its byte, and any other character
stands for its own bytes. -/
def bytes : List Char → List Nat
  | [] => []
  | '%' :: a :: b :: rest =>
      match hexValue? a, hexValue? b with
      | some high, some low => (16 * high + low) :: bytes rest
      | _, _ => 37 :: bytes (a :: b :: rest)
  | c :: rest => Utf8.encodeChar c ++ bytes rest

/-- The characters without escapes, bytes that are no UTF-8 being replaced. -/
def unescape (chars : List Char) : List Char := Utf8.decode (bytes chars)

end Percent
end Text
end CatalogQuery
