import CatalogQuery.Text.Utf8

/-!
# Encodings of documents

The bytes of a document say themselves in which encoding they are: by a byte
order mark, or else by where the zero bytes of the first characters stand.
Halves of surrogate pairs that stand alone are read as they are, in every
encoding.
-/

namespace CatalogQuery
namespace Text

/-- The encodings of a document. -/
inductive Encoding where
  | utf8
  | utf16 (bigEndian : Bool)
  | utf32 (bigEndian : Bool)
deriving DecidableEq, Repr

namespace Encoding

/-- The encoding that zero bytes at the start tell. -/
def ofZeros : List Nat → Encoding
  | a :: b :: c :: d :: _ =>
      if a = 0 then (if b = 0 then utf32 true else utf16 true)
      else if b = 0 then (if c = 0 ∧ d = 0 then utf32 false else utf16 false)
      else utf8
  | [a, b] => if a = 0 then utf16 true else if b = 0 then utf16 false else utf8
  | _ => utf8

/-- The encoding of some bytes, and the bytes after a byte order mark. -/
def detect : List Nat → Encoding × List Nat
  | 0 :: 0 :: 0xFE :: 0xFF :: rest => (utf32 true, rest)
  | 0xFF :: 0xFE :: 0 :: 0 :: rest => (utf32 false, rest)
  | 0xFE :: 0xFF :: rest => (utf16 true, rest)
  | 0xFF :: 0xFE :: rest => (utf16 false, rest)
  | 0xEF :: 0xBB :: 0xBF :: rest => (utf8, rest)
  | bytes => (ofZeros bytes, bytes)

/-- The numbers of two bytes each. -/
def pairs? (bigEndian : Bool) : List Nat → Option (List Nat)
  | [] => some []
  | a :: b :: rest =>
      (pairs? bigEndian rest).map ((if bigEndian then 256 * a + b else 256 * b + a) :: ·)
  | _ => none

/-- The code points of UTF-16 code units. -/
def ofUnits : List Nat → List CodePoint
  | [] => []
  | [unit] => [.ofNat unit]
  | high :: low :: rest =>
      if 0xD800 ≤ high ∧ high < 0xDC00 ∧ 0xDC00 ≤ low ∧ low < 0xE000 then
        .ofNat (0x10000 + (high - 0xD800) * 0x400 + (low - 0xDC00)) :: ofUnits rest
      else .ofNat high :: ofUnits (low :: rest)

/-- The code points of numbers of four bytes each. -/
def quads? (bigEndian : Bool) : List Nat → Option (List CodePoint)
  | [] => some []
  | a :: b :: c :: d :: rest =>
      let number :=
        if bigEndian then ((a * 256 + b) * 256 + c) * 256 + d
        else ((d * 256 + c) * 256 + b) * 256 + a
      if number < 0x110000 then (quads? bigEndian rest).map (.ofNat number :: ·) else none
  | _ => none

/-- The code points of bytes in an encoding. -/
def points? : Encoding → List Nat → Option (List CodePoint)
  | utf8, bytes => Utf8.points? bytes
  | utf16 bigEndian, bytes => (pairs? bigEndian bytes).map ofUnits
  | utf32 bigEndian, bytes => quads? bigEndian bytes

/-- The text of a document. -/
def decodeDocument? (bytes : List Nat) : Option Text :=
  let (encoding, rest) := detect bytes
  (encoding.points? rest).map Text.mk

end Encoding
end Text
end CatalogQuery
