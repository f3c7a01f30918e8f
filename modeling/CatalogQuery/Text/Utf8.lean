import CatalogQuery.Text

/-!
# UTF-8

`encode` writes characters as bytes.  `decode` reads any bytes: where they do
not follow the encoding, each maximal start of a character becomes one
replacement character.  `points?` refuses such bytes, except that it reads
halves of surrogate pairs.
-/

namespace CatalogQuery
namespace Text
namespace Utf8

/-- The bytes of a character. -/
def encodeChar (c : Char) : List Nat :=
  let code := c.toNat
  if code < 0x80 then [code]
  else if code < 0x800 then [0xC0 + code / 64, 0x80 + code % 64]
  else if code < 0x10000 then
    [0xE0 + code / 4096, 0x80 + code / 64 % 64, 0x80 + code % 64]
  else
    [0xF0 + code / 262144, 0x80 + code / 4096 % 64, 0x80 + code / 64 % 64, 0x80 + code % 64]

/-- The bytes of a text. -/
def encode (chars : List Char) : List Nat := chars.flatMap encodeChar

/-- What a first byte announces: the bits that it carries, the number of bytes
that follow, and the range of the next one. -/
structure Lead where
  bits : Nat
  following : Nat
  least : Nat
  greatest : Nat

/-- The meaning of a first byte beyond ASCII. -/
def lead? (byte : Nat) : Option Lead :=
  if 0xC2 ≤ byte ∧ byte ≤ 0xDF then some ⟨byte - 0xC0, 1, 0x80, 0xBF⟩
  else if byte = 0xE0 then some ⟨0, 2, 0xA0, 0xBF⟩
  else if byte = 0xED then some ⟨0xD, 2, 0x80, 0x9F⟩
  else if 0xE1 ≤ byte ∧ byte ≤ 0xEF then some ⟨byte - 0xE0, 2, 0x80, 0xBF⟩
  else if byte = 0xF0 then some ⟨0, 3, 0x90, 0xBF⟩
  else if 0xF1 ≤ byte ∧ byte ≤ 0xF3 then some ⟨byte - 0xF0, 3, 0x80, 0xBF⟩
  else if byte = 0xF4 then some ⟨4, 3, 0x80, 0x8F⟩
  else none

/-- Where a reader stands: between characters, or inside one with the bits so
far, the bytes still to come and the range of the next. -/
inductive State where
  | between
  | inside (bits following least greatest : Nat)

/-- The replacement character. -/
def replacement : Char := '\uFFFD'

/-- Start a character with a byte. -/
def start (byte : Nat) : List Char × State :=
  if byte < 0x80 then ([Char.ofNat byte], .between)
  else
    match lead? byte with
    | some lead => ([], .inside lead.bits lead.following lead.least lead.greatest)
    | none => ([replacement], .between)

/-- Read a byte: the characters that it completes and the state after it. -/
def step : State → Nat → List Char × State
  | .between, byte => start byte
  | .inside bits following least greatest, byte =>
      if least ≤ byte ∧ byte ≤ greatest then
        let bits := bits * 64 + (byte - 0x80)
        if following ≤ 1 then ([Char.ofNat bits], .between)
        else ([], .inside bits (following - 1) 0x80 0xBF)
      else
        let (chars, state) := start byte
        (replacement :: chars, state)

/-- The characters of the bytes from a state on. -/
def decodeFrom : State → List Nat → List Char
  | .between, [] => []
  | .inside .., [] => [replacement]
  | state, byte :: rest =>
      let (chars, state) := step state byte
      chars ++ decodeFrom state rest

/-- The characters of any bytes, faults replaced. -/
def decode (bytes : List Nat) : List Char := decodeFrom .between bytes

/-- The meaning of a first byte beyond ASCII where halves of surrogate pairs are
written like characters. -/
def wideLead? (byte : Nat) : Option Lead :=
  if byte = 0xED then some ⟨0xD, 2, 0x80, 0xBF⟩ else lead? byte

/-- The code points of the bytes from a state on, if they follow the
encoding. -/
def pointsFrom? : State → List Nat → Option (List CodePoint)
  | .between, [] => some []
  | .inside .., [] => none
  | .between, byte :: rest =>
      if byte < 0x80 then (pointsFrom? .between rest).map (.ofNat byte :: ·)
      else
        match wideLead? byte with
        | some lead =>
            pointsFrom? (.inside lead.bits lead.following lead.least lead.greatest) rest
        | none => none
  | .inside bits following least greatest, byte :: rest =>
      if least ≤ byte ∧ byte ≤ greatest then
        let bits := bits * 64 + (byte - 0x80)
        if following ≤ 1 then (pointsFrom? .between rest).map (.ofNat bits :: ·)
        else pointsFrom? (.inside bits (following - 1) 0x80 0xBF) rest
      else none

/-- The code points of bytes that follow the encoding, in which halves of
surrogate pairs may be written like characters. -/
def points? (bytes : List Nat) : Option (List CodePoint) := pointsFrom? .between bytes

end Utf8
end Text
end CatalogQuery
