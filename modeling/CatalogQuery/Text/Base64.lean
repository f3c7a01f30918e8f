/-!
# Base 64

Three bytes are written as four characters of six bits each; at the end one or
two bytes are written as two or three characters, filled up with `=`.
-/

namespace CatalogQuery
namespace Text
namespace Base64

/-- The character of six bits. -/
def sextetChar (sextet : Nat) : Char :=
  if sextet < 26 then Char.ofNat (65 + sextet)
  else if sextet < 52 then Char.ofNat (71 + sextet)
  else if sextet < 62 then Char.ofNat (sextet - 4)
  else if sextet = 62 then '+'
  else '/'

/-- The characters of bytes. -/
def encode : List Nat → List Char
  | [] => []
  | [a] => [sextetChar (a / 4), sextetChar (a % 4 * 16), '=', '=']
  | [a, b] =>
      [sextetChar (a / 4), sextetChar (a % 4 * 16 + b / 16), sextetChar (b % 16 * 4), '=']
  | a :: b :: c :: rest =>
      sextetChar (a / 4) :: sextetChar (a % 4 * 16 + b / 16) ::
        sextetChar (b % 16 * 4 + c / 64) :: sextetChar (c % 64) :: encode rest

end Base64
end Text
end CatalogQuery
