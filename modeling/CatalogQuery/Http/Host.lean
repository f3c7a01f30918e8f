import CatalogQuery.Http.Domain
import CatalogQuery.Text.Digits
import CatalogQuery.Text.LetterCase
import CatalogQuery.Text.Percent

/-!
# Hosts

The host of an address is a number in four parts, a number in brackets in up to
eight parts, or a name.  A name is written in small letters, and in ASCII.
-/

namespace CatalogQuery
namespace Host

/-- Whether a form of four runs of digits, each set apart from the next by any
character, can go on from one stage to another with a character.  Stages
alternate between the start of a run and its inside. -/
def goesOn (c : Char) (stage next : Nat) : Bool :=
  if stage % 2 = 0 then Text.isDigit c && next == stage + 1
  else (Text.isDigit c && next == stage) || next == stage + 1

/-- The stages that characters can lead to from some stages. -/
def reach (stages : List Nat) : List Char → List Nat
  | [] => stages
  | c :: rest =>
      reach ((List.range 8).filter fun stage => stages.any (goesOn c · stage)) rest

/-- Whether a host has the form of a number in four parts. -/
def looksLikeQuad (host : List Char) : Bool := (reach [0] host).contains 7

/-- Whether digits write a number below 256 without spare zeros. -/
def isOctet (digits : List Char) : Bool :=
  !digits.isEmpty && digits.length ≤ 3 && digits.all Text.isDigit &&
    (digits == ['0'] || digits.head? != some '0') && Text.ofDigits digits ≤ 255

/-- Whether a host is a number in four parts. -/
def isQuad (host : List Char) : Bool :=
  let parts := Text.splitAll '.' host
  parts.length == 4 && parts.all isOctet

/-- Whether characters are one to four hexadecimal digits. -/
def isHextet (digits : List Char) : Bool :=
  !digits.isEmpty && digits.length ≤ 4 && digits.all fun c => (Text.hexValue? c).isSome

/-- The parts between colons, a number in four parts at the end counting as two
parts. -/
def hextets? (parts : List (List Char)) : Option (List (List Char)) :=
  match parts.getLast? with
  | some last =>
      if last.contains '.' then
        if isQuad last then some (parts.dropLast ++ [['0'], ['0']]) else none
      else some parts
  | none => some parts

/-- The parts on one side of a gap; none at all stand at the end of the
number. -/
def beside (parts : List (List Char)) : List (List Char) := if parts = [[]] then [] else parts

/-- Whether parts make a number in eight parts.  An empty part inside stands for
a gap of parts that are zero. -/
def areEight (parts : List (List Char)) : Bool :=
  match (parts.drop 1).dropLast.findIdx? List.isEmpty with
  | none => parts.length == 8 && parts.all isHextet
  | some place =>
      let given := beside (parts.take (place + 1)) ++ beside (parts.drop (place + 2))
      given.length ≤ 7 && given.all isHextet

/-- Whether characters are a number in eight parts.  The name of a zone may
follow it after a percent sign. -/
def isEight (host : List Char) : Bool :=
  let (number, zone) := Text.splitFirst '%' host
  zone.all (fun zone => !zone.isEmpty && !zone.contains '%') &&
    (hextets? (Text.splitAll ':' number)).any areEight

/-- The characters beyond the unreserved ones that stand for themselves in the
name of a host. -/
def safeChars : List Char := "!$&'()*+,;=\"\x60\x7b\x7d%|\\".toList

/-- The name of a host in small letters and in ASCII. -/
def normalName? (name : List Char) : Option (List Char) :=
  let lower := Text.lowerChars [] name
  if name.all Text.Punycode.isBasic then some (Text.Percent.escape safeChars.contains lower)
  else (Domain.write lower).toOption

/-- The normal form of a host, without brackets around a number. -/
def normal? (host : List Char) : Option (List Char) :=
  if host.isEmpty then some []
  else if looksLikeQuad host then if isQuad host then some host else none
  else
    match host with
    | '[' :: rest =>
        if rest.getLast? = some ']' then
          if isEight rest.dropLast then some rest.dropLast else none
        else normalName? host
    | _ => normalName? host

end Host
end CatalogQuery
