import CatalogQuery.Http.Host
import CatalogQuery.Text.Numeral

/-!
# Addresses

An address has a scheme, an authority with a user, a host and the number of a
service, a path, a query and a fragment.  `Url.ofText?` takes a text apart and
brings each part into its normal form: scheme and host in small letters, a
number that the scheme means anyway left out, dots in the path resolved, and
every character that a part cannot hold escaped.  `Url.text` writes the address
down again.
-/

namespace CatalogQuery

/-- The parts of an address as they are given. -/
structure UrlParts where
  scheme : List Char
  authority : List Char
  path : List Char
  query : Option (List Char)
  fragment : Option (List Char)
deriving DecidableEq, Repr

/-- An address whose parts are in normal form. -/
structure Url where
  scheme : List Char
  user : List Char
  /-- The host; a number in eight parts stands without its brackets. -/
  host : List Char
  /-- The number of the service, unless it is the one that the scheme means. -/
  service : Option Int
  path : List Char
  query : Option (List Char)
  fragment : Option (List Char)
deriving DecidableEq, Repr

namespace UrlParts

/-- Whether a character may stand in a scheme after its first letter. -/
def isSchemeChar (c : Char) : Bool := c.isAlphanum || c == '+' || c == '-' || c == '.'

/-- The scheme at the start of an address, which may be empty, and what follows
its colon. -/
def takeScheme (chars : List Char) : List Char × List Char :=
  let scheme := chars.takeWhile isSchemeChar
  match chars.dropWhile isSchemeChar with
  | ':' :: rest => if scheme.head?.all Char.isAlpha then (scheme, rest) else ([], chars)
  | _ => ([], chars)

/-- Whether a character ends the authority. -/
def endsAuthority (c : Char) : Bool := c == '/' || c == '?' || c == '#'

/-- The authority, which follows two slashes, and the rest. -/
def takeAuthority : List Char → List Char × List Char
  | '/' :: '/' :: rest =>
      (rest.takeWhile (!endsAuthority ·), rest.dropWhile (!endsAuthority ·))
  | chars => ([], chars)

/-- The parts of an address. -/
def ofChars (chars : List Char) : UrlParts :=
  let (scheme, rest) := takeScheme chars
  let (authority, rest) := takeAuthority rest
  let (rest, fragment) := Text.splitFirst '#' rest
  let (path, query) := Text.splitFirst '?' rest
  ⟨scheme, authority, path, query, fragment⟩

/-- The greatest length of an address and of each of its parts. -/
def lengthLimit : Nat := 65536

/-- Whether no part is too long. -/
def areShort (parts : UrlParts) : Bool :=
  [parts.scheme, parts.authority, parts.path, parts.query.getD [],
    parts.fragment.getD []].all fun part => part.length ≤ lengthLimit

end UrlParts

namespace Url

/-- The user before the last `@` of an authority, and what follows. -/
def splitUser (authority : List Char) : List Char × List Char :=
  let rest := (authority.reverse.takeWhile (· ≠ '@')).reverse
  (authority.take (authority.length - rest.length - 1), rest)

/-- The host in an authority without user, and the number of the service behind
it.  A host in brackets ends with the last bracket, any other before a
colon. -/
def splitHost (place : List Char) : List Char × List Char :=
  let bracketed := (place.reverse.dropWhile (· ≠ ']')).reverse
  let host :=
    if place.head? = some '[' ∧ !bracketed.isEmpty then bracketed
    else place.takeWhile (· ≠ ':')
  match place.drop host.length with
  | ':' :: rest => (host, rest)
  | rest => (host, rest)

/-- The number of the service that a scheme means. -/
def usualService? (scheme : List Char) : Option Int :=
  [("ftp", 21), ("http", 80), ("https", 443), ("ws", 80), ("wss", 443)].lookup
    (String.ofList scheme)

/-- The number of a service, none if there is none or the scheme means it; a
text that is no integer is refused. -/
def service? (scheme digits : List Char) : Option (Option Int) :=
  if digits.isEmpty then some none
  else
    (Text.integer? (String.ofList digits)).map fun number =>
      if usualService? scheme = some number then none else some number

/-- The parts that are left when each single dot is dropped and each double dot
takes the part before it away; `seen` is in reverse. -/
def withoutDots (seen : List (List Char)) : List (List Char) → List (List Char)
  | [] => seen.reverse
  | ['.'] :: rest => withoutDots seen rest
  | ['.', '.'] :: rest =>
      if seen = [[]] then withoutDots seen rest else withoutDots (seen.drop 1) rest
  | part :: rest => withoutDots (part :: seen) rest

/-- A path without dots as parts. -/
def resolved (path : List Char) : List Char :=
  ['/'].intercalate (withoutDots [] (Text.splitAll '/' path))

/-- Whether a path may follow a scheme and an authority. -/
def mayFollow (hasScheme hasAuthority : Bool) (path : List Char) : Bool :=
  if hasAuthority then path.isEmpty || path.head? == some '/'
  else hasScheme || (path.head? != some ':' && !"//".toList.isPrefixOf path)

/-- Whether a character is a visible one of ASCII. -/
def isVisible (c : Char) : Bool := 0x20 < c.toNat && c.toNat < 0x7F

/-- Whether a character stands for itself in a fragment. -/
def isFragmentChar (c : Char) : Bool := isVisible c && !(['"', '<', '>', '\x60'].contains c)

/-- Whether a character stands for itself in a query. -/
def isQueryChar (c : Char) : Bool := isVisible c && !(['"', '#', '<', '>'].contains c)

/-- Whether a character stands for itself in a path. -/
def isPathChar (c : Char) : Bool :=
  isQueryChar c && !(['?', '\x60', '\x7b', '\x7d'].contains c)

/-- Whether a character stands for itself in a user. -/
def isUserChar (c : Char) : Bool :=
  isPathChar c && !(['/', ';', '=', '@', '[', '\\', ']', '^', '|'].contains c)

/-- The address with the given parts. -/
def ofParts? (parts : UrlParts) : Option Url := do
  let (user, place) := splitUser parts.authority
  let (host, digits) := splitHost place
  let host ← Host.normal? host
  let service ← service? parts.scheme digits
  let hasScheme := !parts.scheme.isEmpty
  let hasAuthority := !user.isEmpty || !host.isEmpty || service.isSome
  if mayFollow hasScheme hasAuthority parts.path then
    let path := if hasScheme || hasAuthority then resolved parts.path else parts.path
    some
      { scheme := parts.scheme.map Char.toLower
        user := Text.Percent.escape isUserChar user
        host
        service
        path := Text.Percent.escape isPathChar path
        query := parts.query.map (Text.Percent.escape isQueryChar)
        fragment := parts.fragment.map (Text.Percent.escape isFragmentChar) }
  else none

/-- Whether a character is a control character of ASCII. -/
def isControl (c : Char) : Bool := c.toNat < 0x20 || c.toNat == 0x7F

/-- The address that a text is. -/
def ofText? (text : String) : Option Url :=
  let chars := text.toList
  if UrlParts.lengthLimit < chars.length ∨ chars.any isControl then none
  else ofParts? (UrlParts.ofChars chars)

/-- The authority of an address. -/
def authority (url : Url) : List Char :=
  (if url.user.isEmpty then [] else url.user ++ ['@']) ++
    (if url.host.contains ':' then '[' :: url.host ++ [']'] else url.host) ++
    match url.service with
    | some number => ':' :: (toString number).toList
    | none => []

/-- The scheme and the authority of an address as a text. -/
def server (url : Url) : List Char :=
  (if url.scheme.isEmpty then [] else url.scheme ++ [':']) ++
    if url.authority.isEmpty then [] else '/' :: '/' :: url.authority

/-- A part with the mark before it, if there is one. -/
def marked (mark : Char) : Option (List Char) → List Char
  | some part => mark :: part
  | none => []

/-- The text of an address. -/
def text (url : Url) : String :=
  String.ofList (url.server ++ url.path ++ marked '?' url.query ++ marked '#' url.fragment)

/-- What a request asks for: the path, which is at least a slash, and the
query. -/
def target (url : Url) : List Char :=
  (if url.path.isEmpty then ['/'] else url.path) ++ marked '?' url.query

/-- The address with another target; all its parts are brought into normal form
again. -/
def withTarget? (target : List Char) (url : Url) : Option Url :=
  let (path, query) := Text.splitFirst '?' target
  let parts : UrlParts := ⟨url.scheme, url.authority, path, query, url.fragment⟩
  if parts.areShort then ofParts? parts else none

/-- The address with another query, which holds no character that needs an
escape; an empty query is none. -/
def withQuery? (query : List Char) (url : Url) : Option Url :=
  if UrlParts.lengthLimit < query.length then none
  else some { url with query := if query.isEmpty then none else some query }

/-- The address with a slash at the end of its target, so that the paths of
requests can be put after it. -/
def withSlash? (url : Url) : Option Url :=
  if url.target.getLast? = some '/' then some url else url.withTarget? (url.target ++ ['/'])

/-- The address that is the base of requests. -/
def base? (text : String) : Option Url := (ofText? text).bind withSlash?

/-- The address of a request with a path below a base. -/
def below? (path : String) (base : Url) : Option Url :=
  base.withTarget? (base.target ++ path.toList.dropWhile (· = '/'))

/-- The path of an address without escapes. -/
def plainPath (url : Url) : String :=
  String.ofList (Text.Percent.unescape (if url.path.isEmpty then ['/'] else url.path))

/-- The name and the password of the user, without escapes. -/
def credentials (url : Url) : List Char × List Char :=
  let (name, password) := Text.splitFirst ':' url.user
  (Text.Percent.unescape name, Text.Percent.unescape (password.getD []))

/-- Whether an address and its target start with a name and a colon, as they do
with a scheme. -/
def startsWithName (url : Url) : Bool :=
  let chars := url.server ++ url.target
  let isNameChar (c : Char) : Bool := c != '/' && c != ':'
  !(chars.takeWhile isNameChar).isEmpty && (chars.dropWhile isNameChar).head? == some ':'

end Url
end CatalogQuery
