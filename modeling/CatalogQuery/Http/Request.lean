import CatalogQuery.Http.Url
import CatalogQuery.Ordering
import CatalogQuery.QueryParams
import CatalogQuery.Search.Body
import CatalogQuery.Settings
import CatalogQuery.Text.Base64

/-!
# Requests

A list is either fetched with query parameters or searched with a body; both
go to the path of the entity below the base address.  Every request names its
source.  It carries the token if there is one, or the user of the base address
instead if that has one.
-/

namespace CatalogQuery

/-- The path of the list of an entity. -/
def Entity.listPath : Entity → String
  | media => "/api/v1/media"
  | mediaMetadata => "/api/v1/metadata/media"
  | series => "/api/v1/series"
  | seriesMetadata => "/api/v1/metadata/series"
  | library => "/api/v1/libraries"

/-- The source that every request names. -/
def requestSource : String := "smart-query"

/-- The authorization that a token gives. -/
def authorization? (token : String) : Option String :=
  if token.isEmpty then none else some ("Bearer " ++ token)

/-- The headers of every request. -/
def requestHeaders (token : String) : Fields String :=
  let named : Fields String := [("X-Request-Source", requestSource)]
  match authorization? token with
  | some authorization => Fields.set "Authorization" authorization named
  | none => named

/-- What a request asks for. -/
inductive Ask where
  /-- A list with query parameters. -/
  | list (entity : Entity) (params : QueryParams)
  /-- A search with a body. -/
  | search (body : SearchBody)

/-- A request. -/
structure Request where
  method : String
  url : Url
  headers : Fields String
  body : Option Value

mutual

/-- Whether a property holds of every part of a value that has no parts, the
names of fields counting as texts. -/
def Value.allParts (holds : Value → Bool) : Value → Bool
  | .list items => allItems holds items
  | .object fields => allFields holds fields
  | .table entries => allEntries holds entries
  | value => holds value

/-- Whether a property holds of every part of the items of a list. -/
def Value.allItems (holds : Value → Bool) : List Value → Bool
  | [] => true
  | item :: rest => item.allParts holds && allItems holds rest

/-- Whether a property holds of every part of fields. -/
def Value.allFields (holds : Value → Bool) : List (Text × Value) → Bool
  | [] => true
  | (name, value) :: rest =>
      holds (.text name) && value.allParts holds && allFields holds rest

/-- Whether a property holds of every part of entries. -/
def Value.allEntries (holds : Value → Bool) : List (Value × Value) → Bool
  | [] => true
  | (key, value) :: rest =>
      key.allParts holds && value.allParts holds && allEntries holds rest

end

/-- Whether a value is no number, or a finite one. -/
def Value.isFinite : Value → Bool
  | .real x => x.isFinite
  | _ => true

/-- Whether a value is no text, or a string. -/
def Value.isString : Value → Bool
  | .text s => s.string?.isSome
  | _ => true

/-- The document of a body: its numbers must be finite, and its texts
strings. -/
def documentOf (body : Value) : Outcome Value :=
  if !body.allParts Value.isFinite then .error .unwritableNumber
  else if !body.allParts Value.isString then .error .unwritableText
  else .ok body

/-- The characters of a text that can stand in a header. -/
def headerText (text : Text) : Outcome String :=
  match text.string? with
  | some s => if s.toList.all (·.toNat < 128) then .ok s else .error .unwritableHeader
  | none => .error .unwritableHeader

/-- The authorization that the user of an address gives. -/
def userAuthorization? (url : Url) : Option String :=
  let (name, password) := url.credentials
  if name.isEmpty ∧ password.isEmpty then none
  else
    some ("Basic " ++ String.ofList
      (Text.Base64.encode (Text.Utf8.encode (name ++ ':' :: password))))

/-- The headers of a request to an address. -/
def headersFor (url : Url) (token : String) : Fields String :=
  match userAuthorization? url with
  | some authorization => Fields.set "Authorization" authorization (requestHeaders token)
  | none => requestHeaders token

/-- The check of the host that a request names: the labels of an international
name must be sound, and all characters ASCII. -/
def checkHost (url : Url) : Outcome Unit := do
  if Domain.mark.isPrefixOf url.host then
    match Domain.check url.host with
    | .ok () => .ok ()
    | .error fault => .error (.invalidDomain fault)
  else if url.host.all (·.toNat < 128) then .ok ()
  else .error .unwritableHeader

/-- The base address of the settings. -/
def Settings.base (settings : Settings) : Outcome Url :=
  match settings.apiUrl.string? with
  | none => .error .unwritableText
  | some text =>
      match Url.base? text with
      | some url => .ok url
      | none => .error .invalidUrl

/-- The address of a list with query parameters. -/
def Url.withParams (params : QueryParams) (url : Url) : Outcome Url := do
  match url.withQuery? (← params.toText).toList with
  | some url => .ok url
  | none => .error .invalidUrl

namespace Request

/-- The path of a request without escapes. -/
def path (request : Request) : String := request.url.plainPath

/-- The query string of a request. -/
def query (request : Request) : String := String.ofList (request.url.query.getD [])

/-- A request with a token and perhaps a body. -/
def make (method : String) (token : Text) (url : Outcome Url) (body : Option Value) :
    Outcome Request := do
  let token ← headerText token
  let url ← url
  let body ← body.mapM documentOf
  checkHost url
  .ok ⟨method, url, headersFor url token, body⟩

/-- The address of the list of an entity below a base address. -/
def listUrl (base : Url) (entity : Entity) : Outcome Url :=
  match base.below? entity.listPath with
  | some url => .ok url
  | none => .error .invalidUrl

/-- The request for what is asked, below a base address. -/
def ofAsk (base : Url) (token : Text) : Ask → Outcome Request
  | .list entity params => do
      let url ← listUrl base entity
      make "GET" token (url.withParams params) none
  | .search body => do
      let url ← listUrl base body.entity
      make "POST" token (.ok url) (some body.toWire)

end Request
end CatalogQuery
