import CatalogQuery.Failure
import CatalogQuery.Text.Encoding
import CatalogQuery.Text.LetterCase
import CatalogQuery.Value.Display

/-!
# Responses

A response is a status and the bytes of a body.  One that is no success is
turned into an error that can be shown: the status gives its category, and for
a rejected query the body gives the message, if one can be found in it.
-/

namespace CatalogQuery

/-- A response of the server. -/
structure Response where
  status : Nat
  body : List Nat
deriving DecidableEq, Repr

namespace Response

/-- Whether the status is a success. -/
def isSuccess (response : Response) : Bool := 200 ≤ response.status && response.status < 300

/-- The document that the body holds. -/
def document (response : Response) : Outcome Value :=
  match Text.Encoding.decodeDocument? response.body with
  | none => .error .undecodable
  | some text =>
      match Json.read text with
      | .ok value => .ok value
      | .error error => .error (.unreadable error)

end Response

/-- The categories of errors. -/
inductive ErrorCategory where
  /-- The token is not valid. -/
  | auth
  /-- Access is denied. -/
  | forbidden
  /-- What was asked for does not exist. -/
  | notFound
  /-- The server rejected the query. -/
  | validation
  /-- No response arrived. -/
  | unavailable
  /-- Any other error. -/
  | internal
deriving DecidableEq, Repr

/-- The name of a category. -/
def ErrorCategory.name : ErrorCategory → String
  | auth => "auth"
  | forbidden => "forbidden"
  | notFound => "not_found"
  | validation => "validation"
  | unavailable => "unavailable"
  | internal => "internal"

/-- An error that can be shown.  A message that the server wrote is passed on
as it came, whatever its kind. -/
structure ApiError where
  category : ErrorCategory
  message : Value

namespace ApiError

/-- An error with a message of its own. -/
def plain (category : ErrorCategory) (message : String) : ApiError := ⟨category, .text message⟩

/-- The message for a rejected query that says no more. -/
def unexplained : String := "Validation error"

/-- The last part of a location; an empty location is unknown. -/
def lastPart (location : Option Value) : Outcome Text :=
  match location with
  | none => .ok "unknown"
  | some location =>
      if location.isEmpty then .ok "unknown"
      else
        match location with
        | .list items => .ok ((items.getLast?.map Value.display).getD "unknown")
        | .text s => .ok ((s.points.getLast?.map fun point => Text.mk [point]).getD "unknown")
        | .object _ => .error .noSuchKey
        | .table _ => .error .noSuchKey
        | _ => .error .wrongKind

/-- The message for one rejected part of the query. -/
def partMessage (fields : Fields Value) : Outcome Text := do
  let field ← lastPart (Fields.get? "loc" fields)
  let reason := ((Fields.get? "msg" fields).map Value.display).getD "invalid"
  .ok (field ++ ": " ++ reason)

/-- The messages for the rejected parts; what is no object is passed over. -/
def partMessages : List Value → Outcome (List Text)
  | [] => .ok []
  | .object fields :: rest => do
      let message ← partMessage fields
      .ok (message :: (← partMessages rest))
  | _ :: rest => partMessages rest

/-- The message that a detail gives. -/
def detailMessage : Value → Outcome Value
  | .object fields =>
      .ok ((Fields.get? "message" fields).getD (.text (Value.inspect (.object fields))))
  | .list items => do
      let messages ← partMessages items
      .ok (.text (if messages.isEmpty then unexplained else Text.join "; " messages))
  | detail => .ok (.text detail.display)

/-- The message in the body of a response that rejects the query.  A body that
cannot be read gives no message; only one nested too deeply is a failure of its
own. -/
def rejectionMessage (response : Response) : Outcome Value :=
  match response.document with
  | .error (.unreadable .tooDeep) => .error (.unreadable .tooDeep)
  | .ok (.object fields) =>
      match Fields.get? "detail" fields with
      | some detail => detailMessage detail
      | none => detailMessage ((Fields.get? "message" fields).getD (.text unexplained))
  | _ => .ok (.text unexplained)

/-- The message for something that does not exist. -/
def notFoundMessage (entity : String) : String :=
  if entity.isEmpty then "Not found"
  else
    Text.capitalize (String.ofList (entity.toList.map fun c => if c = '_' then ' ' else c)) ++
      " not found"

/-- The error that a response is, for a list of some entity. -/
def ofResponse (entity : String) (response : Response) : Outcome ApiError :=
  if response.status = 401 then .ok (plain .auth "Invalid or expired token")
  else if response.status = 403 then .ok (plain .forbidden "Access denied")
  else if response.status = 404 then .ok (plain .notFound (notFoundMessage entity))
  else if response.status = 400 ∨ response.status = 422 then do
    .ok ⟨.validation, ← rejectionMessage response⟩
  else .ok (plain .internal ("API error " ++ toString response.status))

/-- The error that a failure of the network is. -/
def ofNetwork : NetworkFailure → ApiError
  | .timeout _ => plain .unavailable "The server took too long to respond"
  | _ => plain .unavailable "Could not reach the server"

end ApiError
end CatalogQuery
