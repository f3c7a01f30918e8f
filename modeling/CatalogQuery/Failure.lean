import CatalogQuery.Http.Domain
import CatalogQuery.Json.Reader
import CatalogQuery.Pagination.Failure
import CatalogQuery.Validation

/-!
# Failures

Every way in which an operation of the library can end without an answer, and
the message that goes with it, if there is one.
-/

namespace CatalogQuery

/-- The stages of a connection. -/
inductive ConnectionStage where
  | connect
  | read
  | write
  | close
  | pool
  | other
deriving DecidableEq, Repr

/-- A failure before a response arrived. -/
inductive NetworkFailure where
  /-- A stage took too long. -/
  | timeout (stage : ConnectionStage)
  /-- A stage broke off. -/
  | broken (stage : ConnectionStage)
  /-- Either side left the protocol. -/
  | protocol (atServer : Option Bool)
  | proxy
  | unsupportedProtocol
  /-- A failure of the network of no special kind. -/
  | unspecified
deriving DecidableEq, Repr

/-- A failure of an operation. -/
inductive Failure where
  /-- Data did not pass a check. -/
  | invalid (error : ValidationError)
  /-- No entity has the name. -/
  | unknownEntity (name : String)
  /-- No filter operation has the name. -/
  | unknownOperation (name : String)
  /-- A filter group without exactly one joiner; its keys as they are shown. -/
  | groupKeys (shown : String)
  /-- The name of a filter is one of pagination or ordering. -/
  | reservedFilter (name : String)
  /-- A cursor history that holds nothing. -/
  | cacheBound
  /-- The session is closed. -/
  | sessionClosed
  | pagination (failure : PaginationFailure)
  /-- A sort direction on the command line that is none. -/
  | sortDirection (text : String)
  /-- An object was needed. -/
  | notAnObject
  /-- A value of another kind was needed. -/
  | wrongKind
  /-- A pair of something else than two parts. -/
  | notPairs
  /-- Nothing is stored under the key. -/
  | noSuchKey
  /-- The first of no items was needed. -/
  | noItems
  /-- A body that is no document. -/
  | unreadable (error : Json.ReadError)
  /-- A body whose bytes are no text. -/
  | undecodable
  /-- A number that a document cannot hold. -/
  | unwritableNumber
  /-- A text that no encoding can hold, as it has a half of a surrogate pair. -/
  | unwritableText
  /-- A text that a header cannot hold. -/
  | unwritableHeader
  /-- An address that is none. -/
  | invalidUrl
  /-- An international domain name that is none. -/
  | invalidDomain (fault : DomainFault)
  /-- A response to a request whose address names no scheme. -/
  | schemelessUrl
  /-- A listener failed. -/
  | listenerFailed
  /-- The server answered with a status that is no success. -/
  | status (code : Nat)
  | network (failure : NetworkFailure)
  /-- A failure of the transport that is not one of the network. -/
  | foreign (name : String)
  /-- The operation was cancelled. -/
  | cancelled
  /-- No log level has the name. -/
  | unknownLogLevel
  /-- The command ends with a code. -/
  | exit (code : Nat)
deriving DecidableEq, Repr

/-- The message of a failure, for those that have one. -/
def Failure.message? : Failure → Option String
  | unknownEntity name => some ("Unknown filter entity: " ++ Text.quoted name)
  | unknownOperation name => some ("Unknown filter operation: " ++ Text.quoted name)
  | groupKeys shown =>
      some ("Filter group must have exactly one of and, or, not, got keys: " ++ shown)
  | reservedFilter name =>
      some ("'" ++ name ++ "' is reserved for pagination/ordering and cannot be a filter")
  | cacheBound => some "max_entries must be at least 1"
  | sessionClosed => some "List view session is not open"
  | pagination failure => some failure.message
  | sortDirection text => some ("Invalid sort direction: " ++ text)
  | _ => none

/-- The answer of an operation that may fail. -/
abbrev Outcome (α : Type) := Except Failure α

/-- An operation in two steps succeeds if both steps do. -/
theorem Outcome.bind_eq_ok {α β : Type} {first : Outcome α} {rest : α → Outcome β} {result : β} :
    first >>= rest = .ok result ↔ ∃ value, first = .ok value ∧ rest value = .ok result := by
  cases first with
  | error failure => simp [bind, Except.bind]
  | ok value => simp [bind, Except.bind]

/-- A check as an operation, reported under the name of the model. -/
def Checked.reported {α : Type} (title : String) : Checked α → Outcome α
  | .ok value => .ok value
  | .error issues => .error (.invalid ⟨title, issues⟩)

end CatalogQuery
