import CatalogQuery.Entity
import CatalogQuery.Failure
import CatalogQuery.Validation.Scalar

/-!
# Ordering

A query is sorted by fields that are written freely; which of them an entity
can be sorted by is only asked when the query is compiled.
-/

namespace CatalogQuery

/-- A direction of sorting. -/
inductive Direction where
  | asc
  | desc
deriving DecidableEq, Repr, Inhabited

namespace Direction

/-- The word for a direction. -/
def word : Direction → String
  | asc => "asc"
  | desc => "desc"

/-- The words for the directions. -/
def worded : List (String × Direction) := [("asc", asc), ("desc", desc)]

end Direction

/-- A field to sort by and a direction. -/
structure QueryOrder where
  orderBy : Text
  direction : Direction
deriving DecidableEq, Repr, Inhabited

namespace QueryOrder

/-- The fields of an order. -/
def toFields (order : QueryOrder) : Fields Value :=
  [("order_by", .text order.orderBy), ("direction", .text order.direction.word)]

/-- The wire form of an order. -/
def toWire (order : QueryOrder) : Value := .object order.toFields

/-- The check of an order; the direction may be left out. -/
def check : Value → Checked QueryOrder :=
  Checked.object fun fields =>
    ((Checked.field "order_by" Checked.text fields).both
      (Checked.fieldOr "direction" .asc (Checked.word Direction.worded) fields)).map
        fun (orderBy, direction) => ⟨orderBy, direction⟩

/-- The order that a field with an optional direction after a colon stands
for. -/
def ofText (text : String) : Outcome QueryOrder :=
  let chars := text.toList
  let field := String.ofList (chars.takeWhile (· != ':'))
  let direction := String.ofList ((chars.dropWhile (· != ':')).drop 1)
  if direction.isEmpty then .ok ⟨field, .asc⟩
  else
    match Direction.worded.lookup direction with
    | some direction => .ok ⟨field, direction⟩
    | none => .error (.sortDirection direction)

end QueryOrder

/-- The fields that an entity can be sorted by. -/
def Entity.sortFields : Entity → List String
  | media =>
      ["name", "size", "extension", "created_at", "updated_at", "status", "path", "pages",
        "modified_at"]
  | mediaMetadata =>
      ["title", "series", "number", "volume", "summary", "notes", "age_rating", "genre",
        "year", "month", "day", "writers", "pencillers", "inkers", "colorists", "letterers",
        "cover_artists", "editors", "publisher", "links", "characters", "teams"]
  | series => ["name", "description", "updated_at", "created_at", "path", "status"]
  | seriesMetadata =>
      ["meta_type", "title", "summary", "publisher", "status", "age_rating", "volume"]
  | library => ["name", "path", "status", "updated_at", "created_at"]

/-- Decides which fields a query may be sorted by. -/
abbrev OrderGuard := Text → Bool

/-- Accepts the fields that an entity can be sorted by. -/
def Entity.orderGuard (entity : Entity) : OrderGuard := fun field =>
  field.isAmong entity.sortFields

/-- Whether a value is the name of a field that the guard accepts. -/
def OrderGuard.accepts (guard : OrderGuard) : Value → Bool
  | .text field => guard field
  | _ => false

/-- The entity with a name, as an operation. -/
def Entity.require (name : String) : Outcome Entity :=
  match ofName? name with
  | some entity => .ok entity
  | none => .error (.unknownEntity name)

end CatalogQuery
