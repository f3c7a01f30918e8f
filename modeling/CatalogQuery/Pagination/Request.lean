import CatalogQuery.Pagination.Failure
import CatalogQuery.Validation.Scalar

/-!
# Requested pages

A page is requested by its number and the page size, or by a cursor and a
limit.  Numbers of items are at least one by their type.  `toFields` gives the
query parameters of a request, and `check` reads a request by its tag.
-/

namespace CatalogQuery

/-- A number of items, at least one. -/
abbrev Count := { n : Nat // 1 ≤ n }

/-- A page addressed by its number.  Pages are numbered from one, or from zero
if `zeroBased` holds. -/
structure OffsetPagination where
  page : Nat
  pageSize : Count
  zeroBased : Bool
deriving DecidableEq

/-- A page addressed by a cursor; without one it is the first page. -/
structure CursorPagination where
  cursor : Option Text
  limit : Option Count
deriving DecidableEq

/-- A requested page. -/
inductive Pagination where
  | offset (request : OffsetPagination)
  | cursor (request : CursorPagination)
deriving DecidableEq

/-- An integer that is not negative. -/
def Checked.naturalOf (i : Int) : Checked Nat :=
  if 0 ≤ i then .ok i.toNat else fail .belowMinimum

/-- An integer that counts at least one item. -/
def Checked.countOf (i : Int) : Checked Count :=
  if h : 1 ≤ i.toNat then .ok ⟨i.toNat, h⟩ else fail .belowMinimum

/-- A number that is not negative. -/
def Checked.natural (value : Value) : Checked Nat := do naturalOf (← integer value)

/-- A number of items. -/
def Checked.count (value : Value) : Checked Count := do countOf (← integer value)

namespace OffsetPagination

/-- The page that is requested when nothing else is said. -/
def first : OffsetPagination := ⟨1, ⟨20, by decide⟩, false⟩

/-- The number of the first page. -/
def firstPage (request : OffsetPagination) : Nat := if request.zeroBased then 0 else 1

/-- The first page of the same size and numbering. -/
def rewind (request : OffsetPagination) : OffsetPagination :=
  { request with page := request.firstPage }

/-- The query parameters of a request. -/
def toFields (request : OffsetPagination) : Fields Value :=
  let sized : Fields Value :=
    [("page", .int request.page), ("page_size", .int request.pageSize.val)]
  if request.zeroBased then Fields.set "zero_based" (.bool true) sized else sized

/-- The request with the given parts, if they are in range. -/
def ofIntegers (page pageSize : Int) (zeroBased : Bool) : Checked OffsetPagination :=
  ((Checked.inField "page" (Checked.naturalOf page)).both
    (Checked.inField "page_size" (Checked.countOf pageSize))).map
      fun (page, pageSize) => ⟨page, pageSize, zeroBased⟩

/-- The check of a request that is given by its fields. -/
def check (fields : Fields Value) : Checked OffsetPagination :=
  ((Checked.fieldOr "page" first.page Checked.natural fields).both
    ((Checked.fieldOr "page_size" first.pageSize Checked.count fields).both
      (Checked.fieldOr "zero_based" first.zeroBased Checked.truth fields))).map
        fun (page, pageSize, zeroBased) => ⟨page, pageSize, zeroBased⟩

/-- The name under which such requests are reported. -/
def model : String := "OffsetPagination"

end OffsetPagination

namespace CursorPagination

/-- The first page with the same limit. -/
def rewind (request : CursorPagination) : CursorPagination := { request with cursor := none }

/-- The query parameters of a request. -/
def toFields (request : CursorPagination) : Fields Value :=
  (match request.cursor with
    | some cursor => [("cursor", .text cursor)]
    | none => []) ++
  match request.limit with
  | some limit => [("limit", .int limit.val)]
  | none => []

/-- The check of a request that is given by its fields. -/
def check (fields : Fields Value) : Checked CursorPagination :=
  ((Checked.fieldOr "cursor" none (Checked.optional Checked.text) fields).both
    (Checked.fieldOr "limit" none (Checked.optional Checked.count) fields)).map
      fun (cursor, limit) => ⟨cursor, limit⟩

/-- The name under which such requests are reported. -/
def model : String := "CursorPagination"

end CursorPagination

namespace Pagination

/-- The mode of a request. -/
def mode : Pagination → PaginationMode
  | offset _ => .offset
  | cursor _ => .cursor

/-- The first page of the list that a request belongs to. -/
def rewind : Pagination → Pagination
  | offset request => offset request.rewind
  | cursor request => cursor request.rewind

/-- The query parameters of a request. -/
def toFields : Pagination → Fields Value
  | offset request => request.toFields
  | cursor request => request.toFields

/-- The wire form of a request. -/
def toWire (request : Pagination) : Value := .object request.toFields

/-- The request for the first page when nothing else is said. -/
def default : Pagination := offset .first

/-- The limit of a request by cursor. -/
def limit? : Pagination → Option Count
  | offset _ => none
  | cursor request => request.limit

/-- The mode that a tag names. -/
def modeOfTag? : Value → Option PaginationMode
  | .text tag => tag.meaning? PaginationMode.named
  | _ => none

/-- The check of a request that names its mode. -/
def check (value : Value) : Checked Pagination :=
  match value.fields? with
  | none => Checked.fail .notTagged
  | some fields =>
      match Fields.get? "kind" fields with
      | none => Checked.fail .noTag
      | some tag =>
          match modeOfTag? tag with
          | none => Checked.fail .unknownTag
          | some .offset =>
              Checked.inField PaginationMode.offset.name
                ((OffsetPagination.check fields).map offset)
          | some .cursor =>
              Checked.inField PaginationMode.cursor.name
                ((CursorPagination.check fields).map cursor)

/-- The name under which requests of either mode are reported. -/
def model : String := "tagged-union[OffsetPagination,CursorPagination]"

end Pagination
end CatalogQuery
