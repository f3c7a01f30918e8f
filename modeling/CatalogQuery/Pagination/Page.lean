import CatalogQuery.Failure
import CatalogQuery.Pagination.Request
import CatalogQuery.Value.Display

/-!
# Pages

A response holds the nodes of a page and describes the page.  The description
names its mode in a tag, which alone decides how the rest is read; the other
keys may be spelled with capitals inside or with underscores, and keys that are
not known are passed over.
-/

namespace CatalogQuery

/-- The description of a page that is addressed by its number. -/
structure OffsetPageInfo where
  currentPage : Int
  totalPages : Int
  pageSize : Int
  pageOffset : Int
  zeroBased : Bool
deriving DecidableEq, Repr

/-- The description of a page that is addressed by a cursor. -/
structure CursorPageInfo where
  currentCursor : Text
  nextCursor : Option Text
deriving DecidableEq, Repr

/-- The description of a page. -/
inductive PageInfo where
  | offset (info : OffsetPageInfo)
  | cursor (info : CursorPageInfo)
deriving DecidableEq, Repr

/-- The nodes of a page with its description. -/
structure PageResponse where
  nodes : List Value
  pageInfo : PageInfo

namespace PageInfo

/-- The mode that a page was addressed in. -/
def mode : PageInfo → PaginationMode
  | offset _ => .offset
  | cursor _ => .cursor

/-- The tag of a description. -/
def tagOf : PaginationMode → String
  | .offset => "OffsetPaginationInfo"
  | .cursor => "CursorPaginationInfo"

/-- The keys that hold the tag, the first one first. -/
def tagKeys : List String := ["__kind", "__typename"]

/-- The wire form of a description. -/
def toWire : PageInfo → Value
  | offset info =>
      .object [("__kind", .text (tagOf .offset)), ("currentPage", .int info.currentPage),
        ("totalPages", .int info.totalPages), ("pageSize", .int info.pageSize),
        ("pageOffset", .int info.pageOffset), ("zeroBased", .bool info.zeroBased)]
  | cursor info =>
      .object [("__kind", .text (tagOf .cursor)), ("currentCursor", .text info.currentCursor),
        ("nextCursor", match info.nextCursor with | some next => .text next | none => .null)]

/-- The first tag that is present and not null. -/
def tag? (fields : Fields Value) : Option Value :=
  tagKeys.findSome? fun key =>
    match Fields.get? (Text.ofString key) fields with
    | some value => if value.isNull then none else some value
    | none => none

/-- The mode that a tag names. -/
def modeOfTag? : Value → Option PaginationMode
  | .text tag => tag.meaning? [(tagOf .offset, .offset), (tagOf .cursor, .cursor)]
  | _ => none

/-- A key of a description in its two spellings, of which the first counts if
both are present. -/
structure Spelling where
  capitals : String
  underscores : String

/-- What stands under a key, with the spelling that was used. -/
def Spelling.get? (spelling : Spelling) (fields : Fields Value) : Option (String × Value) :=
  match Fields.get? spelling.capitals fields with
  | some value => some (spelling.capitals, value)
  | none => (Fields.get? spelling.underscores fields).map (spelling.underscores, ·)

/-- A part of a description that must be present. -/
def required {α : Type} (capitals underscores : String) (check : Value → Checked α)
    (fields : Fields Value) : Checked α :=
  match (Spelling.mk capitals underscores).get? fields with
  | some (key, value) => Checked.inField key (check value)
  | none => Checked.inField capitals (Checked.fail .missing)

/-- A part of a description that may be left out. -/
def optional {α : Type} (capitals underscores : String) (default : α)
    (check : Value → Checked α) (fields : Fields Value) : Checked α :=
  match (Spelling.mk capitals underscores).get? fields with
  | some (key, value) => Checked.inField key (check value)
  | none => .ok default

/-- The check of a description of the first mode. -/
def checkOffset (fields : Fields Value) : Checked OffsetPageInfo :=
  ((required "currentPage" "current_page" Checked.integer fields).both
    ((required "totalPages" "total_pages" Checked.integer fields).both
      ((required "pageSize" "page_size" Checked.integer fields).both
        ((optional "pageOffset" "page_offset" 0 Checked.integer fields).both
          (optional "zeroBased" "zero_based" false Checked.truth fields))))).map
            fun (currentPage, totalPages, pageSize, pageOffset, zeroBased) =>
              ⟨currentPage, totalPages, pageSize, pageOffset, zeroBased⟩

/-- The check of a description of the second mode. -/
def checkCursor (fields : Fields Value) : Checked CursorPageInfo :=
  ((required "currentCursor" "current_cursor" Checked.text fields).both
    (optional "nextCursor" "next_cursor" none (Checked.optional Checked.text) fields)).map
      fun (currentCursor, nextCursor) => ⟨currentCursor, nextCursor⟩

/-- The description that an object stands for. -/
def ofFields (fields : Fields Value) : Outcome PageInfo :=
  match tag? fields with
  | none => .error (.pagination .missingTag)
  | some tag =>
      match modeOfTag? tag with
      | none => .error (.pagination (.unknownTag tag.inspect))
      | some mode =>
          Checked.reported (tagOf mode) <|
            match mode with
            | .offset => (checkOffset fields).map offset
            | .cursor => (checkCursor fields).map cursor

/-- The description that a value stands for. -/
def ofValue : Value → Outcome PageInfo
  | .object fields => ofFields fields
  | _ => .error .notAnObject

end PageInfo

namespace PageResponse

/-- What stands under the first of two keys that is present. -/
def either? (first second : Text) (fields : Fields Value) : Option Value :=
  match Fields.get? first fields with
  | some value => some value
  | none => Fields.get? second fields

/-- The nodes that a value lists; an empty or absent one lists none. -/
def nodesOf (listed : Option Value) : Checked (List Value) :=
  match listed with
  | none => .ok []
  | some value =>
      if value.isEmpty then .ok []
      else Checked.inField "nodes" (Checked.list .ok value)

/-- The page that an envelope of nodes and a description holds. -/
def ofValue : Value → Outcome PageResponse
  | .object fields =>
      match either? "pageInfo" "page_info" fields with
      | none => .error (.pagination .noPageInfo)
      | some .null => .error (.pagination .noPageInfo)
      | some info => do
          let info ← PageInfo.ofValue info
          let nodes ← Checked.reported "PageResponse" (nodesOf (either? "nodes" "data" fields))
          .ok ⟨nodes, info⟩
  | _ => .error .notAnObject

end PageResponse
end CatalogQuery
