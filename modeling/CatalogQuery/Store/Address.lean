import CatalogQuery.QueryParams
import CatalogQuery.Store.State

/-!
# The address bar

The flat part of a store is written as query parameters and read back from
them.  A few names are reserved for pagination and ordering; all others are
filters.  A number that cannot be read, or is below its minimum, leaves the
current value.
-/

namespace CatalogQuery

/-- The names that pagination and ordering own. -/
def reservedParams : List String :=
  ["page", "page_size", "zero_based", "cursor", "limit", "order_by", "direction"]

/-- The reserved name that a text is. -/
def reservedParam? (text : Text) : Option String :=
  reservedParams.find? fun name => Text.ofString name == text

namespace UrlState

/-- The filters with the ordering and a pagination as one list of
parameters. -/
def params (pagination : Pagination) (state : UrlState) : Fields Value :=
  let ordered := match state.ordering with
    | some order => Fields.setAll state.filters order.toFields
    | none => state.filters
  Fields.setAll ordered pagination.toFields

/-- The text that a value has as a parameter. -/
def paramText : Value → Text
  | .bool b => if b then "true" else "false"
  | value => value.display

/-- The texts of a parameter: none for null, one for each item of a list. -/
def paramTexts : Value → List Text
  | .null => []
  | .list items => items.map paramText
  | value => [paramText value]

/-- The query parameters of a state with a pagination. -/
def toQuery (pagination : Pagination) (state : UrlState) : QueryParams :=
  QueryParams.ofPairs <|
    (state.params pagination).flatMap fun (name, value) => (paramTexts value).map (name, ·)

end UrlState

namespace QueryParams

/-- A filter that a name stands for: a text, or a list if there are several. -/
def filterValue : List Text → Outcome Value
  | [] => .error .noItems
  | [text] => .ok (.text text)
  | texts => .ok (.list (texts.map .text))

/-- The filters: all parameters whose name is not reserved. -/
def filters (params : QueryParams) : Outcome (Fields Value) :=
  (List.filter (fun entry => (reservedParam? entry.1).isNone) params).mapM fun (name, texts) => do
    .ok (name, ← filterValue texts)

/-- The ordering, if there is one; an absent or empty direction is
ascending. -/
def ordering (current : Option QueryOrder) (params : QueryParams) :
    Outcome (Option QueryOrder) := do
  match ← params.first? "order_by" with
  | none => .ok current
  | some field =>
      let direction ← params.first? "direction"
      let direction := match direction with
        | none => "asc"
        | some text => if text.isEmpty then "asc" else text
      let order ← Checked.reported "QueryOrder" <|
        QueryOrder.check (.object [("order_by", .text field), ("direction", .text direction)])
      .ok (some order)

/-- The integer of a parameter, if it can be read. -/
def integer? (name : Text) (params : QueryParams) : Outcome (Option Int) := do
  .ok (((← params.first? name).bind Text.string?).bind Text.integer?)

/-- A page number; one that is negative does not count. -/
def naturalOr (name : Text) (current : Nat) (params : QueryParams) : Outcome Nat := do
  match ← params.integer? name with
  | some i => .ok (if 0 ≤ i then i.toNat else current)
  | none => .ok current

/-- A number of items; one below one does not count. -/
def countOr {α : Type} (name : Text) (wrap : Count → α) (current : α)
    (params : QueryParams) : Outcome α := do
  match ← params.integer? name with
  | some i => .ok (if h : 1 ≤ i.toNat then wrap ⟨i.toNat, h⟩ else current)
  | none => .ok current

/-- Whether pages are numbered from zero. -/
def zeroBased (params : QueryParams) : Outcome Bool := do
  match ← params.first? "zero_based" with
  | some text => .ok (text.chars?.any (Text.sameLetters · "true"))
  | none => .ok false

/-- The pagination: by cursor if there is a cursor or a limit, by page number
if there is a page or a page size, and the current one otherwise. -/
def pagination (current : Pagination) (params : QueryParams) : Outcome Pagination := do
  if Fields.has "cursor" params ∨ Fields.has "limit" params then
    let cursor ← params.first? "cursor"
    let limit ← params.countOr "limit" some current.limit?
    .ok (.cursor ⟨cursor, limit⟩)
  else if Fields.has "page" params ∨ Fields.has "page_size" params then
    let base := match current with
      | .offset request => request
      | .cursor _ => .first
    let page ← params.naturalOr "page" base.page
    let pageSize ← params.countOr "page_size" id base.pageSize
    let zeroBased ← params.zeroBased
    .ok (.offset ⟨page, pageSize, zeroBased⟩)
  else .ok current

end QueryParams

/-- The state that query parameters describe; what they do not mention of
ordering and pagination stays as it is. -/
def UrlState.ofQuery (params : QueryParams) (state : UrlState) : Outcome UrlState := do
  let filters ← params.filters
  let ordering ← params.ordering state.ordering
  let pagination ← params.pagination state.pagination
  .ok ⟨filters, ordering, pagination⟩

end CatalogQuery
