import CatalogQuery.Search.Body

/-!
# The state of a filter store

A store keeps two representations of what a list shows: flat filters that live
in the address bar, and groups of filters that are compiled into a search body.
The mode says which one drives the requests.  Raw data from outside is checked
when it is merged into either part.
-/

namespace CatalogQuery

/-- Which part of a store drives the requests. -/
inductive StoreMode where
  | url
  | body
deriving DecidableEq, Repr, Inhabited

namespace StoreMode

/-- The word for a mode. -/
def word : StoreMode → String
  | url => "url"
  | body => "body"

/-- The words for the modes. -/
def worded : List (String × StoreMode) := [("url", url), ("body", body)]

end StoreMode

/-- Flat filters that live in the address bar. -/
structure UrlState where
  filters : Fields Value
  ordering : Option QueryOrder
  pagination : Pagination

/-- Filters that are compiled into a search body. -/
structure BodyState where
  entity : Entity
  filters : Option (List FilterGroup)
  ordering : Option (List QueryOrder)
  pagination : Pagination
  totalCount : Option Int

/-- The name of the model of the compiled part. -/
def BodyState.model : String := "BodyFilterState"

/-- The state of a store. -/
structure StoreState where
  mode : StoreMode
  url : UrlState
  body : BodyState

/-- The object that a value must be. -/
def Checked.fieldsOf (value : Value) : Checked (Fields Value) :=
  match value.fields? with
  | some fields => .ok fields
  | none => fail .notObject

namespace UrlState

/-- The names of the parts. -/
def partNames : List String := ["filters", "ordering", "pagination"]

/-- The state with the parts that the data names. -/
def patch (data : Fields Value) (state : UrlState) : Checked UrlState :=
  Checked.closed partNames (Value.object data).keys <|
    ((Checked.fieldOr "filters" state.filters Checked.fieldsOf data).both
      ((Checked.fieldOr "ordering" state.ordering (Checked.optional QueryOrder.check) data).both
        (Checked.fieldOr "pagination" state.pagination Pagination.check data))).map
          fun (filters, ordering, pagination) => ⟨filters, ordering, pagination⟩

/-- The filters as a value in which their order counts: a list of pairs. -/
def filtersValue (state : UrlState) : Value :=
  .list (state.filters.map fun (name, value) => .list [.text name, value])

/-- Whether two states are the same; the order of the filters does not
count. -/
def same (a b : UrlState) : Bool :=
  Value.same (.object a.filters) (.object b.filters) && a.ordering == b.ordering &&
    a.pagination == b.pagination

/-- Whether two states are written alike; the order of the filters counts. -/
def sameForm (a b : UrlState) : Bool :=
  a.filtersValue.sameForm b.filtersValue && a.ordering == b.ordering &&
    a.pagination == b.pagination

end UrlState

namespace BodyState

/-- The names of the parts. -/
def partNames : List String :=
  ["for_entity", "filters", "ordering", "pagination", "total_count"]

/-- The state with the parts that the data names. -/
def patch (data : Fields Value) (state : BodyState) : Checked BodyState :=
  Checked.closed partNames (Value.object data).keys <|
    ((Checked.fieldOr "for_entity" state.entity (Checked.word Entity.named) data).both
      ((Checked.fieldOr "filters" state.filters
          (Checked.optional (Checked.list FilterGroup.check)) data).both
        ((Checked.fieldOr "ordering" state.ordering
            (Checked.optional (Checked.list QueryOrder.check)) data).both
          ((Checked.fieldOr "pagination" state.pagination Pagination.check data).both
            (Checked.fieldOr "total_count" state.totalCount
              (Checked.optional Checked.integer) data))))).map
                fun (entity, filters, ordering, pagination, totalCount) =>
                  ⟨entity, filters, ordering, pagination, totalCount⟩

/-- The filter groups as a value. -/
def filtersValue (state : BodyState) : Value :=
  match state.filters with
  | none => .null
  | some groups => .list (groups.map FilterGroup.toWire)

/-- Whether two states are written alike. -/
def sameForm (a b : BodyState) : Bool :=
  a.entity == b.entity && a.filtersValue.sameForm b.filtersValue && a.ordering == b.ordering &&
    a.pagination == b.pagination && a.totalCount == b.totalCount

/-- What is compiled into a search body. -/
def query (state : BodyState) : SearchBody.Query :=
  ⟨state.pagination, state.filters.getD [], state.ordering.getD []⟩

end BodyState

namespace StoreState

/-- The pagination of the part that the mode selects. -/
def pagination (state : StoreState) : Pagination :=
  match state.mode with
  | .url => state.url.pagination
  | .body => state.body.pagination

/-- The state with another pagination in the part that the mode selects. -/
def withPagination (pagination : Pagination) (state : StoreState) : StoreState :=
  match state.mode with
  | .url => { state with url := { state.url with pagination } }
  | .body => { state with body := { state.body with pagination } }

/-- The parts that two states write in different ways; the order of the flat
filters counts. -/
def changedParts (new old : StoreState) : List String :=
  (if new.mode == old.mode then [] else ["mode"]) ++
    (if new.url.sameForm old.url then [] else ["url"]) ++
    (if new.body.sameForm old.body then [] else ["body"])

end StoreState
end CatalogQuery
