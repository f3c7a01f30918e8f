import CatalogQuery.Filter.Group
import CatalogQuery.Filter.Source
import CatalogQuery.Ordering
import CatalogQuery.Pagination.Request

/-!
# Search bodies

Filters are always written against media.  Compiled for an entity, each filter
is narrowed to the part on that entity; filters that do not reach the entity
are dropped, and so are groups that are left empty.  Of the order only the
fields that a guard accepts are kept.  A section that is left empty is absent.
-/

namespace CatalogQuery

/-- A group of filters on one entity. -/
structure EntityGroup where
  joiner : GroupJoiner
  filters : List EntityFilter
deriving DecidableEq

/-- The wire form of a group. -/
def EntityGroup.toWire (group : EntityGroup) : Value :=
  .object [(group.joiner.key, .list (group.filters.map EntityFilter.toWire))]

/-- A compiled search for one entity. -/
structure SearchBody where
  entity : Entity
  filter : Option (List EntityGroup)
  orderParams : Option (List QueryOrder)
  query : Pagination
deriving DecidableEq

/-- A list as a section that is absent when the list is empty. -/
def filled? {α : Type} : List α → Option (List α)
  | [] => none
  | items => some items

/-- The filters of a group that reach an entity, if there are any. -/
def FilterGroup.narrow? (entity : Entity) (group : FilterGroup) : Option EntityGroup :=
  (filled? (group.filters.filterMap (MediaFilter.narrow? entity))).map (⟨group.joiner, ·⟩)

/-- The groups of filters that reach an entity, if there are any. -/
def compileFilters (entity : Entity) (groups : List FilterGroup) : Option (List EntityGroup) :=
  filled? (groups.filterMap (FilterGroup.narrow? entity))

/-- The orders that a guard accepts. -/
def keptOrders (guard : OrderGuard) (orders : List QueryOrder) : List QueryOrder :=
  orders.filter fun order => guard order.orderBy

/-- The orders that a guard does not accept. -/
def droppedOrders (guard : OrderGuard) (orders : List QueryOrder) : List QueryOrder :=
  orders.filter fun order => !guard order.orderBy

namespace SearchBody

/-- What is compiled: a page, filters on media, and orders. -/
structure Query where
  pagination : Pagination
  groups : List FilterGroup
  orders : List QueryOrder

/-- A compiled body with the orders that were dropped. -/
structure Compiled where
  body : SearchBody
  dropped : List QueryOrder

/-- The body for an entity under a guard. -/
def compile (entity : Entity) (guard : OrderGuard) (query : Query) : Compiled :=
  { body :=
      { entity
        filter := compileFilters entity query.groups
        orderParams := filled? (keptOrders guard query.orders)
        query := query.pagination }
    dropped := droppedOrders guard query.orders }

/-- The body for an entity that is given by name; without a guard the entity's
own one is taken.  A name that is no entity's fails where the entity is first
needed: for the guard, for narrowing a filter, or for the finished body. -/
def compileNamed (entity : String) (guard : Option OrderGuard) (query : Query) :
    Outcome Compiled :=
  match Entity.ofName? entity with
  | some known => .ok (compile known (guard.getD known.orderGuard) query)
  | none =>
      if guard.isSome ∧ query.groups.all (·.filters.isEmpty) then
        .error (.invalid ⟨"SmartSearchBody", [⟨[.field "entity"], .notAmongLiterals⟩]⟩)
      else .error (.unknownEntity entity)

/-- The same search for another page. -/
def withQuery (query : Pagination) (body : SearchBody) : SearchBody := { body with query }

/-- A section of a body as a field; an absent section is none. -/
def sectionField (name : Text) : Option (List Value) → Fields Value
  | some items => [(name, .list items)]
  | none => []

/-- The wire form of a body; absent sections have no key. -/
def toWire (body : SearchBody) : Value :=
  .object <| Fields.set "query" body.query.toWire <|
    sectionField "filter" (body.filter.map (·.map EntityGroup.toWire)) ++
      sectionField "order_params" (body.orderParams.map (·.map QueryOrder.toWire))

end SearchBody
end CatalogQuery
