import CatalogQuery.Search.Body

/-!
# What is compiled into a search

A compiled search holds exactly the filters that reach its entity
(`compile_loses_and_invents_nothing`).  Three ways through the catalog meet here: the
path to the entity that a filter is narrowed along, the path to the source that forms
show, and the nesting of the wire form.  Narrowing succeeds if the first path is the
start of the second (`isSome_narrow?_iff`), and takes the first path off the third
(`nest_toWire_of_narrow?`).
-/

namespace CatalogQuery

/-- A filter on media reaches an entity if the way to where the filter ends leads through
the entity. -/
def MediaFilter.Reaches (entity : Entity) (filter : MediaFilter) : Prop :=
  entity.path <+: filter.source.1.path

instance (entity : Entity) (filter : MediaFilter) : Decidable (filter.Reaches entity) :=
  inferInstanceAs (Decidable (entity.path <+: filter.source.1.path))

/-- A group of wire forms with their joiner. -/
abbrev WireGroup := GroupJoiner × List Value

namespace WireGroup

/-- The group as an object. -/
def toValue (group : WireGroup) : Value := .object [(group.1.key, .list group.2)]

/-- The group with its items put at the end of a path. -/
def nest (path : List String) (group : WireGroup) : WireGroup :=
  (group.1, group.2.map (Value.nest path))

end WireGroup

/-- The wire forms of the filters of a group that reach an entity. -/
def FilterGroup.reaching (entity : Entity) (group : FilterGroup) : WireGroup :=
  (group.joiner, (group.filters.filter fun filter => filter.Reaches entity).map MediaFilter.toWire)

/-- A list as a value, if it has items. -/
def Value.filledList? (items : List Value) : Option Value :=
  if items = [] then none else some (.list items)

/-- What a compiled search says on the wire, and which orders it leaves out. -/
structure SearchBody.Compiled.Renders (entity : Entity) (guard : OrderGuard) (query : Query)
    (compiled : Compiled) : Prop where
  /-- The groups that are sent, put back under the path to the entity, are the wire forms of the
  filters that reach it, group by group. -/
  filters : ∃ sent : List WireGroup,
    compiled.body.toWire.field? "filter" = Value.filledList? (sent.map WireGroup.toValue) ∧
      sent.map (WireGroup.nest entity.path) =
        (query.groups.map (FilterGroup.reaching entity)).filter fun group => group.2 ≠ []
  unfiltered : compiled.body.toWire.field? "filter" = none ↔
    ∀ group ∈ query.groups, ∀ filter ∈ group.filters, ¬filter.Reaches entity
  orders : compiled.body.toWire.field? "order_params" =
    Value.filledList?
      ((query.orders.filter fun order => guard order.orderBy).map QueryOrder.toWire)
  dropped : compiled.dropped = query.orders.filter fun order => !guard order.orderBy
  page : compiled.body.toWire.field? "query" = some query.pagination.toWire
  keys : ∀ key ∈ compiled.body.toWire.keys,
    key ∈ [Value.text "filter", Value.text "order_params", Value.text "query"]

namespace MediaFilter

theorem isSome_narrow?_iff (entity : Entity) (filter : MediaFilter) :
    (filter.narrow? entity).isSome = true ↔ filter.Reaches entity := by
  unfold narrow? EntityFilter.follow? Reaches
  rcases filter with ⟨field, predicate⟩ | inner | ⟨field, predicate⟩ | inner | inner <;>
    cases entity <;>
    simp [EntityFilter.related?, EntityFilter.test, Entity.path, Source.path, source]

theorem nest_toWire_of_narrow? {entity : Entity} {filter : MediaFilter} {inner : EntityFilter}
    (narrowed : filter.narrow? entity = some inner) :
    Value.nest entity.path inner.toWire = filter.toWire := by
  unfold narrow? EntityFilter.follow? at narrowed
  rcases filter with ⟨field, predicate⟩ | leaf | ⟨field, predicate⟩ | leaf | leaf <;>
    cases entity <;>
    simp [EntityFilter.related?, EntityFilter.test, Entity.path] at narrowed <;>
    subst narrowed <;> rfl

/-- The filters that reach an entity, narrowed and put back under the path. -/
theorem map_nest_filterMap_narrow? (entity : Entity) (filters : List MediaFilter) :
    ((filters.filterMap (narrow? entity)).map EntityFilter.toWire).map (Value.nest entity.path) =
      (filters.filter fun filter => filter.Reaches entity).map toWire := by
  induction filters with
  | nil => rfl
  | cons first rest ih =>
      cases narrowed : first.narrow? entity with
      | none =>
          have away : ¬first.Reaches entity := by
            rw [← isSome_narrow?_iff, narrowed]
            decide
          simp only [List.filterMap_cons, narrowed]
          rw [ih, List.filter_cons_of_neg (by simpa using away)]
      | some inner =>
          have reaches : first.Reaches entity := by
            rw [← isSome_narrow?_iff, narrowed]
            rfl
          simp only [List.filterMap_cons, narrowed, List.map_cons, nest_toWire_of_narrow? narrowed]
          rw [ih, List.filter_cons_of_pos (by simpa using reaches), List.map_cons]

end MediaFilter

/-- A group on an entity as a group of wire forms. -/
def EntityGroup.wireGroup (group : EntityGroup) : WireGroup :=
  (group.joiner, group.filters.map EntityFilter.toWire)

theorem FilterGroup.map_nest_filterMap_narrow? (entity : Entity) (groups : List FilterGroup) :
    ((groups.filterMap (narrow? entity)).map EntityGroup.wireGroup).map
        (WireGroup.nest entity.path) =
      (groups.map (reaching entity)).filter fun group => group.2 ≠ [] := by
  induction groups with
  | nil => rfl
  | cons first rest ih =>
      have items := MediaFilter.map_nest_filterMap_narrow? entity first.filters
      cases narrowed : first.filters.filterMap (MediaFilter.narrow? entity) with
      | nil =>
          have none_sent : narrow? entity first = none := by simp [narrow?, narrowed, filled?]
          have none_reaches : (first.reaching entity).2 = [] := by
            rw [reaching, ← items, narrowed]
            rfl
          simp only [List.filterMap_cons, none_sent]
          rw [ih, List.map_cons, List.filter_cons_of_neg (by simp [none_reaches])]
      | cons inner others =>
          have sent : narrow? entity first = some ⟨first.joiner, inner :: others⟩ := by
            simp [narrow?, narrowed, filled?]
          have reached : reaching entity first = WireGroup.nest entity.path
              (EntityGroup.wireGroup ⟨first.joiner, inner :: others⟩) := by
            rw [reaching, ← items, narrowed]
            rfl
          simp only [List.filterMap_cons, sent, List.map_cons]
          rw [ih, reached,
            List.filter_cons_of_pos (by simp [WireGroup.nest, EntityGroup.wireGroup])]

namespace SearchBody

/-- A section has a key of its own if it is there. -/
theorem field?_toWire (body : SearchBody) :
    body.toWire.field? "filter" =
        body.filter.map (fun groups => .list (groups.map EntityGroup.toWire)) ∧
      body.toWire.field? "order_params" =
        body.orderParams.map (fun orders => .list (orders.map QueryOrder.toWire)) ∧
      body.toWire.field? "query" = some body.query.toWire ∧
      ∀ key ∈ body.toWire.keys,
        key ∈ [Value.text "filter", Value.text "order_params", Value.text "query"] := by
  unfold toWire
  cases body.filter <;> cases body.orderParams <;>
    simp [Value.field?, Value.fields?, Value.keys, sectionField, Fields.set, Fields.get?]

theorem map_filled? {α : Type} (write : α → Value) (items : List α) :
    (filled? items).map (fun items => Value.list (items.map write)) =
      Value.filledList? (items.map write) := by
  cases items <;> rfl

theorem renders_compile (entity : Entity) (guard : OrderGuard) (query : Query) :
    (compile entity guard query).Renders entity guard query := by
  let sent := (query.groups.filterMap (FilterGroup.narrow? entity)).map EntityGroup.wireGroup
  obtain ⟨filter_field, order_field, page_field, keys⟩ :=
    (compile entity guard query).body.field?_toWire
  have nested : sent.map (WireGroup.nest entity.path) =
      (query.groups.map (FilterGroup.reaching entity)).filter fun group => group.2 ≠ [] :=
    FilterGroup.map_nest_filterMap_narrow? entity query.groups
  have filter_section : (compile entity guard query).body.toWire.field? "filter" =
      Value.filledList? (sent.map WireGroup.toValue) := by
    rw [filter_field]
    simp only [compile, compileFilters, map_filled?, sent, List.map_map]
    rfl
  refine ⟨⟨sent, filter_section, nested⟩, ?_, ?_, rfl, page_field, keys⟩
  · have absent : Value.filledList? (sent.map WireGroup.toValue) = none ↔
        sent.map (WireGroup.nest entity.path) = [] := by
      simp [Value.filledList?]
    rw [filter_section, absent, nested]
    simp [List.filter_eq_nil_iff, FilterGroup.reaching]
  · rw [order_field]
    simp only [compile, map_filled?]
    rfl

/-- Compiling a search for an entity that has a name succeeds, a filter is narrowed exactly if it
reaches the entity, and all that reaches it is sent. -/
theorem compile_loses_and_invents_nothing (entity : Entity) (guard : Option OrderGuard)
    (query : Query) :
    (∀ filter : MediaFilter, (filter.narrow? entity).isSome = true ↔ filter.Reaches entity) ∧
      ∃ compiled, compileNamed entity.name guard query = .ok compiled ∧
        compiled.Renders entity (guard.getD entity.orderGuard) query := by
  refine ⟨MediaFilter.isSome_narrow?_iff entity, compile entity _ query, ?_,
    renders_compile entity _ query⟩
  simp only [compileNamed, Entity.ofName?_name]

end SearchBody
end CatalogQuery
