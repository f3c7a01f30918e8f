import CatalogQuery.Filter.Group
import CatalogQuery.Proofs.Filter.Reading

/-!
# Wire forms read back

The wire form of a smart filter is read as the very same smart filter
(`read_back_from_wire`), and the form in which it is saved as the one without
its empty groups: filters, groups and joiners each come back at their own level.
-/

namespace CatalogQuery

/-! ## Filters -/

theorem LibraryFilter.check_toWire (filter : LibraryFilter) : check filter.toWire = .ok filter := by
  cases filter with
  | text field predicate =>
      exact (EntityFilter.library (text field predicate)).readFrom_field predicate.check_toWire
  | updatedAt predicate =>
      exact (EntityFilter.library (updatedAt predicate)).readFrom_field predicate.check_toWire

theorem SeriesMetadataFilter.check_toWire (filter : SeriesMetadataFilter) :
    check filter.toWire = .ok filter := by
  cases filter with
  | text field predicate =>
      exact (EntityFilter.seriesMetadata (text field predicate)).readFrom_field
        predicate.check_toWire
  | number field predicate =>
      exact (EntityFilter.seriesMetadata (number field predicate)).readFrom_field
        predicate.check_toWire

theorem SeriesFilter.check_toWire (filter : SeriesFilter) : check filter.toWire = .ok filter := by
  cases filter with
  | text field predicate =>
      exact (EntityFilter.series (text field predicate)).readFrom_field predicate.check_toWire
  | metadata inner =>
      exact (EntityFilter.series (metadata inner)).readFrom_field inner.check_toWire
  | library inner =>
      exact (EntityFilter.series (library inner)).readFrom_field inner.check_toWire

theorem MediaMetadataFilter.check_toWire (filter : MediaMetadataFilter) :
    check filter.toWire = .ok filter := by
  cases filter with
  | text field predicate =>
      exact (EntityFilter.mediaMetadata (text field predicate)).readFrom_field
        predicate.check_toWire
  | number field predicate =>
      exact (EntityFilter.mediaMetadata (number field predicate)).readFrom_field
        predicate.check_toWire

theorem MediaFilter.check_toWire (filter : MediaFilter) : check filter.toWire = .ok filter := by
  cases filter with
  | text field predicate =>
      exact (EntityFilter.media (text field predicate)).readFrom_field predicate.check_toWire
  | metadata inner =>
      exact (EntityFilter.media (metadata inner)).readFrom_field inner.check_toWire
  | series inner =>
      exact (EntityFilter.media (series inner)).readFrom_field inner.check_toWire

/-! ## Groups -/

theorem Checked.items_map {α β : Type} {check : β → Checked α} {write : α → β}
    (read : ∀ x, check (write x) = .ok x) (xs : List α) (place : Nat) :
    items check place (xs.map write) = .ok xs := by
  induction xs generalizing place with
  | nil => rfl
  | cons first rest ih => simp [items, read, under, ih, both, Except.map]

namespace FilterGroup

/-- A list of wire forms lists the filters, also if there are none. -/
theorem ofFilters_map_toWire (joiner : GroupJoiner) (filters : List MediaFilter) :
    ofFilters joiner (.list (filters.map MediaFilter.toWire)) = .ok ⟨joiner, filters⟩ := by
  cases filters with
  | nil => rfl
  | cons first rest =>
      have read : Checked.list MediaFilter.check
          (.list ((first :: rest).map MediaFilter.toWire)) = .ok (first :: rest) :=
        Checked.items_map MediaFilter.check_toWire _ 0
      have filled : Value.isEmpty (.list ((first :: rest).map MediaFilter.toWire)) = false := rfl
      simp only [ofFilters, filled, read, Checked.inField, Checked.under, Except.map,
        Checked.reported, Bool.false_eq_true, if_false]

/-- The only key of a wire form is its joiner. -/
theorem ofWire_toWire (group : FilterGroup) : ofWire group.toWire = .ok group := by
  obtain ⟨joiner, filters⟩ := group
  let wires : Value := .list (filters.map MediaFilter.toWire)
  have holds (other : GroupJoiner) :
      (Listing.fields [((joiner.key : Text), wires)]).holds other.key =
        decide (joiner.key = other.key) := by
    by_cases same : joiner.key = other.key <;>
      simp [Listing.holds, Fields.has, Fields.get?, same]
  have keyed :
      GroupJoiner.all.filter (fun other => decide (joiner.key = other.key)) = [joiner] := by
    cases joiner <;> rfl
  have read : ofFilters joiner wires = .ok ⟨joiner, filters⟩ :=
    ofFilters_map_toWire joiner filters
  simp [ofWire, toWire, Listing.ofValue?, holds, keyed, Listing.toList, Value.field?,
    Value.fields?, Fields.get?, wires, read]

end FilterGroup

namespace SmartFilter

theorem namedJoiner_word (joiner : FilterJoiner) :
    namedJoiner (some (.text joiner.word)) = .ok joiner := by
  cases joiner <;> rfl

theorem mapM_ofWire (groups : List FilterGroup) :
    (groups.map FilterGroup.toWire).mapM FilterGroup.ofWire = .ok groups := by
  induction groups with
  | nil => rfl
  | cons first rest ih =>
      simp [FilterGroup.ofWire_toWire, ih, bind, Except.bind, pure, Except.pure]

/-- A list of wire forms lists the groups, also if there are none. -/
theorem listedGroups_map_toWire (groups : List FilterGroup) :
    listedGroups (some (.list (groups.map FilterGroup.toWire))) =
      .ok (groups.map FilterGroup.toWire) := by
  cases groups <;> rfl

theorem ofWire_wireOf (groups : List FilterGroup) (joiner : FilterJoiner) :
    ofWire (wireOf groups joiner) = .ok ⟨groups, joiner⟩ := by
  have listed := listedGroups_map_toWire groups
  have read := mapM_ofWire groups
  have named := namedJoiner_word joiner
  simp [ofWire, wireOf, Fields.get?, listed, read, named, Checked.reported, bind, Except.bind]

/-- A smart filter is read back from its wire form, and from the form in which it is
saved up to the groups that have no filters. -/
theorem read_back_from_wire (filter : SmartFilter) :
    ofWire filter.toWire = .ok filter ∧
      ofWire filter.toSavedWire =
        .ok { filter with groups := filter.groups.filter fun group => group.filters ≠ [] } := by
  have filled : filter.groups.filter (fun group => !group.filters.isEmpty) =
      filter.groups.filter fun group => group.filters ≠ [] := by
    apply List.filter_congr
    intro group _
    cases group.filters <;> rfl
  refine ⟨ofWire_wireOf filter.groups filter.joiner, ?_⟩
  rw [← filled]
  exact ofWire_wireOf _ filter.joiner

end SmartFilter
end CatalogQuery
