import CatalogQuery.Proofs.Validation.Checks
import CatalogQuery.Store

/-!
# New stores

A store is created if a page size is known, and the page of that size, the entity and the
mode pass their checks (`create_eq_ok_iff`).  Both of its parts are then at that page, and
nobody listens to it.
-/

namespace CatalogQuery
namespace Store

variable {size : Outcome Int} {setup : StoreSetup} {store : Store}

theorem create_eq_ok_iff :
    create size setup = .ok store ↔
      ∃ pageSize request entity mode,
        openingSize size setup = .ok pageSize ∧
          openingPage pageSize = .ok (.offset request) ∧
          Checked.word Entity.named (.text setup.entity) = .ok entity ∧
          checkMode setup.mode = .ok mode ∧
          store = ⟨⟨mode, ⟨Fields.ofPairs setup.url, none, .offset request⟩,
            ⟨entity, setup.body, none, .offset request, none⟩⟩, [], [], []⟩ := by
  constructor
  · intro creates
    obtain ⟨pageSize, sized, creates⟩ := Outcome.bind_eq_ok.mp creates
    obtain ⟨first, paged, creates⟩ := Outcome.bind_eq_ok.mp creates
    obtain ⟨body, made, creates⟩ := Outcome.bind_eq_ok.mp creates
    obtain ⟨mode, moded, creates⟩ := Outcome.bind_eq_ok.mp creates
    obtain ⟨request, _, rfl⟩ := Outcome.map_eq_ok.mp paged
    obtain ⟨entity, named, rfl⟩ := Outcome.map_eq_ok.mp (Checked.reported_eq_ok.mp made)
    cases creates
    exact ⟨pageSize, request, entity, mode, sized, paged, Checked.inField_eq_ok.mp named, moded,
      rfl⟩
  · rintro ⟨pageSize, request, entity, mode, sized, paged, named, moded, rfl⟩
    have made : openingBody setup (.offset request) =
        .ok ⟨entity, setup.body, none, .offset request, none⟩ := by
      refine Checked.reported_eq_ok.mpr (Outcome.map_eq_ok.mpr ⟨entity, ?_, rfl⟩)
      exact Checked.inField_eq_ok.mpr named
    unfold create
    rw [sized, Outcome.bind_eq_ok]
    refine ⟨pageSize, rfl, ?_⟩
    rw [paged, Outcome.bind_eq_ok]
    refine ⟨_, rfl, ?_⟩
    rw [made, moded]
    rfl

/-- A new store has no listeners, and is at a page that is requested by its number. -/
theorem opened_of_create (creates : create size setup = .ok store) :
    store.listeners = [] ∧ ∃ request, store.state.url.pagination = .offset request := by
  obtain ⟨_, request, _, _, -, -, -, -, rfl⟩ := create_eq_ok_iff.mp creates
  exact ⟨rfl, request, rfl⟩

/-- Both parts of a new store are at the first page of the default size, if no other
size is given. -/
theorem openingPage_of_create (creates : create size setup = .ok store)
    (plain : setup.pageSize.isEmpty = true) :
    ∃ items, size = .ok items ∧ openingPage (.int items) = .ok store.state.pagination := by
  obtain ⟨_, request, _, mode, sized, paged, -, -, rfl⟩ := create_eq_ok_iff.mp creates
  rw [openingSize, if_pos plain] at sized
  obtain ⟨items, given, rfl⟩ := Outcome.map_eq_ok.mp sized
  refine ⟨items, given, ?_⟩
  rw [paged, StoreState.pagination]
  cases mode <;> rfl

theorem filters_of_create (creates : create size setup = .ok store) :
    store.state.url.filters = Fields.ofPairs setup.url := by
  obtain ⟨_, _, _, _, -, -, -, -, rfl⟩ := create_eq_ok_iff.mp creates
  rfl

theorem selected_of_create (creates : create size setup = .ok store) :
    checkMode setup.mode = .ok store.state.mode ∧
      Checked.word Entity.named (.text setup.entity) = .ok store.state.body.entity := by
  obtain ⟨_, _, _, _, -, -, named, moded, rfl⟩ := create_eq_ok_iff.mp creates
  exact ⟨moded, named⟩

/-- A new store for media in the flat mode, with the page size of the settings. -/
def plainSetup : StoreSetup := ⟨"media", .text "url", .null, [], none⟩

end Store
end CatalogQuery
