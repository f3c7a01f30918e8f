import CatalogQuery.Proofs.Store.Confinement

/-!
# Writes that turn no page

A store keeps a pagination in either part, and either part can be given another
one by data that names it.  A write that names none leaves the mode and both
paginations as they are (`samePages_apply`), so the pagination of the store stays
what it was, whichever part is selected.
-/

namespace CatalogQuery

namespace QueryParams

/-- Whether a parameter is present that a pagination is read from. -/
def paginates (params : QueryParams) : Bool :=
  Fields.has "cursor" params || Fields.has "limit" params || Fields.has "page" params ||
    Fields.has "page_size" params

/-- The current pagination is kept if no parameter says otherwise. -/
theorem pagination_of_not_paginates {params : QueryParams} (silent : params.paginates = false)
    (current : Pagination) : params.pagination current = .ok current := by
  simp only [paginates, Bool.or_eq_false_iff] at silent
  obtain ⟨⟨⟨cursor, limit⟩, page⟩, pageSize⟩ := silent
  simp [pagination, cursor, limit, page, pageSize]

end QueryParams

/-- Whether an operation touches neither the mode nor a pagination. -/
def StoreWrite.keepsPages : StoreWrite → Bool
  | setMode _ => false
  | patchUrl data => !Fields.has "pagination" data
  | patchBody data => !Fields.has "pagination" data
  | patchBodyWith _ data => !Fields.has "pagination" data
  | setBodyQuery _ _ => true
  | setUrlFilter _ _ => true
  | removeUrlFilter _ => true
  | setPagination _ => false
  | setPage _ => false
  | setPageSize _ => false
  | applyQuery params => !params.paginates

/-- A state in the same mode as another, and at the same page in either part. -/
structure StoreState.SamePages (next state : StoreState) : Prop where
  mode : next.mode = state.mode
  url : next.url.pagination = state.url.pagination
  body : next.body.pagination = state.body.pagination

namespace StoreState

theorem SamePages.refl (state : StoreState) : state.SamePages state := ⟨rfl, rfl, rfl⟩

theorem SamePages.pagination_eq {next state : StoreState} (same : next.SamePages state) :
    next.pagination = state.pagination := by
  unfold pagination
  rw [same.mode, same.url, same.body]

@[simp]
theorem pagination_withPagination (pagination : Pagination) (state : StoreState) :
    (state.withPagination pagination).pagination = pagination := by
  unfold withPagination StoreState.pagination
  cases state.mode <;> simp only

end StoreState

theorem UrlState.pagination_patch {state patched : UrlState} {data : Fields Value}
    (silent : Fields.has "pagination" data = false) (passed : state.patch data = .ok patched) :
    patched.pagination = state.pagination := by
  obtain ⟨⟨filters, ordering, pagination⟩, checked, rfl⟩ :=
    Outcome.map_eq_ok.mp (Checked.of_closed passed)
  rw [Checked.fieldOr_of_absent silent] at checked
  obtain ⟨_, checked⟩ := Checked.both_eq_ok.mp checked
  obtain ⟨_, kept⟩ := Checked.both_eq_ok.mp checked
  exact (Except.ok.inj kept).symm

theorem BodyState.pagination_patch {state patched : BodyState} {data : Fields Value}
    (silent : Fields.has "pagination" data = false) (passed : state.patch data = .ok patched) :
    patched.pagination = state.pagination := by
  obtain ⟨⟨entity, filters, ordering, pagination, total⟩, checked, rfl⟩ :=
    Outcome.map_eq_ok.mp (Checked.of_closed passed)
  rw [Checked.fieldOr_of_absent silent] at checked
  obtain ⟨_, checked⟩ := Checked.both_eq_ok.mp checked
  obtain ⟨_, checked⟩ := Checked.both_eq_ok.mp checked
  obtain ⟨_, checked⟩ := Checked.both_eq_ok.mp checked
  obtain ⟨kept, _⟩ := Checked.both_eq_ok.mp checked
  exact (Except.ok.inj kept).symm

theorem UrlState.pagination_ofQuery {state read : UrlState} {params : QueryParams}
    (silent : params.paginates = false) (made : state.ofQuery params = .ok read) :
    read.pagination = state.pagination := by
  obtain ⟨filters, _, made⟩ := Outcome.bind_eq_ok.mp made
  obtain ⟨ordering, _, made⟩ := Outcome.bind_eq_ok.mp made
  rw [QueryParams.pagination_of_not_paginates silent] at made
  cases made
  rfl

theorem StoreWrite.samePages_of_replacement {write : StoreWrite} {state next : StoreState}
    (keeps : write.keepsPages = true) (replaced : write.replacement state = .ok (some next)) :
    next.SamePages state := by
  cases write with
  | setMode _ | setPagination _ | setPage _ | setPageSize _ => cases keeps
  | patchUrl data =>
      have silent : Fields.has "pagination" data = false := by simpa [keepsPages] using keeps
      obtain ⟨url, patched, made⟩ := Outcome.bind_eq_ok.mp replaced
      cases made
      exact ⟨rfl, UrlState.pagination_patch silent (Checked.reported_eq_ok.mp patched), rfl⟩
  | patchBody data =>
      have silent : Fields.has "pagination" data = false := by simpa [keepsPages] using keeps
      obtain ⟨body, patched, made⟩ := Outcome.bind_eq_ok.mp replaced
      cases made
      exact ⟨rfl, rfl, BodyState.pagination_patch silent (Checked.reported_eq_ok.mp patched)⟩
  | patchBodyWith groups data =>
      have other : Text.ofString "pagination" ≠ Text.ofString "filters" := by
        simp [Text.ofString_inj]
      have silent : Fields.has "pagination" (Fields.erase "filters" data) = false := by
        rw [Fields.has, Fields.get?_erase_of_ne data other, ← Fields.has]
        simpa [keepsPages] using keeps
      obtain ⟨body, patched, made⟩ := Outcome.bind_eq_ok.mp replaced
      have paged := BodyState.pagination_patch silent (Checked.reported_eq_ok.mp patched)
      cases made
      exact ⟨rfl, rfl, paged⟩
  | setBodyQuery groups ordering =>
      cases replaced
      exact ⟨rfl, rfl, rfl⟩
  | setUrlFilter _ _ | removeUrlFilter _ =>
      simp only [replacement] at replaced
      split at replaced <;> cases replaced
      exact ⟨rfl, rfl, rfl⟩
  | applyQuery params =>
      have silent : params.paginates = false := by simpa [keepsPages] using keeps
      obtain ⟨url, read, made⟩ := Outcome.bind_eq_ok.mp replaced
      cases made
      exact ⟨rfl, UrlState.pagination_ofQuery silent read, rfl⟩

namespace Store

variable {store : Store}

/-- Quiet listeners let the state stand that a store is given. -/
theorem state_replace (quiet : store.Quiet) (state : StoreState) :
    (store.replace state).1.state = state := by
  obtain ⟨after, replaced, same⟩ := replace_of_quiet quiet state
  rw [replaced, same]

/-- A write that names no pagination leaves both as they are. -/
theorem samePages_apply (quiet : store.Quiet) {write : StoreWrite}
    (keeps : write.keepsPages = true) :
    (write.apply store).1.state.SamePages store.state := by
  rcases replaced_apply quiet write with same | replaced
  · rw [same]
    exact .refl _
  · exact StoreWrite.samePages_of_replacement keeps replaced

end Store
end CatalogQuery
