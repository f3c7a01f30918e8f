import CatalogQuery.Proofs.Store.Address
import CatalogQuery.Proofs.Store.Opening
import CatalogQuery.Proofs.Store.Paging
import CatalogQuery.Proofs.Text.Numeral

/-!
# Pages in the address bar

A page is read back from the query parameters that it was written as
(`page_read_back_from_address`).  Which names are there tells how the page is addressed:
a page or its size stands for a page by number, and a cursor or a limit for a page by
cursor.  A page by cursor that has neither has no parameters, so it cannot be told from
no page at all (`unwritten_cursor_page`).
-/

namespace CatalogQuery

/-- The numbers of a page have no more digits than are read from a text. -/
def Pagination.Legible : Pagination → Prop
  | .offset request => Text.Legible request.page ∧ Text.Legible request.pageSize.val
  | .cursor request => ∀ limit ∈ request.limit, Text.Legible limit.val

namespace QueryParams

open UrlState (paramText written pageNames)

variable {params : QueryParams} {name : Text}

theorem first?_of_get? {text : Text} {rest : List Text}
    (found : Fields.get? name params = some (text :: rest)) :
    params.first? name = .ok (some text) := by
  rw [first?, found]

theorem first?_of_absent (absent : Fields.get? name params = none) :
    params.first? name = .ok none := by
  rw [first?, absent]

section Number

variable {n : Nat} (legible : Text.Legible n)
  (found : Fields.get? name params = some [paramText (.int n)])

include legible found

theorem integer?_of_number : params.integer? name = .ok (some (n : Int)) := by
  have text : paramText (.int n) = Text.ofString (toString n) := rfl
  rw [integer?, first?_of_get? found, text]
  simp only [bind, Except.bind, Option.bind, Text.string?_ofString, Text.integer?_toString legible]

theorem naturalOr_of_number (current : Nat) : params.naturalOr name current = .ok n := by
  rw [naturalOr, integer?_of_number legible found]
  simp [bind, Except.bind]

theorem countOr_of_number {α : Type} (wrap : Count → α) (current : α) (positive : 1 ≤ n) :
    params.countOr name wrap current = .ok (wrap ⟨n, positive⟩) := by
  rw [countOr, integer?_of_number legible found]
  simp [bind, Except.bind, positive]

end Number

theorem countOr_of_absent {α : Type} (absent : Fields.get? name params = none) (wrap : Count → α)
    (current : α) : params.countOr name wrap current = .ok current := by
  rw [countOr, integer?, first?_of_absent absent]
  rfl

/-- The pagination is read from the names that it is written under. -/
theorem pagination_congr {other : QueryParams}
    (same : ∀ name ∈ pageNames, Fields.get? name params = Fields.get? name other)
    (current : Pagination) : params.pagination current = other.pagination current := by
  unfold pagination naturalOr countOr integer? zeroBased first? Fields.has
  rw [same "page" (by decide), same "page_size" (by decide), same "zero_based" (by decide),
    same "cursor" (by decide), same "limit" (by decide)]

end QueryParams

namespace UrlState

variable {state : UrlState}

theorem pagination_written_offset {request : OffsetPagination}
    (legible : (Pagination.offset request).Legible) (current : Pagination) :
    (written (Pagination.offset request).toFields).pagination current = .ok (.offset request) := by
  obtain ⟨page, size, zero⟩ := request
  obtain ⟨page_legible, size_legible⟩ := legible
  generalize params_eq : written (Pagination.offset ⟨page, size, zero⟩).toFields = params
  obtain ⟨page_found, size_found, numbering, no_cursor, no_limit⟩ :
      Fields.get? "page" params = some [paramText (.int page)] ∧
        Fields.get? "page_size" params = some [paramText (.int size.val)] ∧
          params.zeroBased = .ok zero ∧ Fields.get? "cursor" params = none ∧
            Fields.get? "limit" params = none := by
    subst params
    cases zero <;> exact ⟨rfl, rfl, rfl, rfl, rfl⟩
  unfold QueryParams.pagination
  rw [if_neg (by simp [Fields.has, no_cursor, no_limit]), if_pos (by simp [Fields.has, page_found])]
  simp only [QueryParams.naturalOr_of_number page_legible page_found,
    QueryParams.countOr_of_number size_legible size_found _ _ size.property, numbering]
  rfl

theorem get?_cursor_written (cursor : Option Text) (limit : Option Count) :
    Fields.get? "cursor" (written (Pagination.cursor ⟨cursor, limit⟩).toFields) =
      cursor.map ([·]) := by
  cases cursor <;> cases limit <;> rfl

theorem get?_limit_written (cursor : Option Text) (limit : Option Count) :
    Fields.get? "limit" (written (Pagination.cursor ⟨cursor, limit⟩).toFields) =
      limit.map fun limit => [paramText (.int limit.val)] := by
  cases cursor <;> cases limit <;> rfl

/-- A page by cursor is read back if the parameters show that it is one. -/
theorem pagination_written_cursor {request : CursorPagination}
    (legible : (Pagination.cursor request).Legible) (shown : request ≠ ⟨none, none⟩)
    {current : Pagination} (unlimited : current.limit? = none) :
    (written (Pagination.cursor request).toFields).pagination current = .ok (.cursor request) := by
  obtain ⟨cursor, limit⟩ := request
  have cursor_found := get?_cursor_written cursor limit
  have limit_found := get?_limit_written cursor limit
  generalize written (Pagination.cursor ⟨cursor, limit⟩).toFields = params
    at cursor_found limit_found ⊢
  apply QueryParams.pagination_of_cursor
  · rw [QueryParams.ByCursor, Fields.has, Fields.has, cursor_found, limit_found]
    cases cursor <;> cases limit <;> simp at shown ⊢
  · cases cursor with
    | none => exact QueryParams.first?_of_absent cursor_found
    | some cursor => exact QueryParams.first?_of_get? cursor_found
  · cases limit with
    | none => rw [QueryParams.countOr_of_absent limit_found, unlimited]
    | some limit => exact QueryParams.countOr_of_number (legible limit rfl) limit_found _ _ _

theorem get?_toQuery_page (addressable : state.Addressable) (page : Pagination) {name : Text}
    (paged : name ∈ pageNames) :
    Fields.get? name (state.toQuery page) = Fields.get? name (written page.toFields) := by
  have foreign : ∀ name ∈ pageNames, reservedParam? name ≠ none ∧ name ∉ orderNames := by decide
  obtain ⟨reserved, unordered⟩ := foreign name paged
  have absent : Fields.get? name (written state.orderFields) = none :=
    Fields.get?_eq_none_iff.mpr fun named =>
      unordered (((names_written _).trans (names_orderFields state)).subset named)
  rw [get?_toQuery addressable page name reserved, ownFields, written_append, Fields.get?_append,
    absent]
  rfl

/-- The pagination of an address is the one that it was written from.  A page by cursor
with neither a cursor nor a limit has no parameters, and leaves the current one. -/
theorem pagination_toQuery (addressable : state.Addressable) {page : Pagination}
    (legible : page.Legible) {current : Pagination} (unlimited : current.limit? = none) :
    (state.toQuery page).pagination current =
      .ok (if page = .cursor ⟨none, none⟩ then current else page) := by
  rw [QueryParams.pagination_congr fun name paged => get?_toQuery_page addressable page paged]
  split
  · next blank =>
    subst blank
    exact QueryParams.pagination_of_not_paginates rfl current
  · next shown =>
    cases page with
    | offset request => exact pagination_written_offset legible current
    | cursor request =>
        exact pagination_written_cursor legible (fun blank => shown (by rw [blank])) unlimited

end UrlState

namespace Store

/-- Pagination in the address bar.  A new store of any page size that reads the
parameters of a store with a page is then at that page; only the page by cursor with
neither a cursor nor a limit leaves the new store at its own first page. -/
theorem page_read_back_from_address (source : Store)
    (addressable : source.state.url.Addressable) {page : Pagination} (legible : page.Legible)
    {size : Outcome Int} {setup : StoreSetup} {fresh : Store}
    (creates : create size setup = .ok fresh) :
    ∃ after, fresh.applyQuery (source.queryParams (some page)) = (after, .ok ()) ∧
      after.state.url.pagination =
        if page = .cursor ⟨none, none⟩ then fresh.state.url.pagination else page := by
  obtain ⟨silent, first, paged⟩ := opened_of_create creates
  have quiet : fresh.Quiet := by
    intro listener member
    simp [silent] at member
  obtain ⟨read, known, -, -, pagination⟩ :=
    UrlState.ofQuery_toQuery addressable page fresh.state.url
  obtain ⟨after, applied, ends⟩ := (takes_of_ofQuery known).ends quiet
  refine ⟨after, applied, ?_⟩
  have unlimited : fresh.state.url.pagination.limit? = none := by rw [paged, Pagination.limit?]
  rw [UrlState.pagination_toQuery addressable legible unlimited] at pagination
  rw [ends]
  exact (Except.ok.inj pagination).symm

theorem third_page_read_back :
    mixedFilters.Addressable ∧ (Pagination.offset ⟨3, ⟨50, by decide⟩, true⟩).Legible ∧
      ∃ fresh after, create (.ok 20) plainSetup = .ok fresh ∧
        fresh.applyQuery ((showing mixedFilters).queryParams
          (some (.offset ⟨3, ⟨50, by decide⟩, true⟩))) = (after, .ok ()) ∧
        after.state.url.pagination = .offset ⟨3, ⟨50, by decide⟩, true⟩ := by
  have addressable : mixedFilters.Addressable := ⟨by decide, by decide⟩
  have legible : (Pagination.offset ⟨3, ⟨50, by decide⟩, true⟩).Legible :=
    ⟨by decide, by decide⟩
  obtain ⟨fresh, creates⟩ : ∃ fresh, create (.ok 20) plainSetup = .ok fresh := ⟨_, rfl⟩
  obtain ⟨after, applied, paged⟩ :=
    page_read_back_from_address (showing mixedFilters) addressable legible creates
  exact ⟨addressable, legible, fresh, after, creates, applied, paged⟩

/-- A page by cursor without a cursor or a limit is the first page by cursor, but is
not written: a new store stays at its page by number. -/
theorem unwritten_cursor_page :
    ∃ fresh, create (.ok 20) plainSetup = .ok fresh ∧
      (showing ⟨[], none, .default⟩).state.url.Addressable ∧
      (Pagination.cursor ⟨none, none⟩).Legible ∧
      (fresh.applyQuery ((showing ⟨[], none, .default⟩).queryParams
        (some (.cursor ⟨none, none⟩)))).1.state.url.pagination ≠ .cursor ⟨none, none⟩ := by
  have legible : (Pagination.cursor ⟨none, none⟩).Legible := by
    intro limit given
    cases given
  refine ⟨_, rfl, ⟨by decide, by decide⟩, legible, ?_⟩
  decide +kernel

end Store
end CatalogQuery
