import CatalogQuery.Proofs.Store.PageAddress
import CatalogQuery.Proofs.Store.Replacement

/-!
# Names that an address leaves out

What an address says nothing about is completed from the flat part that is shown.  An
ordering, a page, a page size and a limit each stay as they are where their own name is
missing.  The numbering of pages and the cursor do so only in an address that names no
page at all (`absent_names_leave`): beside a page or its size a missing numbering counts
from one, and beside a limit a missing cursor stands for the first page.
-/

namespace CatalogQuery

namespace QueryParams

/-- What a flat part is where parameters leave a name out, if its pages are still
addressed in the same way. -/
structure Leaves (params : QueryParams) (current read : UrlState) : Prop where
  ordering : Fields.has "order_by" params = false → read.ordering = current.ordering
  numbered : ∀ before after, current.pagination = .offset before → read.pagination = .offset after →
    (Fields.has "page" params = false → after.page = before.page) ∧
      (Fields.has "page_size" params = false → after.pageSize = before.pageSize) ∧
        (Fields.has "zero_based" params = false →
          after.zeroBased =
            (before.zeroBased && !Fields.has "page" params && !Fields.has "page_size" params))
  pointed : ∀ before after, current.pagination = .cursor before → read.pagination = .cursor after →
    (Fields.has "limit" params = false → after.limit = before.limit) ∧
      (Fields.has "cursor" params = false →
        after.cursor = if Fields.has "limit" params then none else before.cursor)

variable {params : QueryParams}

theorem get?_of_has {name : Text} (absent : Fields.has name params = false) :
    Fields.get? name params = none := by
  simpa [Fields.has] using absent

theorem ordering_of_absent (absent : Fields.has "order_by" params = false)
    (current : Option QueryOrder) : params.ordering current = .ok current := by
  rw [ordering, first?_of_absent (get?_of_has absent)]
  rfl

theorem naturalOr_of_absent {name : Text} (absent : Fields.has name params = false)
    (current : Nat) : params.naturalOr name current = .ok current := by
  rw [naturalOr, integer?, first?_of_absent (get?_of_has absent)]
  rfl

theorem zeroBased_of_absent (absent : Fields.has "zero_based" params = false) :
    params.zeroBased = .ok false := by
  rw [zeroBased, first?_of_absent (get?_of_has absent)]
  rfl

/-- The three things that a pagination can be read from. -/
inductive Paginates (params : QueryParams) (current : Pagination) : Pagination → Prop where
  | byCursor (given : params.ByCursor) {cursor : Option Text} {limit : Option Count}
      (cursor_read : params.first? "cursor" = .ok cursor)
      (limit_read : params.countOr "limit" some current.limit? = .ok limit) :
      Paginates params current (.cursor ⟨cursor, limit⟩)
  | byNumber (given : params.ByNumber) {page : Nat} {pageSize : Count} {zeroBased : Bool}
      (page_read : params.naturalOr "page" current.numbered.page = .ok page)
      (size_read : params.countOr "page_size" id current.numbered.pageSize = .ok pageSize)
      (numbering : params.zeroBased = .ok zeroBased) :
      Paginates params current (.offset ⟨page, pageSize, zeroBased⟩)
  | neither (pointless : ¬params.ByCursor) (numberless : ¬params.ByNumber) :
      Paginates params current current

theorem paginates_of_pagination {current page : Pagination}
    (read : params.pagination current = .ok page) : params.Paginates current page := by
  unfold pagination at read
  split at read
  · next byCursor =>
    obtain ⟨cursor, cursor_read, read⟩ := Outcome.bind_eq_ok.mp read
    obtain ⟨limit, limit_read, read⟩ := Outcome.bind_eq_ok.mp read
    cases read
    exact .byCursor byCursor cursor_read limit_read
  · next byCursor =>
    split at read
    · next byNumber =>
      obtain ⟨number, page_read, read⟩ := Outcome.bind_eq_ok.mp read
      obtain ⟨size, size_read, read⟩ := Outcome.bind_eq_ok.mp read
      obtain ⟨zeroBased, numbering, read⟩ := Outcome.bind_eq_ok.mp read
      cases read
      cases current <;> exact .byNumber byNumber page_read size_read numbering
    · next byNumber =>
      cases read
      exact .neither byCursor byNumber

theorem leaves_of_ofQuery {current read : UrlState} (made : current.ofQuery params = .ok read) :
    params.Leaves current read := by
  obtain ⟨filters, _, made⟩ := Outcome.bind_eq_ok.mp made
  obtain ⟨order, ordered, made⟩ := Outcome.bind_eq_ok.mp made
  obtain ⟨page, paged, made⟩ := Outcome.bind_eq_ok.mp made
  cases made
  have paginates := paginates_of_pagination paged
  refine ⟨fun absent => ?_, fun before after was is => ?_, fun before after was is => ?_⟩
  · rw [ordering_of_absent absent] at ordered
    exact (Except.ok.inj ordered).symm
  · simp only at is
    rw [was] at paginates
    subst is
    cases paginates with
    | neither pointless numberless =>
        obtain ⟨no_page, no_size⟩ := not_or.mp numberless
        simp [no_page, no_size]
    | byNumber given page_read size_read numbering =>
        refine ⟨fun absent => ?_, fun absent => ?_, fun absent => ?_⟩
        · rw [naturalOr_of_absent absent] at page_read
          exact (Except.ok.inj page_read).symm
        · rw [countOr_of_absent (get?_of_has absent)] at size_read
          exact (Except.ok.inj size_read).symm
        · rw [zeroBased_of_absent absent] at numbering
          rw [← Except.ok.inj numbering]
          rcases given with present | present <;> simp [present]
  · simp only at is
    rw [was] at paginates
    subst is
    cases paginates with
    | neither pointless numberless =>
        obtain ⟨no_cursor, no_limit⟩ := not_or.mp pointless
        simp [no_limit]
    | byCursor given cursor_read limit_read =>
        refine ⟨fun absent => ?_, fun absent => ?_⟩
        · rw [countOr_of_absent (get?_of_has absent)] at limit_read
          exact (Except.ok.inj limit_read).symm
        · have limited : Fields.has "limit" params = true := by
            simpa [ByCursor, absent] using given
          rw [first?_of_absent (get?_of_has absent)] at cursor_read
          rw [limited, if_pos rfl]
          exact (Except.ok.inj cursor_read).symm

end QueryParams

/-- Listeners that write back change filters only. -/
theorem StoreState.exists_after_answer? (heard : List Listener) (state : StoreState) :
    ∃ filters, state.after (Store.answer? heard state).toList =
      { state with url := { state.url with filters } } := by
  cases given : Store.answer? heard state with
  | none => exact ⟨state.url.filters, rfl⟩
  | some answer =>
      obtain ⟨listener, rfl⟩ := Store.exists_of_answer? given
      have free : reservedParam? "nested" = none := by decide
      refine ⟨Fields.set "nested" (.text listener.id) state.url.filters, ?_⟩
      rw [Option.toList_some, after_cons]
      simp only [StoreWrite.replacement, free]
      rfl

namespace Store

/-- Whatever parameters a store takes, the names that are left out leave ordering, page, page
size and limit as they were; the numbering and the cursor only if no page is named.  The
store may have listeners that act in any of the ways of `ListenerAction`: those that write
set a filter, and none of them an ordering or a page. -/
theorem absent_names_leave (store : Store) {params : QueryParams}
    (taken : (store.applyQuery params).2 = .ok ()) :
    params.Leaves store.state.url (store.applyQuery params).1.state.url := by
  cases made : store.state.url.ofQuery params with
  | error failure =>
      have refused : store.applyQuery params = (store, .error failure) := by
        rw [applyQuery, made]
        rfl
      rw [refused] at taken
      cases taken
  | ok read =>
      obtain ⟨filters, answered⟩ :=
        StoreState.exists_after_answer? store.heard { store.state with url := read }
      obtain ⟨ordering, numbered, pointed⟩ := QueryParams.leaves_of_ofQuery made
      rw [(takes_of_ofQuery made).replaces, state_replace_eq, answered]
      exact ⟨ordering, numbered, pointed⟩

/-- The second page of pages that are counted from zero. -/
def countedFromZero : UrlState := ⟨[], none, .offset ⟨1, ⟨50, by decide⟩, true⟩⟩

/-- A page that is reached by its cursor, with a limit. -/
def pointed : UrlState := ⟨[], none, .cursor ⟨some "c4", some ⟨10, by decide⟩⟩⟩

/-- A page without a size keeps the size. -/
theorem page_size_left :
    let params := QueryParams.ofText "page=3"
    ((showing countedFromZero).applyQuery params).2 = .ok () ∧
      ∀ after, ((showing countedFromZero).applyQuery params).1.state.url.pagination =
        .offset after → after.pageSize = ⟨50, by decide⟩ ∧ after.zeroBased = false := by
  intro params
  have taken : ((showing countedFromZero).applyQuery params).2 = .ok () := by decide +kernel
  have sizeless : Fields.has "page_size" params = false := by decide +kernel
  have numberless : Fields.has "zero_based" params = false := by decide +kernel
  have paged : Fields.has "page" params = true := by decide +kernel
  refine ⟨taken, fun after is => ?_⟩
  obtain ⟨-, size, numbering⟩ := (absent_names_leave _ taken).numbered _ after rfl is
  refine ⟨size sizeless, ?_⟩
  rw [numbering numberless, paged]
  rfl

/-- A page in the address has the pages counted from one, and a limit in the address leads
to the first page, although nothing in the address says so. -/
theorem numbering_and_cursor_lost :
    Fields.has "zero_based" (QueryParams.ofText "page=3") = false ∧
      ((showing countedFromZero).applyQuery (QueryParams.ofText "page=3")).2 = .ok () ∧
      ((showing countedFromZero).applyQuery (QueryParams.ofText "page=3")).1.state.url.pagination =
        .offset ⟨3, ⟨50, by decide⟩, false⟩ ∧
      Fields.has "cursor" (QueryParams.ofText "limit=15") = false ∧
      ((showing pointed).applyQuery (QueryParams.ofText "limit=15")).2 = .ok () ∧
      ((showing pointed).applyQuery (QueryParams.ofText "limit=15")).1.state.url.pagination =
        .cursor ⟨none, some ⟨15, by decide⟩⟩ := by
  refine ⟨?_, ?_, ?_, ?_, ?_, ?_⟩ <;> decide +kernel

end Store
end CatalogQuery
