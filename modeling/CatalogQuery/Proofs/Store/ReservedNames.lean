import CatalogQuery.Proofs.Store.Content
import CatalogQuery.Proofs.Store.Isolation
import CatalogQuery.Proofs.Store.PageAddress

/-!
# Filters under reserved names

A filter that is set by its name is refused if the name is reserved, and parameters under
reserved names are never read as filters.  The filters that a store is opened with, and
those that are merged into its flat part, are not checked, so they may have reserved
names.  What a store holds under reserved names follows from these two alone
(`StoreEvent.leaked`), and is written to the address wherever ordering and pagination leave
the name free (`reserved_toQuery`).
-/

namespace CatalogQuery

/-- The entries whose names are reserved. -/
def Fields.reserved {α : Type} (fields : Fields α) : Fields α :=
  fields.filter fun entry => (reservedParam? entry.1).isSome

namespace StoreWrite

/-- The filters under reserved names after a write.  Data that is merged is checked for its
form only. -/
def leaked (held : Fields Value) : StoreWrite → Fields Value
  | patchUrl data =>
      match UrlState.patch data ⟨held, none, .default⟩ with
      | .ok patched => Fields.reserved patched.filters
      | .error _ => held
  | removeUrlFilter name => Fields.erase name held
  | applyQuery params =>
      match UrlState.ofQuery params ⟨held, none, .default⟩ with
      | .ok _ => []
      | .error _ => held
  | _ => held

/-- Whether a write merges no filters under reserved names. -/
def MergesNone : StoreWrite → Prop
  | patchUrl data => ∀ value filters, Fields.get? "filters" data = some value →
      value.fields? = some filters → Fields.reserved filters = []
  | _ => True

end StoreWrite

namespace StoreEvent

/-- The filters under reserved names after an event. -/
def leaked (held : Fields Value) : StoreEvent → Fields Value
  | write made => made.leaked held
  | _ => held

/-- Whether an event merges no filters under reserved names. -/
def MergesNone : StoreEvent → Prop
  | write made => made.MergesNone
  | _ => True

end StoreEvent

namespace Fields

variable {α : Type}

theorem reserved_eq_nil_iff {fields : Fields α} :
    reserved fields = [] ↔ ∀ name ∈ names fields, reservedParam? name = none := by
  simp [reserved, names]

@[simp]
theorem reserved_reserved (fields : Fields α) : reserved (reserved fields) = reserved fields := by
  simp [reserved]

theorem reserved_set_of_free {name : Text} (free : reservedParam? name = none) (value : α)
    (fields : Fields α) : reserved (set name value fields) = reserved fields := by
  induction fields with
  | nil => simp [reserved, set, free]
  | cons entry rest ih =>
      obtain ⟨key, old⟩ := entry
      by_cases same : key = name
      · simp [reserved, set, same, free]
      · simp only [reserved] at ih
        simp [reserved, set, same, List.filter_cons, ih]

theorem reserved_set {name : Text} (taken : (reservedParam? name).isSome) (value : α)
    (fields : Fields α) : reserved (set name value fields) = set name value (reserved fields) := by
  induction fields with
  | nil => simp [reserved, set, taken]
  | cons entry rest ih =>
      obtain ⟨key, old⟩ := entry
      simp only [reserved] at ih
      by_cases same : key = name
      · simp [reserved, set, same, taken]
      · by_cases kept : (reservedParam? key).isSome <;>
          simp [reserved, set, same, kept, ih]

theorem reserved_setAll {pairs : Fields α}
    (taken : ∀ name ∈ names pairs, reservedParam? name ≠ none) (fields : Fields α) :
    reserved (setAll fields pairs) = setAll (reserved fields) pairs := by
  induction pairs generalizing fields with
  | nil => rfl
  | cons pair rest ih =>
      obtain ⟨first, later⟩ := List.forall_mem_cons.mp taken
      calc reserved (setAll fields (pair :: rest))
          = setAll (reserved (set pair.1 pair.2 fields)) rest := ih later _
        _ = setAll (reserved fields) (pair :: rest) := by
          rw [reserved_set (Option.isSome_iff_ne_none.mpr first)]
          rfl

theorem reserved_setAll_of_free {pairs : Fields α} (free : reserved pairs = [])
    (fields : Fields α) : reserved (setAll fields pairs) = reserved fields := by
  rw [reserved_eq_nil_iff] at free
  induction pairs generalizing fields with
  | nil => rfl
  | cons pair rest ih =>
      obtain ⟨first, later⟩ := List.forall_mem_cons.mp free
      calc reserved (setAll fields (pair :: rest))
          = reserved (set pair.1 pair.2 fields) := ih later _
        _ = reserved fields := reserved_set_of_free first _ _

theorem reserved_erase (name : Text) (fields : Fields α) :
    reserved (erase name fields) = erase name (reserved fields) := by
  simp only [reserved, erase, List.filter_filter, Bool.and_comm]

theorem erase_of_absent {name : Text} {fields : Fields α} (absent : has name fields = false) :
    erase name fields = fields := by
  have unnamed : name ∉ names fields := get?_eq_none_iff.mp (by simpa [has] using absent)
  refine List.filter_eq_self.mpr fun entry member => ?_
  have other : entry.1 ≠ name := fun same => unnamed (same ▸ List.mem_map_of_mem member)
  simpa using other

theorem get?_reserved {name : Text} (taken : (reservedParam? name).isSome) (fields : Fields α) :
    get? name (reserved fields) = get? name fields := by
  induction fields with
  | nil => rfl
  | cons entry rest ih =>
      obtain ⟨key, value⟩ := entry
      simp only [reserved] at ih
      by_cases same : key = name
      · simp [reserved, get?, same, taken]
      · by_cases kept : (reservedParam? key).isSome <;>
          simp [reserved, get?, same, kept, ih]

end Fields

namespace QueryParams

theorem reserved_add (name text : Text) (params : QueryParams) :
    Fields.reserved (add name text params) =
      if (reservedParam? name).isSome then add name text (Fields.reserved params)
      else Fields.reserved params := by
  split
  · rename_i taken
    rw [add, add, Fields.reserved_set taken, Fields.get?_reserved taken]
  · rename_i free
    exact Fields.reserved_set_of_free (by simpa using free) _ _

theorem reserved_ofPairs (pairs : List (Text × Text)) :
    Fields.reserved (ofPairs pairs) = ofPairs (Fields.reserved pairs) := by
  have collected (params : QueryParams) :
      Fields.reserved (pairs.foldl (fun params pair => add pair.1 pair.2 params) params) =
        (Fields.reserved pairs).foldl (fun params pair => add pair.1 pair.2 params)
          (Fields.reserved params) := by
    induction pairs generalizing params with
    | nil => rfl
    | cons pair rest ih =>
        rw [List.foldl_cons, ih, reserved_add]
        by_cases taken : (reservedParam? pair.1).isSome <;>
          simp [Fields.reserved, taken]
  exact collected []

end QueryParams

namespace StoreWrite

theorem leaked_of_mergesNone {write : StoreWrite} (merges : write.MergesNone) :
    write.leaked [] = [] := by
  cases write with
  | patchUrl data =>
      simp only [leaked]
      cases patched : UrlState.patch data ⟨[], none, .default⟩ with
      | error issues => rfl
      | ok url =>
          obtain ⟨⟨filters, _⟩, checked, rfl⟩ :=
            Outcome.map_eq_ok.mp (Checked.of_closed patched)
          obtain ⟨given, -⟩ := Checked.both_eq_ok.mp checked
          unfold Checked.fieldOr at given
          cases named : Fields.get? "filters" data with
          | none =>
              simp only [named] at given
              cases given
              rfl
          | some value =>
              simp only [named, Checked.inField_eq_ok] at given
              unfold Checked.fieldsOf at given
              split at given
              · rename_i fields object
                cases given
                exact merges value _ named object
              · cases given
  | removeUrlFilter name => rfl
  | applyQuery params =>
      simp only [leaked]
      split <;> rfl
  | _ => rfl

end StoreWrite

namespace UrlState

/-- The pairs of a name and one of the texts of its value. -/
def pairs (fields : Fields Value) : List (Text × Text) :=
  fields.flatMap fun (name, value) => (paramTexts value).map (name, ·)

theorem reserved_pairs (fields : Fields Value) :
    Fields.reserved (pairs fields) = pairs (Fields.reserved fields) := by
  induction fields with
  | nil => rfl
  | cons entry rest ih =>
      obtain ⟨name, value⟩ := entry
      have split : pairs ((name, value) :: rest) = (paramTexts value).map (name, ·) ++ pairs rest :=
        rfl
      have appended : Fields.reserved (pairs ((name, value) :: rest)) =
          Fields.reserved ((paramTexts value).map (name, ·)) ++ Fields.reserved (pairs rest) := by
        rw [split, Fields.reserved, List.filter_append]
        rfl
      rw [appended, ih]
      cases taken : reservedParam? name with
      | some _ =>
          have kept : Fields.reserved ((paramTexts value).map (name, ·)) =
              (paramTexts value).map (name, ·) :=
            List.filter_eq_self.mpr (by simp [taken])
          rw [kept]
          simp [Fields.reserved, pairs, taken]
      | none =>
          have dropped : Fields.reserved ((paramTexts value).map (name, ·)) = [] :=
            List.filter_eq_nil_iff.mpr (by simp [taken])
          rw [dropped]
          simp [Fields.reserved, pairs, taken]

theorem reserved_params (page : Pagination) (state : UrlState) :
    Fields.reserved (state.params page) =
      UrlState.params page { state with filters := Fields.reserved state.filters } := by
  have owned (name : Text) (own : name ∈ Fields.names (state.ownFields page)) :
      reservedParam? name ≠ none :=
    reserved_of_mem_ownFields own
  simp only [ownFields, orderFields, Fields.names_append, List.mem_append] at owned
  unfold params
  rw [Fields.reserved_setAll fun name own => owned name (Or.inr own)]
  cases ordered : state.ordering with
  | none => rfl
  | some order =>
      simp only [ordered] at owned
      simp only [Fields.reserved_setAll fun name own => owned name (Or.inl own)]

/-- What is written under reserved names: ordering and pagination, and the filters that
have such names. -/
theorem reserved_toQuery (page : Pagination) (state : UrlState) :
    Fields.reserved (state.toQuery page) =
      UrlState.toQuery page { state with filters := Fields.reserved state.filters } := by
  have paired (state : UrlState) :
      state.toQuery page = QueryParams.ofPairs (pairs (state.params page)) := rfl
  rw [paired, paired, QueryParams.reserved_ofPairs, reserved_pairs, reserved_params]

/-- Flat parts that hold the same filters under reserved names. -/
def SameReserved (state other : UrlState) : Prop :=
  Fields.reserved state.filters = Fields.reserved other.filters

theorem sameReserved_patch {state other : UrlState} (same : state.SameReserved other)
    (data : Fields Value) : Alike SameReserved (state.patch data) (other.patch data) := by
  have filters : Alike (fun first second => Fields.reserved first = Fields.reserved second)
      (Checked.fieldOr "filters" state.filters Checked.fieldsOf data)
      (Checked.fieldOr "filters" other.filters Checked.fieldsOf data) := by
    unfold Checked.fieldOr
    split
    · exact (Alike.same _).mono fun _ _ given => congrArg Fields.reserved given
    · exact .ok same
  refine (Alike.map (.both filters (.both (Checked.alike_fieldOr _ _ _ _ _)
    (Checked.alike_fieldOr _ _ _ _ _))) ?_).closed _ _
  rintro ⟨filters, _⟩ ⟨filters', _⟩ ⟨given, -⟩
  exact given

theorem readable_ofQuery (params : QueryParams) (state other : UrlState) :
    Alike (fun _ _ => True) (state.ofQuery params) (other.ofQuery params) := by
  have ordered : Alike (fun _ _ => True) (params.ordering state.ordering)
      (params.ordering other.ordering) := by
    refine .bind (.same _) ?_
    rintro field _ rfl
    cases field with
    | none => exact .ok trivial
    | some field => exact (Alike.same _).mono fun _ _ _ => trivial
  refine .bind (.same _) fun filters _ _ => ?_
  refine .bind ordered fun ordering _ _ => ?_
  exact .bind (params.alike_pagination _ _) fun _ _ _ => .ok trivial

theorem reserved_of_mapM {named : Fields (List Text)} {read : Fields Value}
    (free : Fields.reserved named = [])
    (made : named.mapM (fun entry => do
      .ok (entry.1, ← QueryParams.filterValue entry.2) : Text × List Text → Outcome _) =
        .ok read) : Fields.reserved read = [] := by
  induction named generalizing read with
  | nil =>
      cases made
      rfl
  | cons entry rest ih =>
      rw [List.mapM_cons] at made
      obtain ⟨first, filtered, made⟩ := Outcome.bind_eq_ok.mp made
      obtain ⟨value, _, filtered⟩ := Outcome.bind_eq_ok.mp filtered
      obtain ⟨others, later, made⟩ := Outcome.bind_eq_ok.mp made
      cases filtered
      cases made
      rw [Fields.reserved_eq_nil_iff] at free ih ⊢
      obtain ⟨first, others⟩ := List.forall_mem_cons.mp free
      exact List.forall_mem_cons.mpr ⟨first, Fields.reserved_eq_nil_iff.mp (ih others later)⟩

theorem reserved_of_ofQuery {params : QueryParams} {state read : UrlState}
    (known : state.ofQuery params = .ok read) : Fields.reserved read.filters = [] := by
  obtain ⟨filters, made, known⟩ := Outcome.bind_eq_ok.mp known
  obtain ⟨ordering, _, known⟩ := Outcome.bind_eq_ok.mp known
  obtain ⟨page, _, known⟩ := Outcome.bind_eq_ok.mp known
  cases known
  refine reserved_of_mapM (List.filter_eq_nil_iff.mpr fun entry member => ?_) made
  have free := (List.mem_filter.mp member).2
  simpa using free

end UrlState

namespace StoreState

variable {state : StoreState}

theorem reserved_after_patchUrl (state : StoreState) (data : Fields Value) :
    Fields.reserved (state.after [.patchUrl data]).url.filters =
      StoreWrite.leaked (Fields.reserved state.url.filters) (.patchUrl data) := by
  have same : state.url.SameReserved ⟨Fields.reserved state.url.filters, none, .default⟩ :=
    (Fields.reserved_reserved _).symm
  have alike := UrlState.sameReserved_patch same data
  rw [after_cons]
  simp only [StoreWrite.replacement, StoreWrite.leaked]
  revert alike
  generalize state.url.patch data = made
  generalize UrlState.patch data _ = reference
  rintro (⟨given⟩ | _)
  · exact given
  · rfl

theorem reserved_after_applyQuery (state : StoreState) (params : QueryParams) :
    Fields.reserved (state.after [.applyQuery params]).url.filters =
      StoreWrite.leaked (Fields.reserved state.url.filters) (.applyQuery params) := by
  have alike := UrlState.readable_ofQuery params state.url
    ⟨Fields.reserved state.url.filters, none, .default⟩
  have free (read : UrlState) := @UrlState.reserved_of_ofQuery params state.url read
  rw [after_cons]
  simp only [StoreWrite.replacement, StoreWrite.leaked]
  revert alike free
  generalize state.url.ofQuery params = made
  generalize UrlState.ofQuery params _ = reference
  rintro (_ | _) free
  · exact free _ rfl
  · rfl

/-- What a write makes of the filters under reserved names is found from them alone. -/
theorem reserved_after (state : StoreState) (write : StoreWrite) :
    Fields.reserved (state.after [write]).url.filters =
      write.leaked (Fields.reserved state.url.filters) := by
  have paged (page : Pagination) :
      (state.withPagination page).url.filters = state.url.filters :=
    congrArg StoreContent.urlFilters (content_withPagination page state)
  have confined := confines_after state write
  cases write with
  | setMode _ | patchBody _ | patchBodyWith _ _ | setBodyQuery _ _ =>
      rcases confined with ⟨_, made⟩ | made <;> rw [made] <;> rfl
  | setPagination page =>
      rcases confined with made | made
      · rw [made, paged]
        rfl
      · rw [made]
        rfl
  | setPage _ | setPageSize _ =>
      rcases confined with ⟨_, _, -, made⟩ | made
      · rw [made, paged]
        rfl
      · rw [made]
        rfl
  | setUrlFilter name value =>
      rw [after_cons]
      simp only [StoreWrite.replacement]
      cases free : reservedParam? name with
      | some _ => rfl
      | none => exact Fields.reserved_set_of_free free value _
  | removeUrlFilter name =>
      rw [after_cons]
      simp only [StoreWrite.replacement]
      cases there : Fields.has name state.url.filters with
      | true => exact Fields.reserved_erase name _
      | false =>
          rw [StoreWrite.leaked, ← Fields.reserved_erase, Fields.erase_of_absent there]
          rfl
  | patchUrl data => exact reserved_after_patchUrl state data
  | applyQuery params => exact reserved_after_applyQuery state params

theorem reserved_after_answer? (heard : List Listener) (state : StoreState) :
    Fields.reserved (state.after (Store.answer? heard state).toList).url.filters =
      Fields.reserved state.url.filters := by
  cases given : Store.answer? heard state with
  | none => rfl
  | some answer =>
      obtain ⟨listener, rfl⟩ := Store.exists_of_answer? given
      exact reserved_after state _

end StoreState

namespace Store

theorem reserved_apply (event : StoreEvent) (store : Store) :
    Fields.reserved (event.apply store).1.state.url.filters =
      event.leaked (Fields.reserved store.state.url.filters) := by
  rw [state_apply]
  cases event with
  | subscribe listener => rfl
  | unsubscribe id => rfl
  | write made =>
      have single := StoreState.reserved_after store.state made
      have replaced := StoreState.after_cons store.state made []
      simp only [StoreEvent.writes, StoreEvent.leaked]
      rw [← single]
      cases found : made.replacement store.state with
      | error failure => rfl
      | ok next =>
          cases next with
          | none => rfl
          | some next =>
              simp only [found] at replaced ⊢
              rw [replaced, StoreState.after_cons, found]
              exact StoreState.reserved_after_answer? store.heard next

theorem reserved_run (store : Store) (events : List StoreEvent) :
    Fields.reserved (store.run events).state.url.filters =
      events.foldl StoreEvent.leaked (Fields.reserved store.state.url.filters) := by
  induction events generalizing store with
  | nil => rfl
  | cons event rest ih =>
      calc Fields.reserved (store.run (event :: rest)).state.url.filters
          = rest.foldl StoreEvent.leaked
              (Fields.reserved (event.apply store).1.state.url.filters) := ih _
        _ = (event :: rest).foldl StoreEvent.leaked
              (Fields.reserved store.state.url.filters) := by
          rw [reserved_apply]
          rfl

theorem leaked_of_mergesNone {events : List StoreEvent}
    (merges : ∀ event ∈ events, event.MergesNone) : events.foldl StoreEvent.leaked [] = [] := by
  induction events with
  | nil => rfl
  | cons event rest ih =>
      obtain ⟨first, later⟩ := List.forall_mem_cons.mp merges
      have none : event.leaked [] = [] := by
        cases event with
        | subscribe listener => rfl
        | unsubscribe id => rfl
        | write made => exact StoreWrite.leaked_of_mergesNone first
      rw [List.foldl_cons, none]
      exact ih later

/-- What a store holds under reserved names is what it was opened with and what was merged
since, both unchecked.  Under these names it writes its ordering and its pagination beside
what it holds, and nothing else where no such name was let in. -/
theorem reserved_names_enter_unchecked {size : Outcome Int} {setup : StoreSetup} {store : Store}
    (creates : create size setup = .ok store) (events : List StoreEvent) :
    let after := store.run events
    let leaked := events.foldl StoreEvent.leaked (Fields.reserved (Fields.ofPairs setup.url))
    Fields.reserved after.state.url.filters = leaked ∧
      (∀ page, Fields.reserved (after.queryParams page) =
        UrlState.toQuery (page.getD after.state.url.pagination)
          { after.state.url with filters := leaked }) ∧
      (Fields.reserved setup.url = [] → (∀ event ∈ events, event.MergesNone) → leaked = []) := by
  intro after leaked
  have held : Fields.reserved after.state.url.filters = leaked := by
    rw [reserved_run, filters_of_create creates]
  refine ⟨held, fun page => ?_, fun opened merges => ?_⟩
  · rw [← held]
    exact UrlState.reserved_toQuery _ _
  · have empty : Fields.reserved (Fields.ofPairs setup.url) = [] :=
      Fields.reserved_setAll_of_free opened []
    simp only [leaked, empty]
    exact leaked_of_mergesNone merges

/-- A filter under a reserved name is merged beside an ordinary one. -/
def mergedCursor : List StoreEvent :=
  [.write (.patchUrl [("filters", .object [("cursor", .text "x"), ("genre", .text "drama")])])]

theorem merged_cursor_written_beside_page :
    ∃ store, create (.ok 20) plainSetup = .ok store ∧
      Fields.reserved (store.run mergedCursor).state.url.filters =
        [(Text.ofString "cursor", .text "x")] ∧
      Fields.reserved ((store.run mergedCursor).queryParams none) =
        [(Text.ofString "cursor", [Text.ofString "x"]), ("page", ["1"]),
          ("page_size", ["20"])] := by
  obtain ⟨store, creates⟩ : ∃ store, create (.ok 20) plainSetup = .ok store := ⟨_, rfl⟩
  obtain ⟨held, written, -⟩ := reserved_names_enter_unchecked creates mergedCursor
  cases creates
  exact ⟨_, rfl, held, (written none).trans rfl⟩

/-- A filter is held and written under the name of the cursor, while the page is requested
by its number. -/
theorem filter_under_reserved_name :
    ∃ store, create (.ok 20) plainSetup = .ok store ∧
      ∃ name ∈ Fields.names (store.run mergedCursor).state.url.filters,
        reservedParam? name = some "cursor" ∧
          Fields.get? name ((store.run mergedCursor).queryParams none) = some [Text.ofString "x"] ∧
          (store.run mergedCursor).state.url.ordering = none ∧
          (store.run mergedCursor).state.url.pagination = .default := by
  refine ⟨_, rfl, "cursor", ?_⟩
  decide

end Store
end CatalogQuery
