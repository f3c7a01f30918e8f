import CatalogQuery.Proofs.Store.Parameters
import CatalogQuery.Proofs.Store.Writing

/-!
# Filters in the address bar

Filters and ordering are read back from the query parameters that they were written
as (`filters_read_back_from_address`).  Filters, ordering and pagination share one
flat list of parameters, so names that are not reserved are what tells a filter from
the rest (`Addressable`); the parameters are then those of the filters that have a
text, followed by the reserved ones (`toQuery_eq`).  A filter comes back as the text
or the list of texts that it was written as, and as that text it is written again.
-/

namespace CatalogQuery

theorem QueryOrder.check_toWire (order : QueryOrder) : check order.toWire = .ok order := by
  have named : Direction.worded.lookup order.direction.word = some order.direction := by
    cases order.direction <;> decide
  simp [check, toWire, toFields, Checked.object, Value.fields?, Checked.field, Checked.fieldOr,
    Fields.get?, Checked.word, Checked.string, Checked.text, Checked.inField, Checked.under,
    Checked.both, named, Except.map, Except.bind]

theorem QueryParams.ordering_of_first? {params : QueryParams} {order : QueryOrder}
    (field : params.first? "order_by" = .ok (some order.orderBy))
    (direction : params.first? "direction" = .ok (some (Text.ofString order.direction.word)))
    (current : Option QueryOrder) : params.ordering current = .ok (some order) := by
  have checked := order.check_toWire
  rw [QueryOrder.toWire, QueryOrder.toFields] at checked
  have spelled : (Text.ofString order.direction.word).isEmpty = false := by
    cases order.direction <;> rfl
  unfold ordering
  rw [field, direction]
  simp only [bind, Except.bind, spelled, Bool.false_eq_true, if_false, checked]
  rfl

namespace UrlState

variable {state : UrlState}

/-- A state whose filters can be told from ordering and pagination: every name occurs
once, and none is reserved. -/
structure Addressable (state : UrlState) : Prop where
  distinct : (Fields.names state.filters).Nodup
  free : ∀ name ∈ Fields.names state.filters, reservedParam? name = none

/-- The parameters that values are written as; a value without a text is not
written. -/
def written (fields : Fields Value) : QueryParams :=
  (fields.map fun (name, value) => (name, paramTexts value)).filter (!·.2.isEmpty)

theorem written_append (first second : Fields Value) :
    written (first ++ second) = written first ++ written second := by
  simp [written]

theorem names_written (fields : Fields Value) :
    (Fields.names (written fields)).Sublist (Fields.names fields) := by
  have all : Fields.names (fields.map fun (name, value) => (name, paramTexts value)) =
      Fields.names fields := by
    simp [Fields.names, Function.comp_def]
  rw [← all]
  exact List.filter_sublist.map _

theorem written_cons_of_lost {name : Text} {value : Value} (lost : paramTexts value = [])
    (rest : Fields Value) : written ((name, value) :: rest) = written rest := by
  simp [written, lost]

theorem written_cons {name : Text} {value : Value} (kept : paramTexts value ≠ [])
    (rest : Fields Value) :
    written ((name, value) :: rest) = (name, paramTexts value) :: written rest := by
  simp [written, kept]

/-- The fields that an ordering is written as. -/
def orderFields (state : UrlState) : Fields Value :=
  match state.ordering with
  | some order => order.toFields
  | none => []

/-- The fields that ordering and a pagination are written as. -/
def ownFields (page : Pagination) (state : UrlState) : Fields Value :=
  state.orderFields ++ page.toFields

/-- The names that an ordering is written under. -/
def orderNames : List Text := (["order_by", "direction"] : List String).map Text.ofString

/-- The names that a pagination is written under. -/
def pageNames : List Text :=
  (["page", "page_size", "zero_based", "cursor", "limit"] : List String).map Text.ofString

theorem names_pageFields : ∀ page : Pagination, (Fields.names page.toFields).Sublist pageNames
  | .offset ⟨_, _, false⟩ =>
      (by decide : List.Sublist [("page" : Text), ("page_size" : Text)] pageNames)
  | .offset ⟨_, _, true⟩ =>
      (by decide :
        List.Sublist [("page" : Text), ("page_size" : Text), ("zero_based" : Text)] pageNames)
  | .cursor ⟨none, none⟩ => List.nil_sublist _
  | .cursor ⟨none, some _⟩ => (by decide : List.Sublist [("limit" : Text)] pageNames)
  | .cursor ⟨some _, none⟩ => (by decide : List.Sublist [("cursor" : Text)] pageNames)
  | .cursor ⟨some _, some _⟩ =>
      (by decide : List.Sublist [("cursor" : Text), ("limit" : Text)] pageNames)

theorem names_orderFields (state : UrlState) :
    (Fields.names state.orderFields).Sublist orderNames := by
  unfold orderFields
  cases state.ordering with
  | none => exact List.nil_sublist _
  | some order => exact List.Sublist.refl _

/-- Ordering and pagination are written under reserved names, and each under names of
its own. -/
theorem names_ownFields (page : Pagination) (state : UrlState) :
    (Fields.names (state.ownFields page)).Sublist (orderNames ++ pageNames) := by
  rw [ownFields, Fields.names_append]
  exact (names_orderFields state).append (names_pageFields page)

theorem distinct_ownFields (page : Pagination) (state : UrlState) :
    (Fields.names (state.ownFields page)).Nodup :=
  (names_ownFields page state).nodup (by decide)

theorem reserved_of_mem_ownFields {page : Pagination} {name : Text}
    (own : name ∈ Fields.names (state.ownFields page)) : reservedParam? name ≠ none := by
  have reserved : ∀ name ∈ orderNames ++ pageNames, reservedParam? name ≠ none := by decide
  exact reserved name ((names_ownFields page state).subset own)

theorem Addressable.distinct_params (addressable : state.Addressable) (page : Pagination) :
    (Fields.names (state.filters ++ state.ownFields page)).Nodup := by
  rw [Fields.names_append]
  refine List.nodup_append.mpr ⟨addressable.distinct, distinct_ownFields page state, ?_⟩
  rintro name filter _ own rfl
  exact reserved_of_mem_ownFields own (addressable.free name filter)

theorem params_eq (addressable : state.Addressable) (page : Pagination) :
    state.params page = state.filters ++ state.ownFields page := by
  have distinct := addressable.distinct_params page
  rw [ownFields, ← List.append_assoc] at distinct ⊢
  have ordered : Fields.setAll state.filters state.orderFields =
      state.filters ++ state.orderFields := by
    apply Fields.setAll_of_distinct
    rw [Fields.names_append] at distinct
    exact (List.nodup_append.mp distinct).1
  calc state.params page
      = Fields.setAll (Fields.setAll state.filters state.orderFields) page.toFields := by
        unfold params orderFields
        cases state.ordering <;> rfl
    _ = state.filters ++ state.orderFields ++ page.toFields := by
        rw [ordered, Fields.setAll_of_distinct distinct]

/-- The parameters of a state are those of its filters, then those of ordering and
pagination. -/
theorem toQuery_eq (addressable : state.Addressable) (page : Pagination) :
    state.toQuery page = written state.filters ++ written (state.ownFields page) := by
  let texts : QueryParams := (state.params page).map fun (name, value) => (name, paramTexts value)
  have pairs : (state.params page).flatMap (fun (name, value) => (paramTexts value).map (name, ·)) =
      texts.toPairs := by
    simp [texts, QueryParams.toPairs, List.flatMap_map]
  have distinct : (Fields.names texts).Nodup := by
    simpa [texts, Fields.names, Function.comp_def, params_eq addressable] using
      addressable.distinct_params page
  rw [toQuery, pairs, QueryParams.ofPairs_toPairs distinct, ← written_append,
    ← params_eq addressable, written]

theorem get?_toQuery (addressable : state.Addressable) (page : Pagination) (name : Text)
    (reserved : reservedParam? name ≠ none) :
    Fields.get? name (state.toQuery page) = Fields.get? name (written (state.ownFields page)) := by
  have unfiltered : Fields.get? name (written state.filters) = none :=
    Fields.get?_eq_none_iff.mpr fun filter =>
      reserved (addressable.free name ((names_written _).subset filter))
  rw [toQuery_eq addressable, Fields.get?_append, unfiltered]
  rfl

end UrlState

namespace Value

/-- The text that a single value has in an address. -/
def addressText : Value → Text
  | text s => s
  | bool b => if b then "true" else "false"
  | moment t => t.display
  | value => value.inspect

/-- What becomes of a filter that is written and read back: null and the empty list are
lost, a list of one item comes back as that item, and every value as its text. -/
def readBack? : Value → Option Value
  | null => none
  | list [] => none
  | list [item] => some (text item.addressText)
  | list items => some (list (items.map fun item => text item.addressText))
  | value => some (text value.addressText)

theorem paramText_eq (value : Value) : UrlState.paramText value = value.addressText := by
  cases value <;> rfl

/-- A value that is lost is written as no text; any other is read back from its
texts. -/
theorem readBack?_spec (value : Value) :
    match value.readBack? with
    | none => UrlState.paramTexts value = []
    | some back => UrlState.paramTexts value ≠ [] ∧
        QueryParams.filterValue (UrlState.paramTexts value) = .ok back := by
  cases value with
  | null => rfl
  | list items =>
      match items with
      | [] => rfl
      | [item] => simp [readBack?, UrlState.paramTexts, QueryParams.filterValue, paramText_eq]
      | first :: second :: rest =>
          simp [readBack?, UrlState.paramTexts, QueryParams.filterValue, paramText_eq]
  | _ => exact ⟨List.cons_ne_nil _ _, rfl⟩

/-- What was read back once is read back as it is from then on. -/
theorem readBack?_of_readBack? {value back : Value} (read : value.readBack? = some back) :
    back.readBack? = some back := by
  cases value with
  | null => cases read
  | list items =>
      match items with
      | [] => cases read
      | [item] =>
          cases read
          rfl
      | first :: second :: rest =>
          cases read
          simp [readBack?, addressText]
  | _ =>
      cases read
      rfl

end Value

namespace UrlState

variable {state : UrlState}

/-- The filters as they are read back, in their order. -/
def readBack (fields : Fields Value) : Fields Value :=
  fields.filterMap fun (name, value) => value.readBack?.map (name, ·)

theorem readBack_cons_of_lost {name : Text} {value : Value} (lost : value.readBack? = none)
    (rest : Fields Value) : readBack ((name, value) :: rest) = readBack rest := by
  simp [readBack, lost]

theorem readBack_cons {name : Text} {value kept : Value} (read : value.readBack? = some kept)
    (rest : Fields Value) : readBack ((name, value) :: rest) = (name, kept) :: readBack rest := by
  simp [readBack, read]

theorem names_readBack (fields : Fields Value) :
    (Fields.names (readBack fields)).Sublist (Fields.names fields) := by
  induction fields with
  | nil => exact List.Sublist.refl _
  | cons entry rest ih =>
      obtain ⟨name, value⟩ := entry
      cases back : value.readBack? with
      | none =>
          rw [readBack_cons_of_lost back]
          exact ih.cons name
      | some kept =>
          rw [readBack_cons back]
          exact ih.cons_cons name

theorem readBack_readBack (fields : Fields Value) :
    readBack (readBack fields) = readBack fields := by
  induction fields with
  | nil => rfl
  | cons entry rest ih =>
      obtain ⟨name, value⟩ := entry
      cases back : value.readBack? with
      | none => rw [readBack_cons_of_lost back, ih]
      | some kept => rw [readBack_cons back, readBack_cons (Value.readBack?_of_readBack? back), ih]

/-- Written filters are read back. -/
theorem filters_written {fields : Fields Value}
    (free : ∀ name ∈ Fields.names fields, reservedParam? name = none) :
    (written fields).filters = .ok (readBack fields) := by
  have unreserved : (written fields).filter (fun entry => (reservedParam? entry.1).isNone) =
      written fields := by
    apply List.filter_eq_self.mpr
    intro entry member
    have named := (names_written fields).subset (List.mem_map_of_mem member)
    simp [free _ named]
  rw [QueryParams.filters, unreserved]
  -- The names are done with; the rest goes value by value.
  clear free unreserved
  induction fields with
  | nil => rfl
  | cons entry rest ih =>
      obtain ⟨name, value⟩ := entry
      have spec := value.readBack?_spec
      cases back : value.readBack? with
      | none =>
          simp only [back] at spec
          rw [written_cons_of_lost spec, readBack_cons_of_lost back, ih]
      | some kept =>
          simp only [back] at spec
          obtain ⟨texts, read⟩ := spec
          rw [written_cons texts, readBack_cons back, List.mapM_cons, ih]
          simp only [read]
          rfl

/-- The filters of an address are those of the state that it was written from, as they
are read back. -/
theorem filters_toQuery (addressable : state.Addressable) (page : Pagination) :
    (state.toQuery page).filters = .ok (readBack state.filters) := by
  -- Ordering and pagination share the list, but only under reserved names.
  have own : (written (state.ownFields page)).filter
      (fun entry => (reservedParam? entry.1).isNone) = [] := by
    apply List.filter_eq_nil_iff.mpr
    intro entry member
    have named := (names_written _).subset (List.mem_map_of_mem (f := Prod.fst) member)
    simpa [Option.isNone_iff_eq_none] using reserved_of_mem_ownFields named
  rw [← filters_written addressable.free, QueryParams.filters, toQuery_eq addressable,
    List.filter_append, own, List.append_nil, ← QueryParams.filters]

/-- The ordering of an address is the one that it was written from; without one the
current ordering stays. -/
theorem ordering_toQuery (addressable : state.Addressable) (page : Pagination)
    (current : Option QueryOrder) :
    (state.toQuery page).ordering current = .ok (state.ordering.or current) := by
  have field := get?_toQuery addressable page "order_by" (by decide)
  have direction := get?_toQuery addressable page "direction" (by decide)
  cases ordering : state.ordering with
  | none =>
      have absent : Fields.get? "order_by" (written (state.ownFields page)) = none := by
        rw [ownFields, orderFields, ordering]
        refine Fields.get?_eq_none_iff.mpr fun named => ?_
        have paged := ((names_written _).trans (names_pageFields page)).subset named
        revert paged
        decide
      rw [QueryParams.ordering, QueryParams.first?, field, absent]
      rfl
  | some order =>
      have own : written (state.ownFields page) =
          (Text.ofString "order_by", [order.orderBy]) ::
            (Text.ofString "direction", [Text.ofString order.direction.word]) ::
              written page.toFields := by
        rw [ownFields, orderFields, ordering, written_append]
        rfl
      apply QueryParams.ordering_of_first?
      · rw [QueryParams.first?, field, own]
        rfl
      · rw [QueryParams.first?, direction, own]
        rfl

/-- What any state reads from the parameters of another one. -/
theorem ofQuery_toQuery (addressable : state.Addressable) (page : Pagination) (current : UrlState) :
    ∃ read, current.ofQuery (state.toQuery page) = .ok read ∧
      read.filters = readBack state.filters ∧ read.ordering = state.ordering.or current.ordering ∧
      (state.toQuery page).pagination current.pagination = .ok read.pagination := by
  have texts : ∀ entry ∈ state.toQuery page, entry.2 ≠ [] := by
    intro entry member
    rw [toQuery_eq addressable, ← written_append, written] at member
    simpa using (List.mem_filter.mp member).2
  obtain ⟨paged, known, -⟩ := QueryParams.exists_pages texts current.pagination
  refine ⟨⟨readBack state.filters, state.ordering.or current.ordering, paged⟩, ?_, rfl, rfl, known⟩
  rw [ofQuery, filters_toQuery addressable, ordering_toQuery addressable, known]
  rfl

/-- Filters that were read back can be written again. -/
theorem Addressable.of_readBack (addressable : state.Addressable) {read : UrlState}
    (filters : read.filters = readBack state.filters) : read.Addressable where
  distinct := by
    rw [filters]
    exact (names_readBack _).nodup addressable.distinct
  free := by
    rw [filters]
    exact fun name named => addressable.free name ((names_readBack _).subset named)

end UrlState

namespace Store

/-- A store takes a flat part from parameters: it replaces its own by it, and changes
nothing else.  Listeners that neither fail nor write leave it at that. -/
structure Takes (store : Store) (params : QueryParams) (url : UrlState) : Prop where
  replaces : store.applyQuery params = store.replace { store.state with url }
  ends : store.Quiet → ∃ after, store.applyQuery params = (after, .ok ()) ∧
    after.state = { store.state with url }

theorem takes_of_ofQuery {store : Store} {params : QueryParams} {url : UrlState}
    (read : store.state.url.ofQuery params = .ok url) : store.Takes params url := by
  have replaces : store.applyQuery params = store.replace { store.state with url } := by
    rw [applyQuery, read]
    rfl
  refine ⟨replaces, fun quiet => ?_⟩
  rw [replaces]
  exact replace_of_quiet quiet _

/-- Filters and ordering in the address bar.  A store that reads the parameters of
another one takes its filters as they are read back, in their order, and its ordering
if it has one.  What it then writes is read by any store as these same filters. -/
theorem filters_read_back_from_address (source : Store)
    (addressable : source.state.url.Addressable) (page : Option Pagination) (target : Store) :
    ∃ read : UrlState, target.Takes (source.queryParams page) read ∧
      read.filters = UrlState.readBack source.state.url.filters ∧
      read.ordering = source.state.url.ordering.or target.state.url.ordering ∧
      ∀ (after other : Store) (page : Option Pagination), after.state.url = read →
        ∃ again : UrlState, other.Takes (after.queryParams page) again ∧
          again.filters = read.filters := by
  obtain ⟨read, known, filters, ordering, -⟩ :=
    UrlState.ofQuery_toQuery addressable (page.getD source.state.url.pagination) target.state.url
  refine ⟨read, takes_of_ofQuery known, filters, ordering, ?_⟩
  rintro after other page rfl
  obtain ⟨again, reread, kept, -, -⟩ :=
    UrlState.ofQuery_toQuery (addressable.of_readBack filters)
      (page.getD after.state.url.pagination) other.state.url
  refine ⟨again, takes_of_ofQuery reread, ?_⟩
  rw [kept, filters, UrlState.readBack_readBack]

/-- A store of media without listeners that shows a flat part. -/
def showing (url : UrlState) : Store :=
  ⟨⟨.url, url, ⟨.media, none, none, .default, none⟩⟩, [], [], []⟩

/-- The start of 2021 in universal time. -/
def newYear : Timestamp := ⟨2021, 1, 1, 0, 0, 0, 0, some 0, by decide⟩

/-- Filters of several kinds, with an ordering. -/
def mixedFilters : UrlState :=
  ⟨[(Text.ofString "title", .text "moon"), ("year", .null), ("genre", .list []),
    ("tag", .list [.bool true]), ("pages", .list [.int 3, .null]), ("since", .moment newYear),
    ("spans", .list [.list [.bool true, .moment newYear]])], some ⟨"name", .desc⟩, .default⟩

/-- A timestamp stands for itself alone, and is spelled out inside another value. -/
theorem mixed_filters_read_back :
    mixedFilters.Addressable ∧
      ∃ read : UrlState, (showing ⟨[], none, .default⟩).Takes
          ((showing mixedFilters).queryParams none) read ∧
        read.filters = [(Text.ofString "title", .text "moon"), ("tag", .text "true"),
          ("pages", .list [.text "3", .text "None"]),
          ("since", .text "2021-01-01 00:00:00+00:00"),
          ("spans", .text
            "[True, datetime.datetime(2021, 1, 1, 0, 0, tzinfo=datetime.timezone.utc)]")] ∧
        read.ordering = some ⟨"name", .desc⟩ := by
  have addressable : mixedFilters.Addressable := ⟨by decide, by decide⟩
  have alone : newYear.display = "2021-01-01 00:00:00+00:00" := by decide
  have inside : Value.inspect (.list [.bool true, .moment newYear]) =
      "[True, datetime.datetime(2021, 1, 1, 0, 0, tzinfo=datetime.timezone.utc)]" := by
    decide +kernel
  obtain ⟨read, takes, filters, ordering, -⟩ :=
    filters_read_back_from_address (showing mixedFilters) addressable none
      (showing ⟨[], none, .default⟩)
  refine ⟨addressable, read, takes, ?_, ordering⟩
  rw [filters, ← alone, ← inside]
  rfl

end Store
end CatalogQuery
