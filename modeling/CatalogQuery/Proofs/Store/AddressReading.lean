import CatalogQuery.Proofs.Store.Address
import CatalogQuery.Proofs.Store.Replacement

/-!
# Reading any address

Whatever stands in the address bar, a store handles it (`handles_any_address`): every
parameter that is not reserved is a filter, a number that cannot be used leaves the
current one, and parameters of both ways to address a page may be mixed.  Only a
direction that is none is refused, and only beside a field to sort by; the store then
stays as it was.
-/

namespace CatalogQuery

namespace QueryParams

/-- Parameters that name a field to sort by, and something else than a direction. -/
def Misdirected (params : QueryParams) : Prop :=
  Fields.has "order_by" params = true ∧
    ∃ word, params.firstText? "direction" = some word ∧ word ≠ "" ∧
      ∀ direction : Direction, word ≠ Text.ofString direction.word

/-- The filter that a name with some texts stands for. -/
def filterOf : List Text → Value
  | [text] => .text text
  | texts => .list (texts.map .text)

end QueryParams

namespace QueryParams

/-- An ordering that parameters leave of a current one. -/
structure Orders (params : QueryParams) (current order : Option QueryOrder) : Prop where
  absent : params.firstText? "order_by" = none → order = current
  present : ∀ field, params.firstText? "order_by" = some field →
    ∃ direction, order = some ⟨field, direction⟩ ∧
      (params.firstText? "direction" = some (Text.ofString direction.word) ∨
        direction = .asc ∧ (params.firstText? "direction").getD "" = "")

/-- A flat part that parameters leave of a current one. -/
structure Reads (params : QueryParams) (current read : UrlState) : Prop where
  filters : read.filters = (params.filter fun entry => (reservedParam? entry.1).isNone).map
    fun entry => (entry.1, filterOf entry.2)
  ordering : params.Orders current.ordering read.ordering
  pagination : params.Pages current.pagination read.pagination

end QueryParams

/-- A store that handles parameters. -/
structure Store.Handles (params : QueryParams) (store : Store) : Prop where
  refuses : params.Misdirected → ∃ fault, store.applyQuery params =
    (store, .error (.invalid ⟨"QueryOrder", [⟨[.field "direction"], fault⟩]⟩))
  takes : ¬params.Misdirected →
    ∃ read, store.Takes params read ∧ params.Reads store.state.url read
  /-- Beside a listener that fails, nothing else can. -/
  raises_iff : store.Calm →
    ((∃ failure, (store.applyQuery params).2 = .error failure) ↔ params.Misdirected)

/-- A word that is no direction is what is wrong with an order. -/
theorem QueryOrder.check_of_word {word : Text}
    (foreign : ∀ direction : Direction, word ≠ Text.ofString direction.word) (field : Text) :
    ∃ fault, check (.object [("order_by", .text field), ("direction", .text word)]) =
      .error [⟨[.field "direction"], fault⟩] := by
  cases read : word.string? with
  | none =>
      refine ⟨.brokenText, ?_⟩
      simp [check, Checked.object, Value.fields?, Checked.field, Checked.fieldOr, Fields.get?,
        Checked.word, Checked.string, Checked.text, Checked.inField, Checked.under, Checked.both,
        Checked.fail, read, Except.map, Except.bind]
  | some string =>
      obtain rfl := Text.eq_ofString_of_string? read
      have unknown : Direction.worded.lookup string = none := by
        apply List.lookup_eq_none_iff.mpr
        intro entry member
        have words : ∀ entry ∈ Direction.worded, entry.1 = entry.2.word := by decide
        rw [bne_iff_ne, words entry member]
        rintro rfl
        exact foreign entry.2 rfl
      refine ⟨.notAmongLiterals, ?_⟩
      simp [check, Checked.object, Value.fields?, Checked.field, Checked.fieldOr, Fields.get?,
        Checked.word, Checked.string, Checked.text, Checked.inField, Checked.under, Checked.both,
        Checked.fail, unknown, Except.map, Except.bind]

theorem Outcome.mapM_eq_ok {α β : Type} {f : α → Outcome β} {g : α → β} {items : List α}
    (each : ∀ item ∈ items, f item = .ok (g item)) : items.mapM f = .ok (items.map g) := by
  induction items with
  | nil => rfl
  | cons first rest ih =>
      have head := each first (List.mem_cons_self ..)
      have tail := ih fun item member => each item (List.mem_cons_of_mem _ member)
      rw [List.mapM_cons, head, tail]
      rfl

namespace QueryParams

theorem filterValue_eq {texts : List Text} (some : texts ≠ []) :
    filterValue texts = .ok (filterOf texts) := by
  match texts with
  | [] => exact absurd rfl some
  | [text] => rfl
  | first :: second :: rest => rfl

theorem reported_word (field : Text) (direction : Direction) :
    (Checked.reported "QueryOrder" (QueryOrder.check (.object
      [("order_by", .text field), ("direction", .text direction.word)]))).map some =
        .ok (some ⟨field, direction⟩) := by
  change (Checked.reported _ (QueryOrder.check (QueryOrder.toWire ⟨field, direction⟩))).map _ = _
  rw [QueryOrder.check_toWire]
  rfl

section Texts

variable {params : QueryParams} (texts : ∀ entry ∈ params, entry.2 ≠ [])

include texts

theorem filters_eq : params.filters =
    .ok ((params.filter fun entry => (reservedParam? entry.1).isNone).map
      fun entry => (entry.1, filterOf entry.2)) := by
  apply Outcome.mapM_eq_ok
  rintro ⟨name, read⟩ member
  have some : read ≠ [] := texts _ (List.mem_filter.mp member).1
  simp only [filterValue_eq some]
  rfl

theorem ordering_of_unordered (unordered : params.firstText? "order_by" = none)
    (current : Option QueryOrder) : params.ordering current = .ok current := by
  rw [ordering, first?_eq texts, unordered]
  rfl

/-- The word for a direction is checked; an absent or empty one is ascending. -/
theorem ordering_of_ordered {field : Text} (ordered : params.firstText? "order_by" = some field)
    (current : Option QueryOrder) {word : Text} (spoken : word = "asc" ∧
      (params.firstText? "direction").getD "" = "" ∨
        word ≠ "" ∧ params.firstText? "direction" = some word) :
    params.ordering current = (Checked.reported "QueryOrder" (QueryOrder.check
      (.object [("order_by", .text field), ("direction", .text word)]))).map some := by
  rw [ordering, first?_eq texts, first?_eq texts, ordered]
  rcases spoken with ⟨rfl, silent⟩ | ⟨filled, spoken⟩
  · cases direction : params.firstText? "direction" with
    | none => rfl
    | some empty =>
        rw [direction] at silent
        obtain rfl : empty = "" := silent
        rfl
  · have filled : word.isEmpty = false := by
      cases empty : word.isEmpty with
      | false => rfl
      | true => exact absurd (congrArg Text.mk (List.isEmpty_iff.mp empty)) filled
    rw [spoken]
    simp only [bind, Except.bind, filled, Bool.false_eq_true, if_false]
    cases QueryOrder.check (.object [("order_by", .text field), ("direction", .text word)]) <;> rfl

theorem exists_orders (directed : ¬params.Misdirected) (current : Option QueryOrder) :
    ∃ order, params.ordering current = .ok order ∧ params.Orders current order := by
  cases ordered : params.firstText? "order_by" with
  | none =>
      refine ⟨current, ordering_of_unordered texts ordered current, fun _ => rfl, ?_⟩
      intro field other
      rw [ordered] at other
      cases other
  | some field =>
      have written (direction : Direction)
          (spoken : params.firstText? "direction" = some (Text.ofString direction.word) ∨
            direction = .asc ∧ (params.firstText? "direction").getD "" = "") :
          params.Orders current (some ⟨field, direction⟩) := by
        refine ⟨?_, ?_⟩
        · intro absent
          rw [ordered] at absent
          cases absent
        · intro other same
          cases ordered.symm.trans same
          exact ⟨direction, rfl, spoken⟩
      by_cases silent : (params.firstText? "direction").getD "" = ""
      · refine ⟨some ⟨field, .asc⟩, ?_, written .asc (Or.inr ⟨rfl, silent⟩)⟩
        rw [ordering_of_ordered texts ordered current (Or.inl ⟨rfl, silent⟩)]
        exact reported_word field .asc
      · obtain ⟨word, spoken⟩ : ∃ word, params.firstText? "direction" = some word := by
          cases spoken : params.firstText? "direction" with
          | none => exact absurd (by rw [spoken]; rfl) silent
          | some word => exact ⟨word, rfl⟩
        rw [spoken] at silent
        obtain ⟨direction, rfl⟩ : ∃ direction : Direction, word = Text.ofString direction.word := by
          -- Anything else is refused.
          by_contra foreign
          have present : Fields.has "order_by" params = true := by
            rw [has_eq_isSome texts, ordered]
            rfl
          exact directed ⟨present, word, spoken, silent, not_exists.mp foreign⟩
        refine ⟨some ⟨field, direction⟩, ?_, written direction (Or.inl spoken)⟩
        rw [ordering_of_ordered texts ordered current (Or.inr ⟨silent, spoken⟩)]
        exact reported_word field direction

theorem exists_reads (directed : ¬params.Misdirected) (current : UrlState) :
    ∃ read, current.ofQuery params = .ok read ∧ params.Reads current read := by
  obtain ⟨order, ordered, orders⟩ := exists_orders texts directed current.ordering
  obtain ⟨page, paged, pages⟩ := exists_pages texts current.pagination
  refine ⟨⟨_, order, page⟩, ?_, rfl, orders, pages⟩
  rw [UrlState.ofQuery, filters_eq texts, ordered, paged]
  rfl

theorem ofQuery_of_misdirected (misdirected : params.Misdirected) (current : UrlState) :
    ∃ fault, current.ofQuery params =
      .error (.invalid ⟨"QueryOrder", [⟨[.field "direction"], fault⟩]⟩) := by
  obtain ⟨present, word, spoken, filled, foreign⟩ := misdirected
  obtain ⟨field, ordered⟩ : ∃ field, params.firstText? "order_by" = some field := by
    rw [has_eq_isSome texts] at present
    exact Option.isSome_iff_exists.mp present
  obtain ⟨fault, unread⟩ := QueryOrder.check_of_word foreign field
  refine ⟨fault, ?_⟩
  rw [UrlState.ofQuery, filters_eq texts,
    ordering_of_ordered texts ordered current.ordering (Or.inr ⟨filled, spoken⟩), unread]
  rfl

end Texts
end QueryParams

namespace Store

/-- Whatever parameters a store reads, as long as every name has a text, it takes what
they say or refuses their direction. -/
theorem handles_any_address (store : Store) {params : QueryParams}
    (texts : ∀ entry ∈ params, entry.2 ≠ []) : store.Handles params := by
  have refuses (misdirected : params.Misdirected) : ∃ fault, store.applyQuery params =
      (store, .error (.invalid ⟨"QueryOrder", [⟨[.field "direction"], fault⟩]⟩)) := by
    obtain ⟨fault, unread⟩ :=
      QueryParams.ofQuery_of_misdirected texts misdirected store.state.url
    refine ⟨fault, ?_⟩
    rw [applyQuery, unread]
    rfl
  have takes (directed : ¬params.Misdirected) :
      ∃ read, store.Takes params read ∧ params.Reads store.state.url read := by
    obtain ⟨read, known, reads⟩ := QueryParams.exists_reads texts directed store.state.url
    exact ⟨read, takes_of_ofQuery known, reads⟩
  refine ⟨refuses, takes, fun calm => ⟨?_, ?_⟩⟩
  · rintro ⟨failure, raised⟩
    by_contra directed
    obtain ⟨read, taken, -⟩ := takes directed
    obtain ⟨after, succeeds⟩ := replace_succeeds calm { store.state with url := read }
    rw [taken.replaces, succeeds] at raised
    cases raised
  · intro misdirected
    obtain ⟨fault, refused⟩ := refuses misdirected
    exact ⟨_, by rw [refused]⟩

/-- A page that is no number leaves the current one, and a page size beside it counts. -/
theorem mixed_address_handled :
    let params : QueryParams := [("tag", ["a", "b"]), ("page", ["x"]), ("page_size", ["50"])]
    (∀ entry ∈ params, entry.2 ≠ []) ∧ ¬params.Misdirected ∧
      ∃ read, (showing mixedFilters).Takes params read ∧
        read.filters = [(Text.ofString "tag", .list [.text "a", .text "b"])] ∧
        read.ordering = some ⟨"name", .desc⟩ ∧
        read.pagination = .offset ⟨1, ⟨50, by decide⟩, false⟩ := by
  intro params
  have texts : ∀ entry ∈ params, entry.2 ≠ [] := by decide
  have directed : ¬params.Misdirected := by
    rintro ⟨present, -⟩
    cases present
  obtain ⟨read, taken, filters, ordering, pagination⟩ :=
    (handles_any_address (showing mixedFilters) texts).takes directed
  have byCursor : ¬params.ByCursor := by
    rintro (present | present) <;> cases present
  obtain ⟨⟨page, pageSize, zero⟩, paged, page_read, size_read, numbering⟩ :=
    pagination.by_number byCursor (Or.inl rfl)
  have no_page : params.number? "page" 0 = none := by decide +kernel
  have fifty : params.number? "page_size" 1 = some 50 := by decide +kernel
  rw [no_page] at page_read
  rw [fifty] at size_read
  refine ⟨texts, directed, read, taken, filters, ordering.absent rfl, ?_⟩
  obtain rfl : page = 1 := Int.ofNat.inj page_read
  obtain rfl : pageSize = ⟨50, by decide⟩ := Subtype.ext (Int.ofNat.inj size_read)
  obtain rfl : zero = false := numbering
  exact paged

end Store
end CatalogQuery
