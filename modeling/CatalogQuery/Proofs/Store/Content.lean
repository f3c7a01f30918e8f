import CatalogQuery.Proofs.Store.Paging

/-!
# What a store holds besides its pages

A write to a store looks at the paginations only to give the store other ones: two
stores that hold the same apart from their pages hold the same after any write
(`content_apply`).  A write may fail at one of them only, because it needs a page of
another kind, but such a write changes nothing else where it succeeds.
-/

namespace CatalogQuery

/-- What a store holds besides its pages. -/
structure StoreContent where
  mode : StoreMode
  urlFilters : Fields Value
  urlOrdering : Option QueryOrder
  entity : Entity
  bodyFilters : Option (List FilterGroup)
  bodyOrdering : Option (List QueryOrder)
  totalCount : Option Int

namespace StoreState

/-- What a state holds besides the paginations. -/
def content (state : StoreState) : StoreContent where
  mode := state.mode
  urlFilters := state.url.filters
  urlOrdering := state.url.ordering
  entity := state.body.entity
  bodyFilters := state.body.filters
  bodyOrdering := state.body.ordering
  totalCount := state.body.totalCount

@[simp]
theorem content_withPagination (page : Pagination) (state : StoreState) :
    (state.withPagination page).content = state.content := by
  unfold withPagination
  split <;> rfl

end StoreState

/-- Two results that are related, or the same failure twice. -/
inductive Alike {ε α β : Type} (related : α → β → Prop) : Except ε α → Except ε β → Prop where
  | ok {first : α} {second : β} (values : related first second) :
      Alike related (.ok first) (.ok second)
  | error (failure : ε) : Alike related (.error failure) (.error failure)

namespace Alike

variable {ε α α' β β' : Type} {related : α → α' → Prop} {other : β → β' → Prop}

theorem same (result : Except ε α) : Alike Eq result result := by
  cases result with
  | ok value => exact .ok rfl
  | error failure => exact .error failure

theorem map {f : α → β} {g : α' → β'} {first : Except ε α} {second : Except ε α'}
    (alike : Alike related first second)
    (carries : ∀ value value', related value value' → other (f value) (g value')) :
    Alike other (first.map f) (second.map g) := by
  cases alike with
  | ok values => exact .ok (carries _ _ values)
  | error failure => exact .error failure

theorem mono {weaker : α → α' → Prop} {first : Except ε α} {second : Except ε α'}
    (alike : Alike related first second)
    (implied : ∀ value value', related value value' → weaker value value') :
    Alike weaker first second := by
  cases alike with
  | ok values => exact .ok (implied _ _ values)
  | error failure => exact .error failure

theorem bind {f : α → Except ε β} {g : α' → Except ε β'} {first : Except ε α}
    {second : Except ε α'} (alike : Alike related first second)
    (carries : ∀ value value', related value value' → Alike other (f value) (g value')) :
    Alike other (first >>= f) (second >>= g) := by
  cases alike with
  | ok values => exact carries _ _ values
  | error failure => exact .error failure

/-- Two checks with alike parts are alike. -/
theorem both {first : Checked α} {first' : Checked α'} {second : Checked β} {second' : Checked β'}
    (left : Alike related first first') (right : Alike other second second') :
    Alike (fun pair pair' => related pair.1 pair'.1 ∧ other pair.2 pair'.2)
      (first.both second) (first'.both second') := by
  cases left <;> cases right
  · exact .ok ⟨‹_›, ‹_›⟩
  all_goals exact .error _

theorem closed {first : Checked α} {second : Checked α'} (alike : Alike related first second)
    (known : List String) (keys : List Value) :
    Alike related (Checked.closed known keys first) (Checked.closed known keys second) := by
  unfold Checked.closed Checked.withIssues
  split
  · exact .error _
  · split
    · exact alike
    · cases alike <;> exact .error _

theorem reported {first : Checked α} {second : Checked α'} (alike : Alike related first second)
    (title : String) : Alike related (first.reported title) (second.reported title) := by
  cases alike with
  | ok values => exact .ok values
  | error issues => exact .error _

end Alike

/-- Whatever the default, the check of a field fails for the same reason. -/
theorem Checked.alike_fieldOr {α : Type} (name : String) (default default' : α)
    (check : Value → Checked α) (fields : Fields Value) :
    Alike (fun _ _ => True) (fieldOr name default check fields)
      (fieldOr name default' check fields) := by
  unfold fieldOr
  split
  · exact (Alike.same _).mono fun _ _ _ => trivial
  · exact .ok trivial

/-- Flat parts that differ at most in the page. -/
def UrlState.SameContent (state other : UrlState) : Prop :=
  state.filters = other.filters ∧ state.ordering = other.ordering

/-- Compiled parts that differ at most in the page. -/
def BodyState.SameContent (state other : BodyState) : Prop :=
  state.entity = other.entity ∧ state.filters = other.filters ∧ state.ordering = other.ordering ∧
    state.totalCount = other.totalCount

theorem StoreState.content_eq_iff {state other : StoreState} :
    state.content = other.content ↔
      state.mode = other.mode ∧ state.url.SameContent other.url ∧
        state.body.SameContent other.body := by
  simp [content, UrlState.SameContent, BodyState.SameContent, and_assoc]

theorem UrlState.alike_patch {state other : UrlState} (same : state.SameContent other)
    (data : Fields Value) : Alike SameContent (state.patch data) (other.patch data) := by
  obtain ⟨filters, ordering⟩ := same
  unfold patch
  rw [filters, ordering]
  refine (Alike.map (.both (.same _) (.both (.same _) (Checked.alike_fieldOr _ _ _ _ _)))
    ?_).closed _ _
  rintro ⟨filters, ordering, page⟩ ⟨filters', ordering', page'⟩ ⟨rfl, rfl, -⟩
  exact ⟨rfl, rfl⟩

theorem BodyState.alike_patch {state other : BodyState} (same : state.SameContent other)
    (data : Fields Value) : Alike SameContent (state.patch data) (other.patch data) := by
  obtain ⟨entity, filters, ordering, total⟩ := same
  unfold patch
  rw [entity, filters, ordering, total]
  refine (Alike.map (.both (.same _) (.both (.same _) (.both (.same _)
    (.both (Checked.alike_fieldOr _ _ _ _ _) (.same _))))) ?_).closed _ _
  rintro ⟨entity, filters, ordering, page, total⟩ ⟨entity', filters', ordering', page', total'⟩
    ⟨rfl, rfl, rfl, -, rfl⟩
  exact ⟨rfl, rfl, rfl, rfl⟩

namespace QueryParams

variable (params : QueryParams)

theorem alike_naturalOr (name : Text) (current other : Nat) :
    Alike (fun _ _ => True) (params.naturalOr name current) (params.naturalOr name other) := by
  refine .bind (.same _) ?_
  rintro number _ rfl
  cases number <;> exact .ok trivial

theorem alike_countOr {α : Type} (name : Text) (wrap : Count → α) (current other : α) :
    Alike (fun _ _ => True) (params.countOr name wrap current)
      (params.countOr name wrap other) := by
  refine .bind (.same _) ?_
  rintro number _ rfl
  cases number <;> exact .ok trivial

/-- Whatever the current page, the reading of another one fails for the same
reason. -/
theorem alike_pagination (current other : Pagination) :
    Alike (fun _ _ => True) (params.pagination current) (params.pagination other) := by
  unfold pagination
  split
  · exact .bind (.same _) fun _ _ _ =>
      .bind (params.alike_countOr _ _ _ _) fun _ _ _ => .ok trivial
  · split
    · exact .bind (params.alike_naturalOr _ _ _) fun _ _ _ =>
        .bind (params.alike_countOr _ _ _ _) fun _ _ _ =>
          .bind (.same _) fun _ _ _ => .ok trivial
    · exact .ok trivial

end QueryParams

theorem UrlState.alike_ofQuery {state other : UrlState} (same : state.SameContent other)
    (params : QueryParams) : Alike SameContent (state.ofQuery params) (other.ofQuery params) := by
  obtain ⟨_, ordering⟩ := same
  unfold ofQuery
  rw [ordering]
  refine .bind (.same _) ?_
  rintro filters _ rfl
  refine .bind (.same _) ?_
  rintro ordering _ rfl
  exact .bind (params.alike_pagination _ _) fun _ _ _ => .ok ⟨rfl, rfl⟩

namespace Store

variable {store other : Store} (quiet : store.Quiet) (still : other.Quiet)

include quiet still

theorem content_replace {next next' : StoreState} (same : next.content = next'.content) :
    (store.replace next).1.state.content = (other.replace next').1.state.content := by
  rw [state_replace quiet, state_replace still, same]

theorem content_replaceWith (same : store.state.content = other.state.content)
    {made made' : Outcome StoreState}
    (alike : Alike (fun next next' => next.content = next'.content) made made') :
    (store.replaceWith made).1.state.content = (other.replaceWith made').1.state.content := by
  cases alike with
  | ok values => exact content_replace quiet still values
  | error failure => exact same

omit still in
theorem content_replaceWith_self {made : Outcome StoreState}
    (keeps : ∀ next, made = .ok next → next.content = store.state.content) :
    (store.replaceWith made).1.state.content = store.state.content := by
  cases made with
  | error failure => rfl
  | ok next =>
      rw [replaceWith, state_replace quiet]
      exact keeps next rfl

omit quiet still in
theorem content_withOffset {page pageSize : OffsetPagination → Value} {state next : StoreState}
    (paged : withOffset page pageSize state = .ok next) : next.content = state.content := by
  obtain ⟨current, _, paged⟩ := Outcome.bind_eq_ok.mp paged
  obtain ⟨request, _, paged⟩ := Outcome.bind_eq_ok.mp paged
  cases paged
  exact StoreState.content_withPagination _ _

/-- A write makes the same of stores that hold the same apart from their pages. -/
theorem content_apply (same : store.state.content = other.state.content) (write : StoreWrite) :
    (write.apply store).1.state.content = (write.apply other).1.state.content := by
  obtain ⟨mode, url, body⟩ := StoreState.content_eq_iff.mp same
  cases write with
  | setMode word =>
      apply content_replaceWith quiet still same
      refine .bind (.same _) ?_
      rintro mode _ rfl
      exact .ok (StoreState.content_eq_iff.mpr ⟨rfl, url, body⟩)
  | patchUrl data =>
      apply content_replaceWith quiet still same
      refine .bind ((UrlState.alike_patch url data).reported _) fun _ _ patched => ?_
      exact .ok (StoreState.content_eq_iff.mpr ⟨mode, patched, body⟩)
  | patchBody data =>
      apply content_replaceWith quiet still same
      refine .bind ((BodyState.alike_patch body data).reported _) fun _ _ patched => ?_
      exact .ok (StoreState.content_eq_iff.mpr ⟨mode, url, patched⟩)
  | patchBodyWith groups data =>
      apply content_replaceWith quiet still same
      refine .bind ((BodyState.alike_patch body _).reported _) fun _ _ patched => ?_
      exact .ok (StoreState.content_eq_iff.mpr ⟨mode, url, patched.1, rfl, patched.2.2⟩)
  | setBodyQuery groups ordering =>
      apply content_replace quiet still
      exact StoreState.content_eq_iff.mpr ⟨mode, url, body.1, rfl, rfl, body.2.2.2⟩
  | setUrlFilter name value =>
      simp only [StoreWrite.apply, setUrlFilter]
      split
      · exact same
      · apply content_replace quiet still
        exact StoreState.content_eq_iff.mpr
          ⟨mode, ⟨congrArg (Fields.set name value) url.1, url.2⟩, body⟩
  | removeUrlFilter name =>
      simp only [StoreWrite.apply, removeUrlFilter, url.1]
      split
      · apply content_replace quiet still
        exact StoreState.content_eq_iff.mpr ⟨mode, ⟨rfl, url.2⟩, body⟩
      · exact same
  | setPagination page =>
      apply content_replace quiet still
      rw [StoreState.content_withPagination, StoreState.content_withPagination, same]
  | setPage page =>
      simp only [StoreWrite.apply, setPage]
      rw [content_replaceWith_self quiet fun _ => content_withOffset,
        content_replaceWith_self still fun _ => content_withOffset, same]
  | setPageSize pageSize =>
      simp only [StoreWrite.apply, setPageSize]
      rw [content_replaceWith_self quiet fun _ => content_withOffset,
        content_replaceWith_self still fun _ => content_withOffset, same]
  | applyQuery params =>
      apply content_replaceWith quiet still same
      refine .bind (UrlState.alike_ofQuery url params) fun _ _ read => ?_
      exact .ok (StoreState.content_eq_iff.mpr ⟨mode, read, body⟩)

end Store
end CatalogQuery
