import CatalogQuery.Proofs.Store.Writing
import CatalogQuery.Proofs.Validation.Checks

/-!
# What writes put in the place of a state

What a write makes of a store is found from its state alone: the write fails, leaves the
store as it is, or puts another state in the place of the old one (`apply_eq_put`).  The
state that it puts there differs from the old one only in the part that the write is routed
to (`confines_of_replacement`), so with quiet listeners a write changes nothing else
(`confines_apply`).
-/

namespace CatalogQuery

/-- The parts of a state. -/
inductive StorePart where
  | mode
  | url
  | body
deriving DecidableEq, Repr

/-- The part that a mode selects. -/
def StoreMode.part : StoreMode → StorePart
  | url => .url
  | body => .body

namespace StoreWrite

/-- The part that a write is routed to in a mode. -/
def target (mode : StoreMode) : StoreWrite → StorePart
  | setMode _ => .mode
  | patchUrl _ => .url
  | patchBody _ => .body
  | patchBodyWith _ _ => .body
  | setBodyQuery _ _ => .body
  | setUrlFilter _ _ => .url
  | removeUrlFilter _ => .url
  | setPagination _ => mode.part
  | setPage _ => mode.part
  | setPageSize _ => mode.part
  | applyQuery _ => .url

/-- Whether a state is one that a write may leave in the place of another one. -/
def Confines (state next : StoreState) : StoreWrite → Prop
  | setMode _ => ∃ mode, next = { state with mode }
  | patchUrl _ => ∃ url, next = { state with url }
  | patchBody _ => ∃ body, next = { state with body }
  | patchBodyWith _ _ => ∃ body, next = { state with body }
  | setBodyQuery _ _ => ∃ body, next = { state with body }
  | setUrlFilter _ _ => ∃ url, next = { state with url }
  | removeUrlFilter _ => ∃ url, next = { state with url }
  | setPagination pagination => next = state.withPagination pagination
  | setPage _ => ∃ current page, state.pagination = .offset current ∧
      next = state.withPagination (.offset { current with page })
  | setPageSize _ => ∃ current pageSize, state.pagination = .offset current ∧
      next = state.withPagination (.offset { current with pageSize })
  | applyQuery _ => ∃ url, next = { state with url }

/-- The state that a write puts in the place of another one, if it puts one there. -/
def replacement (state : StoreState) : StoreWrite → Outcome (Option StoreState)
  | setMode mode => do .ok (some { state with mode := ← Store.checkMode mode })
  | patchUrl data => do
      let url ← Checked.reported "UrlFilterState" (state.url.patch data)
      .ok (some { state with url })
  | patchBody data => do
      let body ← Checked.reported BodyState.model (state.body.patch data)
      .ok (some { state with body })
  | patchBodyWith groups data => do
      let body ← Checked.reported BodyState.model (state.body.patch (Fields.erase "filters" data))
      .ok (some { state with body := { body with filters := groups } })
  | setBodyQuery groups ordering =>
      .ok (some { state with body := { state.body with filters := groups, ordering } })
  | setUrlFilter name value =>
      match reservedParam? name with
      | some reserved => .error (.reservedFilter reserved)
      | none => .ok (some (Store.withUrlFilter name value state))
  | removeUrlFilter name =>
      if Fields.has name state.url.filters then
        let filters := Fields.erase name state.url.filters
        .ok (some { state with url := { state.url with filters } })
      else .ok none
  | setPagination pagination => .ok (some (state.withPagination pagination))
  | setPage page =>
      (Store.withOffset (fun _ => page) (fun current => .int current.pageSize.val) state).map some
  | setPageSize pageSize =>
      (Store.withOffset (fun current => .int current.page) (fun _ => pageSize) state).map some
  | applyQuery params => do .ok (some { state with url := ← state.url.ofQuery params })

end StoreWrite

namespace Store

/-- The store once it is known what a write puts in the place of its state. -/
def put (made : Outcome (Option StoreState)) (store : Store) : Store × Outcome Unit :=
  match made with
  | .ok (some state) => store.replace state
  | .ok none => (store, .ok ())
  | .error failure => (store, .error failure)

/-- A write looks at the state only, and listeners are told once the state is
replaced. -/
theorem apply_eq_put (write : StoreWrite) (store : Store) :
    write.apply store = store.put (write.replacement store.state) := by
  -- Where a state may not exist, `replaceWith` and `put` pass the same failure on.
  have carried (found : Outcome StoreState) :
      store.replaceWith found = store.put (found.map some) := by
    cases found <;> rfl
  have made {α : Type} (found : Outcome α) (next : α → StoreState) :
      store.replaceWith (found >>= fun a => .ok (next a)) =
        store.put (found >>= fun a => .ok (some (next a))) := by
    cases found <;> rfl
  cases write with
  | setMode mode => exact made _ _
  | patchUrl data => exact made _ _
  | patchBody data => exact made _ _
  | patchBodyWith groups data => exact made _ _
  | setBodyQuery groups ordering => rfl
  | setUrlFilter name value =>
      simp only [StoreWrite.apply, setUrlFilter, StoreWrite.replacement]
      cases reservedParam? name <;> rfl
  | removeUrlFilter name =>
      simp only [StoreWrite.apply, removeUrlFilter, StoreWrite.replacement]
      cases Fields.has name store.state.url.filters <;> rfl
  | setPagination pagination => rfl
  | setPage page => exact carried _
  | setPageSize pageSize => exact carried _
  | applyQuery params => exact made _ _

end Store

namespace Checked

@[simp]
theorem natural_int (number : Nat) : natural (.int number) = .ok number := by
  simp [natural, integer, naturalOf, bind, Except.bind]

@[simp]
theorem count_int (count : Count) : Checked.count (.int count.val) = .ok count := by
  simp [Checked.count, integer, countOf, count.property, bind, Except.bind]

end Checked

theorem OffsetPagination.parts_of_check {page pageSize : Value} {zeroBased : Bool}
    {request : OffsetPagination}
    (checked : check [("page", page), ("page_size", pageSize), ("zero_based", .bool zeroBased)] =
      .ok request) :
    Checked.natural page = .ok request.page ∧ Checked.count pageSize = .ok request.pageSize ∧
      zeroBased = request.zeroBased := by
  obtain ⟨⟨number, size, numbering⟩, parts, rfl⟩ := Outcome.map_eq_ok.mp checked
  obtain ⟨paged, rest⟩ := Checked.both_eq_ok.mp parts
  obtain ⟨sized, numbered⟩ := Checked.both_eq_ok.mp rest
  exact ⟨Checked.inField_eq_ok.mp paged, Checked.inField_eq_ok.mp sized,
    Except.ok.inj (Checked.inField_eq_ok.mp numbered)⟩

namespace StoreWrite

variable {state next : StoreState}

theorem exists_of_withOffset {page pageSize : OffsetPagination → Value}
    (made : Store.withOffset page pageSize state = .ok next) :
    ∃ current request, state.pagination = .offset current ∧
      OffsetPagination.check [("page", page current), ("page_size", pageSize current),
        ("zero_based", .bool current.zeroBased)] = .ok request ∧
          next = state.withPagination (.offset request) := by
  obtain ⟨current, paged, made⟩ := Outcome.bind_eq_ok.mp made
  obtain ⟨request, checked, made⟩ := Outcome.bind_eq_ok.mp made
  refine ⟨current, request, ?_, Checked.reported_eq_ok.mp checked, (Except.ok.inj made).symm⟩
  unfold Store.offsetPage at paged
  split at paged
  · rename_i known
    rw [known, Except.ok.inj paged]
  · cases paged

/-- What is put in the place of a state differs from it only where the write goes. -/
theorem confines_of_replacement {write : StoreWrite}
    (replaced : write.replacement state = .ok (some next)) : write.Confines state next := by
  cases write with
  | setMode _ | patchUrl _ | patchBody _ | patchBodyWith _ _ | applyQuery _ =>
      obtain ⟨_, -, made⟩ := Outcome.bind_eq_ok.mp replaced
      cases made
      exact ⟨_, rfl⟩
  | setBodyQuery groups ordering =>
      cases replaced
      exact ⟨_, rfl⟩
  | setUrlFilter name value =>
      simp only [replacement] at replaced
      split at replaced
      · cases replaced
      · cases replaced
        exact ⟨_, rfl⟩
  | removeUrlFilter name =>
      simp only [replacement] at replaced
      split at replaced
      · cases replaced
        exact ⟨_, rfl⟩
      · cases replaced
  | setPagination pagination =>
      cases replaced
      rfl
  | setPage page =>
      obtain ⟨_, made, same⟩ := Outcome.map_eq_ok.mp replaced
      cases same
      obtain ⟨current, request, paged, checked, rfl⟩ := exists_of_withOffset made
      obtain ⟨-, sized, numbered⟩ := OffsetPagination.parts_of_check checked
      rw [Checked.count_int] at sized
      refine ⟨current, request.page, paged, ?_⟩
      rw [Except.ok.inj sized, numbered]
  | setPageSize pageSize =>
      obtain ⟨_, made, same⟩ := Outcome.map_eq_ok.mp replaced
      cases same
      obtain ⟨current, request, paged, checked, rfl⟩ := exists_of_withOffset made
      obtain ⟨paged_anew, -, numbered⟩ := OffsetPagination.parts_of_check checked
      rw [Checked.natural_int] at paged_anew
      refine ⟨current, request.pageSize, paged, ?_⟩
      rw [Except.ok.inj paged_anew, numbered]

theorem removes_of_replacement {write : StoreWrite}
    (idle : write.replacement state = .ok none) :
    ∃ name, write = .removeUrlFilter name ∧ Fields.has name state.url.filters = false := by
  cases write with
  | removeUrlFilter name =>
      refine ⟨name, rfl, ?_⟩
      simp only [replacement] at idle
      split at idle
      · cases idle
      · rename_i absent
        simpa using absent
  | setUrlFilter name value =>
      simp only [replacement] at idle
      split at idle <;> cases idle
  | setPage _ | setPageSize _ =>
      obtain ⟨_, -, made⟩ := Outcome.map_eq_ok.mp idle
      cases made
  | setBodyQuery _ _ | setPagination _ => cases idle
  | setMode _ | patchUrl _ | patchBody _ | patchBodyWith _ _ | applyQuery _ =>
      obtain ⟨_, -, made⟩ := Outcome.bind_eq_ok.mp idle
      cases made

theorem Confines.mode_eq {write : StoreWrite} (confined : write.Confines state next)
    (elsewhere : write.target state.mode ≠ .mode) : next.mode = state.mode := by
  cases write with
  | setMode _ => exact absurd rfl elsewhere
  | patchUrl _ | patchBody _ | patchBodyWith _ _ | setBodyQuery _ _ | setUrlFilter _ _
  | removeUrlFilter _ | applyQuery _ =>
      obtain ⟨_, rfl⟩ := confined
      rfl
  | setPagination page =>
      rw [confined]
      exact Store.mode_withPagination _ _
  | setPage _ | setPageSize _ =>
      obtain ⟨_, _, -, rfl⟩ := confined
      exact Store.mode_withPagination _ _

theorem Confines.url_eq {write : StoreWrite} (confined : write.Confines state next)
    (elsewhere : write.target state.mode ≠ .url) : next.url = state.url := by
  have paged (page : Pagination) (other : state.mode.part ≠ .url) :
      (state.withPagination page).url = state.url := by
    unfold StoreState.withPagination
    split
    · rename_i flat
      exact absurd (by rw [flat]; rfl) other
    · rfl
  cases write with
  | setMode _ | patchBody _ | patchBodyWith _ _ | setBodyQuery _ _ =>
      obtain ⟨_, rfl⟩ := confined
      rfl
  | patchUrl _ | setUrlFilter _ _ | removeUrlFilter _ | applyQuery _ => exact absurd rfl elsewhere
  | setPagination page =>
      rw [confined]
      exact paged page elsewhere
  | setPage _ | setPageSize _ =>
      obtain ⟨_, _, -, rfl⟩ := confined
      exact paged _ elsewhere

theorem target_ne_mode {write : StoreWrite} (keeps : write.keepsMode = true) (mode : StoreMode) :
    write.target mode ≠ .mode := by
  cases write with
  | setMode _ => cases keeps
  | setPagination _ | setPage _ | setPageSize _ => cases mode <;> nofun
  | _ => nofun

end StoreWrite

namespace Store

variable {store : Store}

/-- With quiet listeners a write leaves the store as it is, or leads to the state that it
puts in the place of the old one. -/
theorem replaced_apply (quiet : store.Quiet) (write : StoreWrite) :
    (write.apply store).1 = store ∨
      write.replacement store.state = .ok (some (write.apply store).1.state) := by
  rw [apply_eq_put]
  rcases write.replacement store.state with failure | _ | next
  · exact Or.inl rfl
  · exact Or.inl rfl
  · obtain ⟨after, replaced, same⟩ := replace_of_quiet quiet next
    rw [put, replaced, same]
    exact Or.inr rfl

/-- With quiet listeners a write changes only the part of the state that it is routed
to. -/
theorem confines_apply (quiet : store.Quiet) (write : StoreWrite) :
    (write.apply store).1 = store ∨
      write.Confines store.state (write.apply store).1.state :=
  (replaced_apply quiet write).imp_right StoreWrite.confines_of_replacement

theorem mode_apply (quiet : store.Quiet) {write : StoreWrite} (keeps : write.keepsMode = true) :
    (write.apply store).1.state.mode = store.state.mode := by
  rcases confines_apply quiet write with same | confined
  · rw [same]
  · exact confined.mode_eq (StoreWrite.target_ne_mode keeps _)

end Store
end CatalogQuery
