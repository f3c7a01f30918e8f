import CatalogQuery.Proofs.Store.Address
import CatalogQuery.Proofs.Store.Opening
import CatalogQuery.Proofs.Store.Replacement

/-!
# The parts of a store

The mode, the flat part and the compiled part of a store are written apart
(`parts_change_apart`): unless a listener writes in turn, a write changes nothing but the
part that it is routed to, and one that fails changes nothing at all and is heard by nobody.
Only the writes that set a page are routed by the mode.  What becomes of the flat part is
then what the writes that are routed to it make of it, whatever is written to the rest in
between.  A listener that writes does so to the flat part, whichever part was written to
(`flat_part_changed_in_answer`).
-/

namespace CatalogQuery

/-- What a write comes to in a store whose listeners do not fail. -/
inductive Store.Isolates (store : Store) (write : StoreWrite) : Store × Outcome Unit → Prop where
  /-- The store is the one from before, and nobody was told. -/
  | fails (failure : Failure) : Isolates store write (store, .error failure)
  /-- There is no filter to remove. -/
  | nothing {name : Text} (removes : write = .removeUrlFilter name)
      (absent : Fields.has name store.state.url.filters = false) :
      Isolates store write (store, .ok ())
  /-- The state is replaced, and the listeners that are told of it may write in turn. -/
  | replaces {after : Store} (next : StoreState) (confined : write.Confines store.state next)
      (answered : after.state = next.after (answer? store.listeners next).toList) :
      Isolates store write (after, .ok ())

/-- The writes that are routed to the flat part, of those that are made one after the
other. -/
def StoreState.urlWrites (state : StoreState) : List StoreWrite → List StoreWrite
  | [] => []
  | write :: rest =>
      if write.target state.mode = .url then write :: urlWrites (state.after [write]) rest
      else urlWrites (state.after [write]) rest

namespace StoreWrite

variable {state other next : StoreState}

theorem url_withOffset (page pageSize : OffsetPagination → Value) (url : UrlState)
    (body body' : BodyState) :
    (Store.withOffset page pageSize ⟨.url, url, body'⟩).map StoreState.url =
      (Store.withOffset page pageSize ⟨.url, url, body⟩).map StoreState.url := by
  unfold Store.withOffset Store.offsetPage StoreState.pagination
  cases url.pagination with
  | cursor request => rfl
  | offset current =>
      simp only [bind, Except.bind]
      generalize Checked.reported _ _ = request
      cases request <;> rfl

theorem map_url_some (made : Outcome StoreState) :
    (made.map some).map (Option.map StoreState.url) = (made.map StoreState.url).map some := by
  cases made <;> rfl

/-- A write that is routed to the flat part looks at nothing else. -/
theorem url_replacement {write : StoreWrite} (same : other.url = state.url)
    (routed : write.target state.mode = .url) (also : write.target other.mode = .url) :
    (write.replacement other).map (Option.map StoreState.url) =
      (write.replacement state).map (Option.map StoreState.url) := by
  obtain ⟨mode, url, body⟩ := state
  obtain ⟨mode', url', body'⟩ := other
  obtain rfl : url' = url := same
  cases write with
  | setMode word => cases routed
  | patchBody data => cases routed
  | patchBodyWith groups data => cases routed
  | setBodyQuery groups ordering => cases routed
  | patchUrl data =>
      simp only [replacement]
      cases Checked.reported "UrlFilterState" (url'.patch data) <;> rfl
  | setUrlFilter name value =>
      simp only [replacement]
      cases reservedParam? name <;> rfl
  | removeUrlFilter name =>
      simp only [replacement]
      cases Fields.has name url'.filters <;> rfl
  | applyQuery params =>
      simp only [replacement]
      cases url'.ofQuery params <;> rfl
  | setPagination page =>
      cases mode <;> cases routed
      cases mode' <;> cases also
      rfl
  | setPage page =>
      cases mode <;> cases routed
      cases mode' <;> cases also
      rw [replacement, replacement, map_url_some, map_url_some, url_withOffset]
  | setPageSize pageSize =>
      cases mode <;> cases routed
      cases mode' <;> cases also
      rw [replacement, replacement, map_url_some, map_url_some, url_withOffset]

end StoreWrite

namespace StoreState

variable {state other : StoreState} {write : StoreWrite}

theorem url_after (state : StoreState) (write : StoreWrite) :
    (state.after [write]).url =
      match (write.replacement state).map (Option.map StoreState.url) with
      | .ok (some url) => url
      | _ => state.url := by
  rw [after_cons]
  cases write.replacement state with
  | error failure => rfl
  | ok made => cases made <;> rfl

theorem confines_after (state : StoreState) (write : StoreWrite) :
    write.Confines state (state.after [write]) ∨ state.after [write] = state := by
  rw [after_cons]
  split
  · rename_i found
    exact Or.inl (StoreWrite.confines_of_replacement found)
  · exact Or.inr rfl

theorem mode_after (routed : write.target state.mode = .url) :
    (state.after [write]).mode = state.mode := by
  rcases confines_after state write with confined | same
  · exact confined.mode_eq (by simp [routed])
  · rw [same]

theorem url_after_of_target_ne (elsewhere : write.target state.mode ≠ .url) :
    (state.after [write]).url = state.url := by
  rcases confines_after state write with confined | same
  · exact confined.url_eq elsewhere
  · rw [same]

/-- In the flat mode everything that is routed to the flat part in some mode is. -/
theorem target_of_flat (flat : other.mode = .url) (routed : write.target state.mode = .url) :
    write.target other.mode = .url := by
  rw [flat]
  cases write <;> first | rfl | exact routed

/-- The writes that are routed to the flat part make of it what all writes do. -/
theorem url_after_urlWrites (writes : List StoreWrite) (flat : other.mode = .url)
    (same : other.url = state.url) :
    (state.after writes).url = (other.after (state.urlWrites writes)).url := by
  induction writes generalizing state other with
  | nil => exact same.symm
  | cons write rest ih =>
      have split (start : StoreState) (later : List StoreWrite) :
          start.after (write :: later) = (start.after [write]).after later :=
        after_append start [write] later
      by_cases routed : write.target state.mode = .url
      · have also := target_of_flat flat routed
        have stays : (other.after [write]).mode = .url := (mode_after also).trans flat
        have agree : (other.after [write]).url = (state.after [write]).url := by
          rw [url_after, url_after, StoreWrite.url_replacement same routed also, same]
        rw [urlWrites, if_pos routed, split, split]
        exact ih stays agree
      · have agree : other.url = (state.after [write]).url :=
          same.trans (url_after_of_target_ne routed).symm
        rw [urlWrites, if_neg routed, split]
        exact ih flat agree

end StoreState

namespace Store

theorem isolates_apply {store : Store} (calm : store.Calm) (write : StoreWrite) :
    store.Isolates write (write.apply store) := by
  rw [apply_eq_put]
  cases found : write.replacement store.state with
  | error failure => exact .fails failure
  | ok made =>
      cases made with
      | none =>
          obtain ⟨name, removes, absent⟩ := StoreWrite.removes_of_replacement found
          exact .nothing removes absent
      | some next =>
          obtain ⟨after, replaced⟩ := replace_succeeds calm next
          have answered := state_replace_eq store next
          rw [heard_of_calm calm, replaced] at answered
          simp only [put, replaced]
          exact .replaces next (StoreWrite.confines_of_replacement found) answered

/-- The parts of a store are written apart.  If no listener fails or writes, a write leaves
the store as it is or changes nothing but the part that it is routed to.  A write that fails
changes nothing and is heard by nobody, and any other puts a state that differs only in that
part in the place of the old one, for listeners to write to.  So the flat part of a store is
in the end what the writes that are routed to it, those of listeners included, make of it in
any store. -/
theorem parts_change_apart (store : Store) :
    (store.Quiet → ∀ write : StoreWrite, (write.apply store).1 = store ∨
        write.Confines store.state (write.apply store).1.state) ∧
      (store.Calm → ∀ write : StoreWrite, store.Isolates write (write.apply store)) ∧
      ∀ (events : List StoreEvent) (other : StoreState), other.mode = .url →
        other.url = store.state.url →
          (store.run events).state.url =
            (other.after (store.state.urlWrites (store.writes events))).url := by
  refine ⟨confines_apply, isolates_apply, fun events other flat same => ?_⟩
  rw [state_run]
  exact StoreState.url_after_urlWrites _ flat same

/-- A store with listeners that act in given ways. -/
def attendedBy (listeners : List Listener) : Store :=
  { showing ⟨[], none, .default⟩ with listeners, known := listeners }

/-- A store with two listeners: one hears a single change, and one writes back. -/
def overheard : Store := attendedBy [⟨"once", .once⟩, ⟨"writer", .nest⟩]

/-- The compiled part is turned to its fourth page, and the flat one to its second. -/
def turnsInBothModes : List StoreEvent :=
  [.write (.setUrlFilter "genre" (.text "drama")), .write (.setMode (.text "body")),
    .write (.setPage (.int 4)), .write (.setMode (.text "url")), .write (.setPage (.int 2))]

theorem flat_part_turned_to_second_page :
    let heard := attendedBy [⟨"once", .once⟩, ⟨"other", .drop "once"⟩]
    let counts : StoreWrite := .patchBody [("total_count", .int 3)]
    (heard.Quiet ∧ counts.Confines heard.state (counts.apply heard).1.state) ∧
      (overheard.Calm ∧ overheard.Isolates (.setMode (.text "weekly"))
        ((StoreWrite.setMode (.text "weekly")).apply overheard)) ∧
      (overheard.run turnsInBothModes).state.url =
        (overheard.state.after
          [.setUrlFilter "genre" (.text "drama"), .setUrlFilter "nested" (.text "writer"),
            .setPage (.int 2)]).url := by
  intro heard counts
  have quiet : heard.Quiet := by decide
  have counted : (counts.apply heard).1 ≠ heard := by
    intro same
    have unchanged := congrArg (fun store => store.state.body.totalCount) same
    cases unchanged
  have calm : overheard.Calm := by decide
  have routed : overheard.state.urlWrites (overheard.writes turnsInBothModes) =
      [.setUrlFilter "genre" (.text "drama"), .setUrlFilter "nested" (.text "writer"),
        .setPage (.int 2)] := rfl
  have confined := ((parts_change_apart heard).1 quiet counts).resolve_left counted
  obtain ⟨-, isolates, apart⟩ := parts_change_apart overheard
  refine ⟨⟨quiet, confined⟩, ⟨calm, isolates calm _⟩, ?_⟩
  rw [← routed]
  exact apart turnsInBothModes overheard.state rfl rfl

/-- A listener that does not fail, and answers a write to the compiled part with one to the
flat part. -/
theorem flat_part_changed_in_answer :
    ∃ store, create (.ok 20) plainSetup = .ok store ∧
      let attended := store.subscribe ⟨"a", .nest⟩
      let counts : StoreWrite := .patchBody [("total_count", .int 3)]
      attended.Calm ∧ counts.target attended.state.mode = .body ∧
        (counts.apply attended).2 = .ok () ∧
          (counts.apply attended).1.state.url ≠ attended.state.url := by
  refine ⟨_, rfl, by decide, rfl, rfl, fun same => ?_⟩
  have filters := congrArg (fun url => url.filters.length) same
  cases filters

end Store
end CatalogQuery
