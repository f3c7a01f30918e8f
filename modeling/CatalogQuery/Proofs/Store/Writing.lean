import CatalogQuery.Store

/-!
# Writing to a store

The operations that write to a store are data, so that what is said of all of them is
said once.  Listeners that neither fail nor write back cannot be told from no listeners
by what becomes of the state (`replace_of_quiet`).
-/

namespace CatalogQuery

/-- The operations that write to a store. -/
inductive StoreWrite where
  | setMode (mode : Value)
  | patchUrl (data : Fields Value)
  | patchBody (data : Fields Value)
  | patchBodyWith (groups : Option (List FilterGroup)) (data : Fields Value)
  | setBodyQuery (groups : Option (List FilterGroup)) (ordering : Option (List QueryOrder))
  | setUrlFilter (name : Text) (value : Value)
  | removeUrlFilter (name : Text)
  | setPagination (pagination : Pagination)
  | setPage (page : Value)
  | setPageSize (pageSize : Value)
  | applyQuery (params : QueryParams)

namespace StoreWrite

/-- The store after an operation, with what the operation came to. -/
def apply : StoreWrite → Store → Store × Outcome Unit
  | setMode mode => Store.setMode mode
  | patchUrl data => Store.patchUrl data
  | patchBody data => Store.patchBody data
  | patchBodyWith groups data => Store.patchBodyWith groups data
  | setBodyQuery groups ordering => Store.setBodyQuery groups ordering
  | setUrlFilter name value => Store.setUrlFilter name value
  | removeUrlFilter name => Store.removeUrlFilter name
  | setPagination pagination => Store.setPagination pagination
  | setPage page => Store.setPage page
  | setPageSize pageSize => Store.setPageSize pageSize
  | applyQuery params => Store.applyQuery params

/-- Whether an operation leaves the mode alone. -/
def keepsMode : StoreWrite → Bool
  | setMode _ => false
  | _ => true

end StoreWrite

/-- Whether a listener neither fails nor writes to the store it is told by. -/
def Listener.isQuiet (store : Store) (listener : Listener) : Bool :=
  match listener.action with
  | .record => true
  | .once => true
  | .drop id => store.isKnown id
  | .raise => false
  | .nest => false

namespace Store

/-- A store whose subscribed listeners are quiet. -/
def Quiet (store : Store) : Prop := ∀ listener ∈ store.listeners, listener.isQuiet store = true

instance (store : Store) : Decidable store.Quiet :=
  inferInstanceAs (Decidable (∀ listener ∈ store.listeners, listener.isQuiet store = true))

variable {store : Store}

@[simp]
theorem mode_withPagination (pagination : Pagination) (state : StoreState) :
    (state.withPagination pagination).mode = state.mode := by
  unfold StoreState.withPagination
  split <;> rfl

/-- A quiet listener acts without failing, and leaves the state and the memory of
the listeners alone. -/
theorem act_of_quiet {listener : Listener} (quiet : listener.isQuiet store = true)
    (replace : StoreState → Store → Store × Outcome Unit) :
    ∃ after, act replace listener store = (after, .ok ()) ∧ after.state = store.state ∧
      after.known = store.known := by
  unfold Listener.isQuiet at quiet
  cases acts : listener.action with
  | record => exact ⟨store, by simp [act, acts], rfl, rfl⟩
  | once => exact ⟨store.removeListener listener.id, by simp [act, acts], rfl, rfl⟩
  | drop id =>
      have known : store.isKnown id = true := by simpa only [acts] using quiet
      exact ⟨store.removeListener id, by simp [act, acts, unsubscribe, known], rfl, rfl⟩
  | raise => simp [acts] at quiet
  | nest => simp [acts] at quiet

/-- Quiet listeners are all told, and leave the state alone. -/
theorem notify_of_quiet (replace : StoreState → Store → Store × Outcome Unit)
    (old : StoreState) {listeners : List Listener}
    (quiet : ∀ listener ∈ listeners, listener.isQuiet store = true) :
    ∃ after, notify replace old listeners store = (after, .ok ()) ∧ after.state = store.state := by
  induction listeners generalizing store with
  | nil => exact ⟨store, rfl, rfl⟩
  | cons first rest ih =>
      let told : Store := { store with notices := store.notices ++ [⟨first.id, store.state, old⟩] }
      have first_quiet : first.isQuiet told = true := quiet first (by simp)
      obtain ⟨acted, ran, state, known⟩ := act_of_quiet first_quiet replace
      -- Being quiet only depends on who was ever subscribed, which nobody changes here.
      have rest_quiet : ∀ listener ∈ rest, listener.isQuiet acted = true := by
        intro listener member
        have before := quiet listener (by simp [member])
        unfold Listener.isQuiet isKnown at before ⊢
        rw [known]
        exact before
      obtain ⟨after, told_rest, same⟩ := ih rest_quiet
      refine ⟨after, ?_, same.trans state⟩
      simp only [notify]
      rw [ran]
      exact told_rest

/-- A state replaces the old one without a failure if the listeners are quiet. -/
theorem replace_of_quiet (quiet : store.Quiet) (state : StoreState) :
    ∃ after, store.replace state = (after, .ok ()) ∧ after.state = state :=
  notify_of_quiet (replaceWithin 0) store.state quiet

end Store
end CatalogQuery
