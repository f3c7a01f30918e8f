import CatalogQuery.Proofs.Store.Confinement
import Mathlib.Data.List.TakeWhile

/-!
# Replacing the state of a store

Once a write puts another state in the place of the old one, listeners are told, and may
write in turn.  Those that do all set the same filter and look for it first, so at most one
of them writes (`state_replace_eq`).  Writes, including those of listeners, are therefore
all there is to what becomes of the state when a store is written to and listeners come and
go (`state_run`).
-/

namespace CatalogQuery

/-- A state in a store without listeners. -/
def StoreState.alone (state : StoreState) : Store := ⟨state, [], [], []⟩

/-- The state after writes that nobody listens to. -/
def StoreState.after (state : StoreState) (writes : List StoreWrite) : StoreState :=
  writes.foldl (fun state write => (write.apply state.alone).1.state) state

/-- What happens to a store. -/
inductive StoreEvent where
  | write (made : StoreWrite)
  | subscribe (listener : Listener)
  | unsubscribe (id : String)

/-- Whether a listener does not fail when it is told of a change.  It may write to the
store. -/
def Listener.isCalm (store : Store) (listener : Listener) : Bool :=
  match listener.action with
  | .drop id => store.isKnown id
  | .raise => false
  | _ => true

namespace Store

/-- A store whose subscribed listeners do not fail. -/
def Calm (store : Store) : Prop := ∀ listener ∈ store.listeners, listener.isCalm store = true

instance (store : Store) : Decidable store.Calm :=
  inferInstanceAs (Decidable (∀ listener ∈ store.listeners, listener.isCalm store = true))

/-- The listeners that are told of a change and do not fail: after the first failure no
other one is told. -/
def heard (store : Store) : List Listener := store.listeners.takeWhile (·.isCalm store)

/-- What listeners write when they are told of a state: the filter that the first of them
sets keeps the others from it. -/
def answer? (heard : List Listener) (state : StoreState) : Option StoreWrite :=
  if Fields.has "nested" state.url.filters then none
  else (heard.find? (·.action = .nest)).map fun listener =>
    .setUrlFilter "nested" (.text listener.id)

end Store

namespace StoreEvent

/-- The store after an event, with what the event came to. -/
def apply : StoreEvent → Store → Store × Outcome Unit
  | write made, store => made.apply store
  | subscribe listener, store => (store.subscribe listener, .ok ())
  | unsubscribe id, store => store.unsubscribe id

/-- The writes that an event comes to: its own, and that of a listener that is told of
it. -/
def writes (store : Store) : StoreEvent → List StoreWrite
  | write made =>
      match made.replacement store.state with
      | .ok (some next) => made :: (Store.answer? store.heard next).toList
      | _ => [made]
  | _ => []

end StoreEvent

namespace Store

/-- The store after events, one after the other. -/
def run (store : Store) (events : List StoreEvent) : Store :=
  events.foldl (fun store event => (event.apply store).1) store

/-- All writes that events come to, one after the other. -/
def writes (store : Store) : List StoreEvent → List StoreWrite
  | [] => []
  | event :: rest => event.writes store ++ writes (event.apply store).1 rest

/-- A store that is about to tell a listener of a change. -/
def telling (listener : Listener) (old : StoreState) (store : Store) : Store :=
  { store with notices := store.notices ++ [⟨listener.id, store.state, old⟩] }

section Telling

variable {store : Store} {listener : Listener} (old : StoreState)

@[simp]
theorem state_telling : (store.telling listener old).state = store.state := rfl

theorem isCalm_congr {after : Store} (known : after.known = store.known) (listener : Listener) :
    listener.isCalm after = listener.isCalm store := by
  unfold Listener.isCalm isKnown
  rw [known]

theorem act_of_calm (replace : StoreState → Store → Store × Outcome Unit)
    (calm : listener.isCalm store = true)
    (still : listener.action = .nest → Fields.has "nested" store.state.url.filters = true) :
    ∃ after, act replace listener store = (after, .ok ()) ∧ after.state = store.state ∧
      after.known = store.known ∧ after.listeners.Sublist store.listeners := by
  unfold Listener.isCalm at calm
  unfold act
  cases acts : listener.action with
  | record => exact ⟨store, rfl, rfl, rfl, List.Sublist.refl _⟩
  | once => exact ⟨store.removeListener listener.id, rfl, rfl, rfl, List.eraseP_sublist⟩
  | drop id =>
      have known : store.isKnown id = true := by simpa only [acts] using calm
      exact ⟨store.removeListener id, by simp [unsubscribe, known], rfl, rfl, List.eraseP_sublist⟩
  | raise => simp [acts] at calm
  | nest => exact ⟨store, by simp [still acts], rfl, rfl, List.Sublist.refl _⟩

theorem act_of_not_calm (replace : StoreState → Store → Store × Outcome Unit)
    (fails : listener.isCalm store = false) :
    ∃ failure, act replace listener store = (store, .error failure) := by
  unfold Listener.isCalm at fails
  unfold act
  cases acts : listener.action with
  | drop id =>
      have unknown : store.isKnown id = false := by simpa only [acts] using fails
      exact ⟨.noSuchKey, by simp [unsubscribe, unknown]⟩
  | raise => exact ⟨.listenerFailed, rfl⟩
  | _ => simp [acts] at fails

theorem notify_of_not_calm (replace : StoreState → Store → Store × Outcome Unit)
    (fails : listener.isCalm store = false) (rest : List Listener) :
    ∃ failure, notify replace old (listener :: rest) store =
      (store.telling listener old, .error failure) := by
  have still : listener.isCalm (store.telling listener old) = false :=
    (isCalm_congr rfl listener).trans fails
  obtain ⟨failure, acts⟩ := act_of_not_calm replace still
  refine ⟨failure, ?_⟩
  simp only [notify]
  unfold telling at acts
  rw [acts]
  rfl

theorem notify_of_calm (replace : StoreState → Store → Store × Outcome Unit)
    (calm : listener.isCalm store = true)
    (still : listener.action = .nest → Fields.has "nested" store.state.url.filters = true)
    (rest : List Listener) :
    ∃ after, notify replace old (listener :: rest) store = notify replace old rest after ∧
      after.state = store.state ∧ after.known = store.known ∧
        after.listeners.Sublist store.listeners := by
  have calm_now : listener.isCalm (store.telling listener old) = true :=
    (isCalm_congr rfl listener).trans calm
  obtain ⟨after, acts, kept⟩ := act_of_calm replace calm_now still
  refine ⟨after, ?_, kept⟩
  simp only [notify]
  unfold telling at acts
  rw [acts]

/-- Once the filter is there that a listener would set, no listener writes. -/
theorem notify_of_nested (replace : StoreState → Store → Store × Outcome Unit)
    (nested : Fields.has "nested" store.state.url.filters = true) (listeners : List Listener) :
    ∃ after outcome, notify replace old listeners store = (after, outcome) ∧
      after.state = store.state ∧ after.known = store.known ∧
        ((∀ listener ∈ listeners, listener.isCalm store = true) → outcome = .ok ()) := by
  induction listeners generalizing store with
  | nil => exact ⟨store, .ok (), rfl, rfl, rfl, fun _ => rfl⟩
  | cons first rest ih =>
      cases calm : first.isCalm store with
      | false =>
          obtain ⟨failure, told⟩ := notify_of_not_calm old replace calm rest
          refine ⟨_, _, told, rfl, rfl, fun all => ?_⟩
          simp [all first (by simp)] at calm
      | true =>
          obtain ⟨next, told, state, known, -⟩ :=
            notify_of_calm old replace calm (fun _ => nested) rest
          have settled : Fields.has "nested" next.state.url.filters = true := by
            rw [state]
            exact nested
          obtain ⟨after, outcome, told_rest, kept, same, succeeds⟩ := ih settled
          refine ⟨after, outcome, told.trans told_rest, kept.trans state, same.trans known, ?_⟩
          refine fun all => succeeds fun listener member => ?_
          rw [isCalm_congr known]
          exact all listener (by simp [member])

@[simp]
theorem has_withUrlFilter (name : Text) (value : Value) (state : StoreState) :
    Fields.has name (withUrlFilter name value state).url.filters = true := by
  simp [withUrlFilter, Fields.has, Fields.get?_set_self]

/-- A listener that writes replaces the state once more, and tells the listeners that are
subscribed by then. -/
theorem notify_of_nest (acts : listener.action = .nest)
    (free : Fields.has "nested" store.state.url.filters = false) (rest : List Listener) :
    ∃ after, after.state = withUrlFilter "nested" (.text listener.id) store.state ∧
      after.known = store.known ∧
        (notify (replaceWithin 0) old (listener :: rest) store =
            notify (replaceWithin 0) old rest after ∨
          ¬store.Calm ∧ ∃ failure,
            notify (replaceWithin 0) old (listener :: rest) store = (after, .error failure)) := by
  let written := withUrlFilter "nested" (.text listener.id) store.state
  let changed := { store.telling listener old with state := written }
  have nested : Fields.has "nested" changed.state.url.filters = true := has_withUrlFilter _ _ _
  obtain ⟨after, outcome, told, state, known, succeeds⟩ :=
    notify_of_nested store.state (fun _ store => (store, .ok ())) nested store.listeners
  have made : act (replaceWithin 0) listener (store.telling listener old) = (after, outcome) := by
    unfold act
    rw [acts]
    simp only [state_telling, free, Bool.false_eq_true, if_false]
    exact told
  unfold telling at made
  refine ⟨after, state, known, ?_⟩
  simp only [notify]
  rw [made]
  cases outcome with
  | ok value => exact Or.inl rfl
  | error failure =>
      refine Or.inr ⟨fun calm => ?_, failure, rfl⟩
      have succeeded := succeeds fun listener member =>
        (isCalm_congr rfl listener).trans (calm listener member)
      cases succeeded

theorem answer?_of_nested {state : StoreState}
    (nested : Fields.has "nested" state.url.filters = true) (heard : List Listener) :
    answer? heard state = none := by
  simp [answer?, nested]

/-- A listener that writes back sets a filter by its name. -/
theorem exists_of_answer? {heard : List Listener} {state : StoreState} {write : StoreWrite}
    (answers : answer? heard state = some write) :
    ∃ listener : Listener, write = .setUrlFilter "nested" (.text listener.id) := by
  unfold answer? at answers
  split at answers
  · cases answers
  · obtain ⟨listener, _, rfl⟩ := Option.map_eq_some_iff.mp answers
    exact ⟨listener, rfl⟩

theorem after_answer?_of_nest (acts : listener.action = .nest) {state : StoreState}
    (free : Fields.has "nested" state.url.filters = false) (rest : List Listener) :
    state.after (answer? (listener :: rest) state).toList =
      withUrlFilter "nested" (.text listener.id) state := by
  simp only [answer?, free, Bool.false_eq_true, if_false, List.find?_cons, acts, decide_true]
  rfl

/-- Whatever the listeners do when they are told of a state, it comes to their writes. -/
theorem state_notify (listeners : List Listener) :
    (notify (replaceWithin 0) old listeners store).1.state =
      store.state.after
        (answer? (listeners.takeWhile (·.isCalm store)) store.state).toList := by
  cases nested : Fields.has "nested" store.state.url.filters with
  | true =>
      obtain ⟨after, outcome, told, kept, -⟩ :=
        notify_of_nested old (replaceWithin 0) nested listeners
      rw [told, answer?_of_nested nested]
      exact kept
  | false =>
      induction listeners generalizing store with
      | nil => simp [notify, answer?, nested, StoreState.after]
      | cons first rest ih =>
          cases calm : first.isCalm store with
          | false =>
              obtain ⟨failure, told⟩ := notify_of_not_calm old (replaceWithin 0) calm rest
              simp [told, calm, answer?, StoreState.after]
          | true =>
              rw [List.takeWhile_cons_of_pos calm]
              by_cases acts : first.action = .nest
              · rw [after_answer?_of_nest acts nested]
                obtain ⟨after, state, -, goes_on | ⟨-, failure, told⟩⟩ :=
                  notify_of_nest old acts nested rest
                · have settled : Fields.has "nested" after.state.url.filters = true := by
                    rw [state]
                    exact has_withUrlFilter _ _ _
                  obtain ⟨last, outcome, told, kept, -⟩ :=
                    notify_of_nested old (replaceWithin 0) settled rest
                  rw [goes_on, told, ← state]
                  exact kept
                · rw [told, ← state]
              · obtain ⟨after, told, state, known, -⟩ :=
                  notify_of_calm old (replaceWithin 0) calm
                    (fun writes => absurd writes acts) rest
                have silent : answer? (first :: rest.takeWhile (·.isCalm store)) store.state =
                    answer? (rest.takeWhile (·.isCalm store)) store.state := by
                  simp [answer?, acts]
                rw [told, ih (by rw [state]; exact nested), silent, state]
                simp only [isCalm_congr known]

theorem notify_succeeds (calm : store.Calm) {listeners : List Listener}
    (all : ∀ listener ∈ listeners, listener.isCalm store = true) :
    (notify (replaceWithin 0) old listeners store).2 = .ok () := by
  induction listeners generalizing store with
  | nil => rfl
  | cons first rest ih =>
      have first_calm := all first (by simp)
      by_cases writes :
          first.action = .nest ∧ Fields.has "nested" store.state.url.filters = false
      · obtain ⟨after, state, known, goes_on | ⟨fails, -⟩⟩ :=
          notify_of_nest old writes.1 writes.2 rest
        · have settled : Fields.has "nested" after.state.url.filters = true := by
            rw [state]
            exact has_withUrlFilter _ _ _
          obtain ⟨last, outcome, told, -, -, succeeds⟩ :=
            notify_of_nested old (replaceWithin 0) settled rest
          rw [goes_on, told]
          refine succeeds fun listener member => ?_
          rw [isCalm_congr known]
          exact all listener (by simp [member])
        · exact absurd calm fails
      · obtain ⟨after, told, state, known, listeners⟩ :=
          notify_of_calm old (replaceWithin 0) first_calm
            (fun acts => by simpa [acts] using writes) rest
        have calm_after : after.Calm := fun listener member => by
          rw [isCalm_congr known]
          exact calm listener (listeners.subset member)
        rw [told]
        refine ih calm_after fun listener member => ?_
        rw [isCalm_congr known]
        exact all listener (by simp [member])

end Telling

variable {store : Store}

theorem state_replace_eq (store : Store) (next : StoreState) :
    (store.replace next).1.state = next.after (answer? store.heard next).toList :=
  state_notify store.state store.listeners

theorem heard_of_calm (calm : store.Calm) : store.heard = store.listeners :=
  List.takeWhile_eq_self_iff.mpr calm

theorem replace_succeeds (calm : store.Calm) (next : StoreState) :
    ∃ after, store.replace next = (after, .ok ()) := by
  have calm_next : Store.Calm { store with state := next } := calm
  have told : (store.replace next).2 = .ok () := notify_succeeds store.state calm_next calm
  exact ⟨_, Prod.ext rfl told⟩

end Store

namespace StoreState

theorem after_append (state : StoreState) (first second : List StoreWrite) :
    state.after (first ++ second) = (state.after first).after second :=
  List.foldl_append

theorem after_cons (state : StoreState) (write : StoreWrite) (rest : List StoreWrite) :
    state.after (write :: rest) =
      StoreState.after (match write.replacement state with
        | .ok (some next) => next
        | _ => state) rest := by
  have alone : (write.apply state.alone).1.state = match write.replacement state with
      | .ok (some next) => next
      | _ => state := by
    rw [Store.apply_eq_put]
    change (Store.put (write.replacement state) state.alone).1.state = _
    cases write.replacement state with
    | error failure => rfl
    | ok made => cases made <;> rfl
  rw [after, List.foldl_cons, alone]
  rfl

end StoreState

namespace Store

theorem state_apply (event : StoreEvent) (store : Store) :
    (event.apply store).1.state = store.state.after (event.writes store) := by
  cases event with
  | subscribe listener => rfl
  | unsubscribe id =>
      simp only [StoreEvent.apply, unsubscribe, StoreEvent.writes]
      split <;> rfl
  | write made =>
      simp only [StoreEvent.apply, apply_eq_put, StoreEvent.writes]
      cases found : made.replacement store.state with
      | error failure =>
          rw [StoreState.after_cons, found]
          rfl
      | ok next =>
          cases next with
          | none =>
              rw [StoreState.after_cons, found]
              rfl
          | some next =>
              simp only [put]
              rw [state_replace_eq, StoreState.after_cons, found]

/-- The state in the end is what all writes make of the first one, those of listeners
included. -/
theorem state_run (store : Store) (events : List StoreEvent) :
    (store.run events).state = store.state.after (store.writes events) := by
  induction events generalizing store with
  | nil => rfl
  | cons event rest ih =>
      calc (store.run (event :: rest)).state
          = ((event.apply store).1.run rest).state := rfl
        _ = (event.apply store).1.state.after ((event.apply store).1.writes rest) := ih _
        _ = store.state.after (store.writes (event :: rest)) := by
          rw [state_apply, writes, StoreState.after_append]

end Store
end CatalogQuery
