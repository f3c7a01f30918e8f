import CatalogQuery.Proofs.Store.Isolation
import CatalogQuery.Proofs.Store.PageAddress
import CatalogQuery.Proofs.Store.Roll

/-!
# Telling listeners of changes

Listeners that only listen are told of every change of the state, each as often as the roll
says that it is subscribed, with the state after the change and the state before it.  What
fails or removes nothing is told to nobody, so the states that a listener is told of follow
on each other.  A subscription is told of changes until its own function is called, unless
a call strays before (`changes_told_to_standing`); a repeated call does
(`repeated_call_ends_other_subscription`).
-/

namespace CatalogQuery

/-- A change of the state, with the listeners of the subscriptions that stand. -/
structure Change where
  old : StoreState
  new : StoreState
  audience : List String

/-- The calls of a listener that a change is told with. -/
def Change.calls (listener : String) (change : Change) : List Notice :=
  List.replicate (change.audience.count listener) ⟨listener, change.new, change.old⟩

/-- Changes that lead from one state to another, each from where the one before it led. -/
inductive Linked : StoreState → List Change → StoreState → Prop where
  | none (state : StoreState) : Linked state [] state
  | next (change : Change) {rest : List Change} {last : StoreState}
      (later : Linked change.new rest last) : Linked change.old (change :: rest) last

/-- Whether a write replaces the state: it succeeds, and does not remove a filter that is
missing. -/
def StoreWrite.replaces (store : Store) (write : StoreWrite) : Bool :=
  match (write.apply store).2, write with
  | .error _, _ => false
  | .ok _, .removeUrlFilter name => Fields.has name store.state.url.filters
  | .ok _, _ => true

/-- A store with the roll of its subscriptions. -/
structure AttendedStore where
  store : Store
  roll : Roll

namespace SubscriptionEvent

/-- What an event comes to for the store, given the listeners of all subscriptions. -/
def event? (made : List String) : SubscriptionEvent → Option StoreEvent
  | subscribe listener => some (.subscribe ⟨listener, .record⟩)
  | cancel subscription => made[subscription]?.map .unsubscribe
  | write made => some (.write made)

/-- The change that an event makes, if it makes one. -/
def change? (attended : AttendedStore) : SubscriptionEvent → Option Change
  | write made =>
      if made.replaces attended.store then
        some ⟨attended.store.state, (made.apply attended.store).1.state, attended.roll.listeners⟩
      else none
  | _ => none

end SubscriptionEvent

namespace AttendedStore

def step (attended : AttendedStore) (event : SubscriptionEvent) : AttendedStore where
  store := (event.event? attended.roll.made).elim attended.store (·.apply attended.store |>.1)
  roll := attended.roll.step event

def run (attended : AttendedStore) (events : List SubscriptionEvent) : AttendedStore :=
  events.foldl step attended

/-- The changes that events make, one after the other. -/
def changes (attended : AttendedStore) : List SubscriptionEvent → List Change
  | [] => []
  | event :: rest => (event.change? attended).toList ++ (attended.step event).changes rest

end AttendedStore

/-! ## Calls of listeners -/

namespace Store

variable {store : Store}

theorem notify_of_recorders (replace : StoreState → Store → Store × Outcome Unit)
    (old : StoreState) {listeners : List Listener}
    (recorders : ∀ listener ∈ listeners, listener.action = .record) (store : Store) :
    notify replace old listeners store =
      ({ store with
          notices := store.notices ++
            listeners.map fun listener => ⟨listener.id, store.state, old⟩ },
        .ok ()) := by
  induction listeners generalizing store with
  | nil => simp [notify]
  | cons first rest ih =>
      obtain ⟨recorder, others⟩ := List.forall_mem_cons.mp recorders
      simp only [notify, act, recorder]
      rw [ih others]
      simp

/-- What a write comes to, if listeners only listen. -/
theorem apply_of_recorders (recorders : ∀ listener ∈ store.listeners, listener.action = .record)
    (write : StoreWrite) :
    (write.replaces store = true ∧ ∃ next, (write.apply store).1 =
      { store with
        state := next
        notices := store.notices ++
          store.listeners.map fun listener => ⟨listener.id, next, store.state⟩ }) ∨
    write.replaces store = false ∧ (write.apply store).1 = store := by
  unfold StoreWrite.replaces
  rw [apply_eq_put]
  cases found : write.replacement store.state with
  | error failure => exact Or.inr ⟨rfl, rfl⟩
  | ok made =>
      cases made with
      | none =>
          obtain ⟨name, rfl, absent⟩ := StoreWrite.removes_of_replacement found
          exact Or.inr ⟨absent, rfl⟩
      | some next =>
          have replaced := notify_of_recorders (replaceWithin 0) store.state recorders
            { store with state := next }
          change store.replace next = _ at replaced
          refine Or.inl ⟨?_, next, by rw [put, replaced]⟩
          simp only [put, replaced]
          split
          · next failed => cases failed
          · next name _ =>
            simp only [StoreWrite.replacement] at found
            split at found
            · next present => exact present
            · cases found
          · rfl

/-- A listener that only listens is subscribed once more, and is known from then on. -/
theorem exists_subscribe_eq (recorders : ∀ listener ∈ store.known, listener.action = .record)
    (id : String) :
    ∃ known, store.subscribe ⟨id, .record⟩ =
        { store with listeners := store.listeners ++ [⟨id, .record⟩], known } ∧
      (∀ listener ∈ known, listener.action = .record) ∧
        ∀ other, known.any (·.id == other) = true ↔
          store.isKnown other = true ∨ other = id := by
  unfold subscribe isKnown
  cases found : store.known.find? (·.id == id) with
  | none =>
      have unknown : store.known.any (·.id == id) = false := by
        simpa using List.find?_eq_none.mp found
      refine ⟨store.known ++ [⟨id, .record⟩], by simp [unknown], ?_, fun other => ?_⟩
      · intro listener member
        rcases List.mem_append.mp member with before | new
        · exact recorders listener before
        · rw [List.mem_singleton.mp new]
      · simp [@eq_comm _ other]
  | some known =>
      have named : known.id = id := by simpa using List.find?_some found
      have member := List.mem_of_find?_eq_some found
      obtain rfl : known = ⟨id, .record⟩ := by
        obtain ⟨id, action⟩ := known
        cases named
        rw [← recorders _ member]
      have familiar : store.known.any (·.id == id) = true :=
        List.any_eq_true.mpr ⟨_, member, beq_self_eq_true id⟩
      refine ⟨store.known, by simp [familiar], recorders, fun other => ?_⟩
      refine ⟨Or.inl, ?_⟩
      rintro (before | rfl)
      · exact before
      · exact familiar

end Store

namespace Linked

theorem append {first middle last : StoreState} {changes later : List Change}
    (linked : Linked first changes middle) (onward : Linked middle later last) :
    Linked first (changes ++ later) last := by
  induction linked with
  | none state => exact onward
  | next change _ ih => exact .next change (ih onward)

end Linked

namespace AttendedStore

variable {attended : AttendedStore}

/-- A store whose listeners are those of the subscriptions that stand, and only listen. -/
structure Kept (attended : AttendedStore) : Prop where
  listening : ∀ listener ∈ attended.store.listeners, listener.action = .record
  recorders : ∀ listener ∈ attended.store.known, listener.action = .record
  known : ∀ listener ∈ attended.roll.made, attended.store.isKnown listener = true
  registered : (attended.store.listeners.map (·.id)).Perm attended.roll.listeners
  sound : attended.roll.Sound

theorem kept_of_create {size : Outcome Int} {setup : StoreSetup} {store : Store}
    (creates : Store.create size setup = .ok store) :
    Kept ⟨store, .empty⟩ ∧ store.notices = [] := by
  obtain ⟨_, _, _, _, -, -, -, -, rfl⟩ := Store.create_eq_ok_iff.mp creates
  exact ⟨⟨by simp, by simp, by simp [Roll.empty], .refl _, Roll.sound_empty⟩, rfl⟩

theorem filter_notices (kept : attended.Kept) (old new : StoreState) (name : String) :
    (attended.store.listeners.map fun listener => (⟨listener.id, new, old⟩ : Notice)).filter
        (·.listener == name) =
      Change.calls name ⟨old, new, attended.roll.listeners⟩ := by
  rw [Change.calls, ← kept.registered.count_eq]
  generalize attended.store.listeners = listeners
  induction listeners with
  | nil => rfl
  | cons first rest ih =>
      by_cases same : first.id = name <;> simp [same, ih, List.replicate_succ]

theorem kept_subscribe (kept : attended.Kept) (listener : String) :
    (attended.step (.subscribe listener)).Kept := by
  obtain ⟨listening, recorders, known, registered, sound⟩ := kept
  obtain ⟨now_known, subscribed, still, familiar⟩ :=
    Store.exists_subscribe_eq recorders listener
  have made : (attended.step (.subscribe listener)).store =
      { attended.store with
        listeners := attended.store.listeners ++ [⟨listener, .record⟩]
        known := now_known } := subscribed
  refine ⟨?_, ?_, ?_, ?_, sound.step (.subscribe listener)⟩ <;> rw [made]
  · simpa [or_imp, forall_and] using listening
  · exact still
  · intro name member
    refine (familiar name).mpr ?_
    rcases List.mem_append.mp member with before | new
    · exact Or.inl (known name before)
    · exact Or.inr (List.mem_singleton.mp new)
  · simp only [step, Roll.listeners_subscribe sound, List.map_append]
    exact registered.append_right _

theorem kept_cancel (kept : attended.Kept) (subscription : Nat) :
    (attended.step (.cancel subscription)).Kept := by
  obtain ⟨listening, recorders, known, registered, sound⟩ := kept
  cases named : attended.roll.made[subscription]? with
  | none =>
      have same : attended.step (.cancel subscription) = attended := by
        simp only [step, SubscriptionEvent.event?, named, Roll.step_cancel_of_unmade sound named]
        rfl
      rw [same]
      exact ⟨listening, recorders, known, registered, sound⟩
  | some listener =>
      have familiar := known listener (List.mem_of_getElem? named)
      have made : (attended.step (.cancel subscription)).store =
          attended.store.removeListener listener := by
        simp [step, SubscriptionEvent.event?, named, StoreEvent.apply, Store.unsubscribe, familiar]
      have erased : (attended.store.removeListener listener).listeners.map (·.id) =
          (attended.store.listeners.map (·.id)).erase listener := by
        rw [List.erase_eq_eraseP', List.eraseP_map]
        rfl
      refine ⟨?_, ?_, ?_, ?_, sound.step (.cancel subscription)⟩ <;> rw [made]
      · exact fun other stays => listening other (List.mem_of_mem_eraseP stays)
      · exact recorders
      · exact known
      · -- The first registration of the listener goes, whichever subscription ends.
        rw [erased]
        exact (registered.erase listener).trans (Roll.listeners_cancel named).symm

theorem kept_write (kept : attended.Kept) (made : StoreWrite) :
    (attended.step (.write made)).Kept := by
  obtain ⟨listening, recorders, known, registered, sound⟩ := kept
  have told : (attended.step (.write made)).store = (made.apply attended.store).1 := rfl
  rcases Store.apply_of_recorders listening made with ⟨-, next, replaced⟩ | ⟨-, same⟩
  · refine ⟨?_, ?_, ?_, ?_, sound⟩ <;> rw [told, replaced]
    exacts [listening, recorders, known, registered]
  · refine ⟨?_, ?_, ?_, ?_, sound⟩ <;> rw [told, same]
    exacts [listening, recorders, known, registered]

theorem kept_step (kept : attended.Kept) (event : SubscriptionEvent) :
    (attended.step event).Kept := by
  cases event with
  | subscribe listener => exact kept_subscribe kept listener
  | cancel subscription => exact kept_cancel kept subscription
  | write made => exact kept_write kept made

/-- What one event comes to: a change of the state that is told, or neither. -/
theorem told_step (kept : attended.Kept) (event : SubscriptionEvent) :
    Linked attended.store.state (event.change? attended).toList
        (attended.step event).store.state ∧
      ∀ name, (attended.step event).store.notices.filter (·.listener == name) =
        attended.store.notices.filter (·.listener == name) ++
          (event.change? attended).toList.flatMap (Change.calls name) := by
  cases event with
  | subscribe listener => exact ⟨.none _, fun name => (List.append_nil _).symm⟩
  | cancel subscription =>
      have untouched : (attended.step (.cancel subscription)).store.state = attended.store.state ∧
          (attended.step (.cancel subscription)).store.notices = attended.store.notices := by
        simp only [step, SubscriptionEvent.event?]
        cases attended.roll.made[subscription]? with
        | none => exact ⟨rfl, rfl⟩
        | some listener =>
            simp only [Option.map_some, Option.elim_some, StoreEvent.apply, Store.unsubscribe]
            split <;> exact ⟨rfl, rfl⟩
      rw [untouched.1, untouched.2]
      exact ⟨.none _, fun name => (List.append_nil _).symm⟩
  | write made =>
      have told : (attended.step (.write made)).store = (made.apply attended.store).1 := rfl
      rw [told]
      simp only [SubscriptionEvent.change?]
      rcases Store.apply_of_recorders kept.listening made with
        ⟨replaces, next, replaced⟩ | ⟨idle, same⟩
      · rw [replaces, replaced]
        have linked := Linked.next ⟨attended.store.state, next, attended.roll.listeners⟩ (.none _)
        refine ⟨linked, fun name => ?_⟩
        simp [filter_notices kept]
      · rw [idle, same]
        exact ⟨.none _, fun name => (List.append_nil _).symm⟩

theorem told_run (kept : attended.Kept) (events : List SubscriptionEvent) :
    Linked attended.store.state (attended.changes events) (attended.run events).store.state ∧
      ∀ name, (attended.run events).store.notices.filter (·.listener == name) =
        attended.store.notices.filter (·.listener == name) ++
          (attended.changes events).flatMap (Change.calls name) := by
  induction events generalizing attended with
  | nil => exact ⟨.none _, by simp [run, changes]⟩
  | cons event rest ih =>
      obtain ⟨linked, calls⟩ := told_step kept event
      obtain ⟨onward, later⟩ := ih (kept_step kept event)
      refine ⟨linked.append onward, fun name => ?_⟩
      calc (attended.run (event :: rest)).store.notices.filter (·.listener == name)
          = (attended.step event).store.notices.filter (·.listener == name) ++
              ((attended.step event).changes rest).flatMap (Change.calls name) := later name
        _ = attended.store.notices.filter (·.listener == name) ++
              (attended.changes (event :: rest)).flatMap (Change.calls name) := by
          rw [calls, changes, List.flatMap_append, List.append_assoc]

theorem roll_run (attended : AttendedStore) (events : List SubscriptionEvent) :
    (attended.run events).roll = events.foldl Roll.step attended.roll := by
  induction events generalizing attended with
  | nil => rfl
  | cons event rest ih => exact ih (attended.step event)

/-- Every change of the state of a store is told to the listeners of the subscriptions that
stand, once for each of them, with the state after it and the state before it, and nothing
else is told.  No subscription stands once its own function was called, and until then all
of them stand in exactly those runs in which no call ends another subscription than its
own. -/
theorem changes_told_to_standing {size : Outcome Int} {setup : StoreSetup} {store : Store}
    (creates : Store.create size setup = .ok store) (events : List SubscriptionEvent) :
    let start : AttendedStore := ⟨store, .empty⟩
    let finish := start.run events
    finish.roll = Roll.of events ∧ (Roll.of events).Sound ∧
      Linked store.state (start.changes events) finish.store.state ∧
      (∀ name, finish.store.notices.filter (·.listener == name) =
        (start.changes events).flatMap (Change.calls name)) ∧
      (∀ number ∈ (Roll.of events).standing, OpenAfter events number) ∧
      ((∀ before, before <+: events →
          ∀ number, OpenAfter before number → number ∈ (Roll.of before).standing) ↔
        Roll.empty.strays events = false) := by
  intro start finish
  obtain ⟨kept, untold⟩ := kept_of_create creates
  obtain ⟨linked, calls⟩ := told_run kept events
  refine ⟨roll_run start events, Roll.sound_of events, linked, fun name => ?_,
    fun number stands => openAfter_of_standing stands, standing_throughout_iff events⟩
  rw [calls, untold]
  rfl

/-- Two listeners, one of them subscribed twice.  Some of the writes fail or remove
nothing. -/
def threeSubscriptions : List SubscriptionEvent :=
  [.subscribe "a", .subscribe "b", .subscribe "a",
    .write (.setUrlFilter "genre" (.text "drama")), .cancel 0, .cancel 1,
    .write (.removeUrlFilter "missing"), .write (.setMode (.text "weekly")),
    .write (.setMode (.text "body")), .cancel 2, .cancel 2, .write (.setMode (.text "url"))]

theorem told_until_cancelled :
    ∃ store, Store.create (.ok 20) Store.plainSetup = .ok store ∧
      let finish := run ⟨store, .empty⟩ threeSubscriptions
      (finish.store.notices.filter (·.listener == "a")).map
          (fun call => (call.old.mode, call.new.mode)) =
            [(.url, .url), (.url, .url), (.url, .body)] ∧
        (finish.store.notices.filter (·.listener == "b")).length = 1 ∧
          ∀ before, before <+: threeSubscriptions →
            ∀ number, OpenAfter before number → number ∈ (Roll.of before).standing := by
  obtain ⟨store, creates⟩ : ∃ store, Store.create (.ok 20) Store.plainSetup = .ok store :=
    ⟨_, rfl⟩
  obtain ⟨-, -, -, calls, -, complete⟩ := changes_told_to_standing creates threeSubscriptions
  have orderly : Roll.empty.strays threeSubscriptions = false := by decide
  cases creates
  refine ⟨_, rfl, ?_, ?_, complete.mpr orderly⟩
  · rw [calls]
    rfl
  · rw [calls]
    rfl

/-- A function that is called a second time ends the subscription whose own function was
never called. -/
theorem repeated_call_ends_other_subscription :
    let events : List SubscriptionEvent :=
      [.subscribe "a", .subscribe "a", .cancel 1, .cancel 1]
    let write : StoreWrite := .setMode (.text "body")
    ∃ store, Store.create (.ok 20) Store.plainSetup = .ok store ∧
      let attended := run ⟨store, .empty⟩ events
      OpenAfter events 0 ∧ write.replaces attended.store = true ∧
        (attended.step (.write write)).store.notices = [] := by
  intro events write
  exact ⟨_, rfl, ⟨[], "a", _, rfl, rfl, by simp⟩, rfl, rfl⟩

end AttendedStore
end CatalogQuery
