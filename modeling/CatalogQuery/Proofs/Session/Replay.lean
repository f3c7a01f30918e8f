import CatalogQuery.Proofs.Session.Place
import CatalogQuery.Proofs.Store.Confinement
import CatalogQuery.Proofs.Store.Content
import CatalogQuery.Proofs.Store.Opening

/-!
# What is written to the store of a session

A session writes to its store too: a refresh takes it to the first page, and a page that
was loaded is written back when it arrives, whatever was written in between.  It only
ever gives the store another page (`paged_step`), so apart from the pages the store
holds what the writes of others alone would have made of it
(`store_keeps_what_is_written`).
-/

namespace CatalogQuery

/-- The write that an event is, if it is one. -/
def SessionEvent.write? : SessionEvent → Option StoreWrite
  | write made => some made
  | _ => none

theorem SessionEvent.write?_eq_some_iff {event : SessionEvent} {made : StoreWrite} :
    event.write? = some made ↔ event = .write made := by
  cases event <;> simp [write?]

/-- The store after writes, one after the other. -/
def Store.replay (store : Store) (writes : List StoreWrite) : Store :=
  writes.foldl (fun store write => (write.apply store).1) store

/-- Whether an event finds quiet listeners, if they may be told something. -/
def SessionEvent.FindsQuiet (session : Session) : SessionEvent → Prop
  | subscribe _ => True
  | unsubscribe _ => True
  | _ => session.Quiet

instance (session : Session) (event : SessionEvent) : Decidable (event.FindsQuiet session) :=
  match event with
  | .begin _ => inferInstanceAs (Decidable session.Quiet)
  | .arrive _ _ => inferInstanceAs (Decidable session.Quiet)
  | .stray _ _ => inferInstanceAs (Decidable session.Quiet)
  | .write _ => inferInstanceAs (Decidable session.Quiet)
  | .subscribe _ => inferInstanceAs (Decidable True)
  | .unsubscribe _ => inferInstanceAs (Decidable True)

namespace Journal

/-- The journal after events, one after the other. -/
def run (journal : Journal) (events : List SessionEvent) : Journal := events.foldl step journal

/-- Whether events that happen one after the other all find quiet listeners. -/
def QuietThrough (journal : Journal) : List SessionEvent → Prop
  | [] => True
  | event :: rest => event.FindsQuiet journal.session ∧ (journal.step event).QuietThrough rest

instance decidableQuietThrough :
    (journal : Journal) → (events : List SessionEvent) → Decidable (journal.QuietThrough events)
  | _, [] => inferInstanceAs (Decidable True)
  | journal, event :: rest =>
      have := decidableQuietThrough (journal.step event) rest
      inferInstanceAs (Decidable (event.FindsQuiet journal.session ∧
        (journal.step event).QuietThrough rest))

end Journal

namespace StoreState

/-- A state that differs from another one at most in the page of the selected part. -/
def Paged (next state : StoreState) : Prop := ∃ page, next = state.withPagination page

theorem Paged.refl (state : StoreState) : state.Paged state := by
  obtain ⟨mode, url, body⟩ := state
  cases mode with
  | url => exact ⟨url.pagination, rfl⟩
  | body => exact ⟨body.pagination, rfl⟩

theorem Paged.content_eq {next state : StoreState} (paged : next.Paged state) :
    next.content = state.content := by
  obtain ⟨page, rfl⟩ := paged
  exact content_withPagination page state

end StoreState

namespace Store

/-- A write calls no listener into being. -/
theorem listeners_apply {store : Store} (silent : store.listeners = []) (write : StoreWrite) :
    (write.apply store).1.listeners = [] := by
  rw [apply_eq_put]
  rcases write.replacement store.state with failure | _ | next
  · exact silent
  · exact silent
  · simp [put, replace, replaceWithin, silent, notify]

end Store

namespace Session

/-- A session is opened with a store that has no listeners. -/
theorem listeners_openView {before opened : Session}
    (opens : before.openView = (opened, .ok ())) {view : View} (shown : opened.view = some view) :
    view.store.listeners = [] := by
  unfold openView at opens
  split at opens
  · cases opens
  · rename_i store made
    obtain ⟨created, creates, paged⟩ := Outcome.bind_eq_ok.mp made
    have silent : store.listeners = [] := by
      split at paged <;> cases paged <;> exact (Store.opened_of_create creates).1
    split at opens
    · cases opens
      cases shown
      exact silent
    · cases opens

theorem openView_eq (session : Session) (succeeds : session.openView.2.isOk = true) :
    session.openView = (session.openView.1, .ok ()) := by
  cases answer : session.openView.2 with
  | ok value => exact Prod.ext rfl answer
  | error failure =>
      rw [answer] at succeeds
      cases succeeds

end Session

namespace Session.Holds

variable {parts : SessionParts} {session : Session}

/-- A call leaves a session open, with a store that is at most at another page. -/
theorem paged_begin (holds : session.Holds parts) (quiet : parts.store.Quiet)
    (call : SessionCall) :
    ∃ after : SessionParts, (call.begin session).session.Holds after ∧
      after.store.state.Paged parts.store.state := by
  have begins := holds.begins_begin quiet call
  generalize call.begin session = started at begins ⊢
  cases begins with
  | stays answer rejected => exact ⟨parts, holds, .refl _⟩
  | turns grounded derived seeks sails =>
      cases sails with
      | sends request made aloft => exact ⟨_, aloft, .refl _⟩
      | refused failure back => exact ⟨_, back, .refl _⟩
  | rewinds grounded state seeks sails =>
      cases sails with
      | sends request made aloft => exact ⟨_, aloft, _, state⟩
      | refused failure back => exact ⟨_, back, _, state⟩

/-- So does an arrival, whichever opening of the session it is for. -/
theorem paged_arrive (holds : session.Holds parts) (quiet : parts.store.Quiet)
    (voyage : Voyage) (arrival : Arrival) :
    ∃ after : SessionParts, (session.arrive voyage arrival).1.Holds after ∧
      after.store.state.Paged parts.store.state := by
  by_cases current : voyage.generation = parts.generation
  · cases lands : parts.engine.land (arrival.page parts.setup.base) with
    | mk landed result =>
        cases result with
        | error failure =>
            obtain ⟨after, -⟩ := holds.arrive_of_error current lands
            exact ⟨_, after, .refl _⟩
        | ok page =>
            obtain ⟨store, after, -, state⟩ := holds.arrive_of_page quiet current lands
            refine ⟨_, after, ?_⟩
            cases commits : voyage.commits with
            | true => exact ⟨landed.request, by simp [state, commits]⟩
            | false => simpa [state, commits] using StoreState.Paged.refl parts.store.state
  · obtain ⟨store, after, same | paged⟩ := holds.arrive_stray quiet current arrival
    · refine ⟨_, after, ?_⟩
      rw [same]
      exact .refl _
    · exact ⟨_, after, _, paged⟩

theorem updateStore (holds : session.Holds parts) (change : Store → Store × Outcome Unit) :
    (session.updateStore change).1.Holds { parts with store := (change parts.store).1 } := by
  rw [holds.updateStore_eq]
  exact holds.withStore _

end Session.Holds

namespace Journal

variable {journal : Journal} {parts : SessionParts}

/-- An event that is no write gives the store at most another page. -/
theorem paged_step (holds : journal.session.Holds parts) {event : SessionEvent}
    (quiet : event.FindsQuiet journal.session) (silent : event.write? = none) :
    ∃ after : SessionParts, (journal.step event).session.Holds after ∧
      after.store.state.Paged parts.store.state := by
  cases event with
  | write made => cases silent
  | begin call =>
      obtain ⟨_, session, -⟩ := journal.exists_step_begin call
      rw [session]
      exact holds.paged_begin (holds.quiet_iff.mp quiet) call
  | arrive place arrival =>
      simp only [step, afterArrival]
      split
      · exact ⟨parts, holds, .refl _⟩
      · exact holds.paged_arrive (holds.quiet_iff.mp quiet) _ arrival
  | stray voyage arrival => exact holds.paged_arrive (holds.quiet_iff.mp quiet) voyage arrival
  | subscribe listener => exact ⟨_, holds.updateStore _, .refl _⟩
  | unsubscribe id =>
      refine ⟨_, holds.updateStore _, ?_⟩
      unfold Store.unsubscribe
      split <;> exact .refl _

theorem run_append (journal : Journal) (past rest : List SessionEvent) :
    journal.run (past ++ rest) = (journal.run past).run rest :=
  List.foldl_append

theorem quietThrough_append {past rest : List SessionEvent} :
    journal.QuietThrough (past ++ rest) ↔
      journal.QuietThrough past ∧ (journal.run past).QuietThrough rest := by
  induction past generalizing journal with
  | nil => simp [QuietThrough, run]
  | cons event past ih =>
      rw [List.cons_append, QuietThrough, ih, QuietThrough, and_assoc]
      rfl

/-- What a store without listeners makes of the writes alone is what the store of the
session holds, if both held the same before. -/
theorem content_run (journal : Journal) (holds : journal.session.Holds parts)
    {events : List SessionEvent} (quiet : journal.QuietThrough events) {bare : Store}
    (silent : bare.listeners = [])
    (same : parts.store.state.content = bare.state.content) :
    ∃ after : SessionParts, (journal.run events).session.Holds after ∧
      after.store.state.content =
        (bare.replay (events.filterMap SessionEvent.write?)).state.content := by
  -- Only the content ties the two runs together: the stores they get to by the same event
  -- are at different pages, and a write may fail at one of them alone.
  induction events generalizing journal parts bare with
  | nil => exact ⟨parts, holds, same⟩
  | cons event rest ih =>
      obtain ⟨now, later⟩ := quiet
      cases writes : event.write? with
      | none =>
          obtain ⟨after, held, paged⟩ := paged_step holds now writes
          have kept := paged.content_eq.trans same
          rw [List.filterMap_cons_none writes]
          exact ih _ held later silent kept
      | some made =>
          obtain rfl := SessionEvent.write?_eq_some_iff.mp writes
          have bare_quiet : bare.Quiet := by simp [Store.Quiet, silent]
          have held : (journal.step (.write made)).session.Holds _ := holds.updateStore made.apply
          have alike := Store.content_apply (holds.quiet_iff.mp now) bare_quiet same made
          rw [List.filterMap_cons_some writes]
          exact ih _ held later (Store.listeners_apply silent made) alike

/-- The store that an open session holds in the end, apart from its pages, is what the
writes of others, in their order, make of the store that it was opened with.  Calls and
arrivals are all the other events, and each of them gives the store at most another
page. -/
theorem store_keeps_what_is_written {before opened : Session}
    (opens : before.openView = (opened, .ok ())) {events : List SessionEvent}
    (quiet : (opening opened).QuietThrough events) :
    ∃ fresh view : View, opened.view = some fresh ∧
      ((opening opened).run events).session.view = some view ∧
        view.store.state.content =
          (fresh.store.replay (events.filterMap SessionEvent.write?)).state.content ∧
        ∀ past event rest, events = past ++ event :: rest → event.write? = none →
          ∃ earlier later : View, ((opening opened).run past).session.view = some earlier ∧
            ((opening opened).run (past ++ [event])).session.view = some later ∧
              later.store.state.Paged earlier.store.state := by
  obtain ⟨_, parts, -, holds, -⟩ := Session.exists_moored_openView opens
  obtain ⟨fresh, shown, -, -, stored⟩ := holds.exists_view
  have silent := Session.listeners_openView opens shown
  have same : parts.store.state.content = fresh.store.state.content := by rw [stored]
  obtain ⟨after, held, content⟩ := content_run (opening opened) holds quiet silent same
  obtain ⟨view, present, _, _, store⟩ := held.exists_view
  refine ⟨fresh, view, shown, present, store ▸ content, ?_⟩
  rintro past event rest rfl still
  obtain ⟨quiet_past, quiet_event, -⟩ := quietThrough_append.mp quiet
  obtain ⟨between, held, -⟩ := content_run (opening opened) holds quiet_past silent same
  obtain ⟨next, kept, paged⟩ := paged_step held quiet_event still
  obtain ⟨earlier, earlier_shown, _, _, earlier_store⟩ := held.exists_view
  obtain ⟨later, later_shown, _, _, later_store⟩ := kept.exists_view
  refine ⟨earlier, later, earlier_shown, ?_, ?_⟩
  · rw [run_append]
    exact later_shown
  · rw [later_store, earlier_store]
    exact paged

/-- A filter is set while the first page is loading, and the mode changed while the
second one is; a page number is refused in the end, as the second page went by cursor. -/
def writtenInFlight : List SessionEvent :=
  [.begin .refresh, .write (.setUrlFilter "title" (.text "x")),
    .arrive 0 (Logbook.pageBefore "a" "b"), .begin (.turn .next),
    .write (.setMode (.text "body")), .arrive 0 (Logbook.pageBefore "b" "c"),
    .write (.setPage (.int 4))]

/-- The filter and the mode stay; the page is the one that the session loaded. -/
theorem writes_in_flight_kept :
    ∃ fresh view : View, Logbook.cursorList.openView.1.view = some fresh ∧
      ((opening Logbook.cursorList.openView.1).run writtenInFlight).session.view = some view ∧
        view.store.state.content =
          (fresh.store.replay (writtenInFlight.filterMap SessionEvent.write?)).state.content ∧
        view.store.state.mode = .body ∧
          view.store.state.pagination = .cursor ⟨some "b", none⟩ := by
  have opens := Session.openView_eq Logbook.cursorList (by decide +kernel)
  have run : (opening Logbook.cursorList.openView.1).QuietThrough writtenInFlight ∧
      ((opening Logbook.cursorList.openView.1).run writtenInFlight).session.view.map
        (fun view => (view.store.state.mode, view.store.state.pagination)) =
          some (.body, .cursor ⟨some "b", none⟩) := by
    decide +kernel
  obtain ⟨quiet, ends⟩ := run
  obtain ⟨fresh, view, shown, present, content, -⟩ := store_keeps_what_is_written opens quiet
  rw [present, Option.map_some, Option.some.injEq, Prod.mk.injEq] at ends
  exact ⟨fresh, view, shown, present, content, ends⟩

end Journal
end CatalogQuery
