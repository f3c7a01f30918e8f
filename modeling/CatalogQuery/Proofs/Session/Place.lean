import CatalogQuery.Proofs.Session.Frame
import CatalogQuery.Proofs.Session.Logbook
import CatalogQuery.Proofs.Store.Opening

/-!
# The place of a session

The store and the engine each keep a pagination, written at different moments: a
refresh rewinds both, an engine that departs takes on the page that it goes to and
gives it up again if the load fails, and the store follows only once the page is
there.  The invariant, `Session.Moored`, says that the store is always at the place
of the session, and that the engine is too unless it is loading; then it is the
place that it would return to.
-/

namespace CatalogQuery

/-- What a session at a place can be in the middle of. -/
inductive Session.Moored (opening : Pagination) (parts : SessionParts) :
    List Trip → List Pagination → Option Stay → Prop where
  /-- Nothing is loading.  Before the first refresh no page was seen. -/
  | resting {stay : Option Stay} (grounded : parts.engine.flight = none)
      (unseen : stay = none → parts.engine.pageInfo = none)
      (request : parts.engine.request = Stay.place opening stay)
      (shown : parts.store.state.pagination = Stay.place opening stay) :
      Moored opening parts [] [] stay
  /-- One load is under way; if it is not written back, it goes to where the session
  is. -/
  | loading {stay : Stay} {flight : Flight} {commits : Bool} {refresh : Option Nat}
      (flies : parts.engine.flight = some flight)
      (restores : flight.restore = Stay.place opening (some stay))
      (shown : parts.store.state.pagination = Stay.place opening (some stay))
      (stays : commits = false → parts.engine.request = Stay.place opening (some stay)) :
      Moored opening parts [⟨⟨parts.generation, commits⟩, refresh⟩] [parts.engine.request]
        (some stay)

/-- What a call can come to. -/
inductive Session.Begins (parts : SessionParts) (session : Session) :
    SessionCall → Started → Prop where
  /-- It ends at once, which rejects a refresh. -/
  | stays {call : SessionCall} (answer : Outcome (Option PageResponse))
      (rejected : call = .refresh → answer = .ok none) :
      Begins parts session call ⟨session, [], .ended answer⟩
  | turns {turn : PageTurn} {origin : Option Text} {goal : Pagination}
      {body : Option SearchBody} {ask : Ask} {dropped : List QueryOrder} {started : Started}
      (grounded : parts.engine.flight = none) (derived : turn.request parts.engine = .ok goal)
      (seeks : ask.Seeks parts.store goal)
      (sails : Sails
        { parts with engine := (parts.engine.depart turn.navigation origin goal).1, body } ask
        dropped ⟨turn.navigation, parts.engine.request, origin⟩ true started) :
      Begins parts session (.turn turn) started
  | rewinds {store : Store} {body : Option SearchBody} {ask : Ask} {dropped : List QueryOrder}
      {started : Started} (grounded : parts.engine.flight = none)
      (state : store.state =
        parts.store.state.withPagination parts.store.state.pagination.rewind)
      (seeks : ask.Seeks store parts.store.state.pagination.rewind)
      (sails : Sails
        { parts with
          body
          engine :=
            { parts.engine.restart parts.store.state.pagination.rewind with
              flight := some ⟨.refetch, parts.store.state.pagination.rewind, none⟩ }
          store }
        ask dropped ⟨.refetch, parts.store.state.pagination.rewind, none⟩ false started) :
      Begins parts session .refresh started

/-- A logbook of a session at its place. -/
def Logbook.Moored (opening : Pagination) (logbook : Logbook) : Prop :=
  ∃ parts : SessionParts, logbook.journal.session.Holds parts ∧
    Session.Moored opening parts logbook.journal.trips logbook.goals logbook.stay

namespace Session

variable {opening : Pagination} {parts : SessionParts} {trips : List Trip}
  {goals : List Pagination} {stay : Option Stay} {session : Session}

theorem Moored.pagination_eq (moored : Moored opening parts trips goals stay) :
    parts.store.state.pagination = Stay.place opening stay := by
  cases moored with
  | resting grounded unseen request shown => exact shown
  | loading flies restores shown stays => exact shown

theorem Moored.withStore (moored : Moored opening parts trips goals stay) {store : Store}
    (same : store.state.pagination = parts.store.state.pagination) :
    Moored opening { parts with store } trips goals stay := by
  cases moored with
  | resting grounded unseen request shown =>
      exact .resting grounded unseen request (same.trans shown)
  | loading flies restores shown stays => exact .loading flies restores (same.trans shown) stays

theorem Moored.of_grounded (moored : Moored opening parts trips goals stay)
    (grounded : parts.engine.flight = none) :
    trips = [] ∧ goals = [] ∧ parts.engine.request = Stay.place opening stay ∧
      (stay = none → parts.engine.pageInfo = none) := by
  cases moored with
  | resting grounded unseen request shown => exact ⟨rfl, rfl, request, unseen⟩
  | loading flies => simp [flies] at grounded

theorem Moored.trips_eq_nil_iff (moored : Moored opening parts trips goals stay) :
    parts.engine.inFlight = false ↔ trips = [] := by
  cases moored with
  | resting grounded => simp [Engine.inFlight, grounded]
  | loading flies => simp [Engine.inFlight, flies]

theorem Holds.goal_refresh (holds : session.Holds parts) :
    SessionCall.refresh.goal session = .ok parts.store.state.pagination.rewind := by
  obtain ⟨view, shown, _, _, stored⟩ := holds.exists_view
  simp [SessionCall.goal, requireView_of_view shown, stored, bind, Except.bind]

theorem Holds.goal_turn (holds : session.Holds parts) (turn : PageTurn) :
    (SessionCall.turn turn).goal session = turn.request parts.engine := by
  simp [SessionCall.goal, holds.requireEngine_eq, bind, Except.bind]

/-- Everything that a call can come to. -/
theorem Holds.begins_begin (holds : session.Holds parts) (quiet : parts.store.Quiet)
    (call : SessionCall) : Begins parts session call (call.begin session) := by
  cases call with
  | refresh =>
      cases flies : parts.engine.flight with
      | some flight =>
          rw [SessionCall.begin, holds.refresh_of_flight flies]
          exact .stays (.ok none) fun _ => rfl
      | none =>
          obtain ⟨store, body, ask, dropped, state, seeks, sails⟩ :=
            holds.exists_sails_refresh quiet flies
          exact .rewinds flies state seeks sails
  | turn turn =>
      have starts := turn.starts_start parts.engine
      rw [SessionCall.begin, turn.begin_eq]
      generalize begun : turn.start parts.engine = result at starts
      cases starts with
      | stays departure nothing =>
          obtain ⟨answer, stays⟩ := holds.navigate_of_stays begun nothing true
          rw [stays]
          exact .stays answer fun never => by cases never
      | leaves origin goal grounded derived =>
          obtain ⟨body, ask, dropped, seeks, sails⟩ := holds.exists_sails_navigate begun rfl true
          exact .turns grounded derived seeks sails

/-- What a call sends asks for the page that the call goes to. -/
theorem Holds.exists_seeks_goal (holds : session.Holds parts) (quiet : parts.store.Quiet)
    {call : SessionCall} {voyage : Voyage} {request : Request}
    (sends : (call.begin session).progress = .sending voyage request) :
    ∃ (goal : Pagination) (store : Store) (ask : Ask), call.goal session = .ok goal ∧
      ask.Seeks store goal ∧
        Request.ofAsk parts.setup.base parts.setup.token ask = .ok request := by
  have begins := holds.begins_begin quiet call
  generalize call.begin session = started at begins sends
  cases begins with
  | stays answer rejected => cases sends
  | @turns turn origin goal body ask dropped started grounded derived seeks sails =>
      cases sails with
      | refused failure back => cases sends
      | sends sent made aloft =>
          cases sends
          exact ⟨goal, parts.store, ask, (holds.goal_turn turn).trans derived, seeks, made⟩
  | @rewinds store body ask dropped started grounded state seeks sails =>
      cases sails with
      | refused failure back => cases sends
      | sends sent made aloft =>
          cases sends
          exact ⟨_, store, ask, holds.goal_refresh, seeks, made⟩

/-- A store is opened at the opening page. -/
theorem openingPage_of_openingStore {store : Store} (opens : session.openingStore = .ok store) :
    session.openingPage = .ok store.state.pagination := by
  obtain ⟨created, creates, opens⟩ := Outcome.bind_eq_ok.mp opens
  unfold openingPage
  cases paged : session.setup.pagination with
  | some page =>
      rw [paged] at opens
      cases opens
      simp
  | none =>
      rw [paged] at opens
      cases opens
      obtain ⟨size, sized, first⟩ := Store.openingPage_of_create creates rfl
      rw [sized]
      exact first

theorem exists_moored_openView {before opened : Session}
    (opens : before.openView = (opened, .ok ())) :
    ∃ (opening : Pagination) (parts : SessionParts), before.openingPage = .ok opening ∧
      opened.Holds parts ∧ Moored opening parts [] [] none := by
  unfold openView at opens
  split at opens
  · cases opens
  · rename_i store made
    split at opens
    · cases opens
      exact ⟨store.state.pagination, ⟨_, _, _, _, _⟩, openingPage_of_openingStore made,
        ⟨rfl, rfl, _, rfl, rfl, rfl, rfl⟩, .resting rfl (fun _ => rfl) rfl rfl⟩
    · cases opens

end Session

namespace Logbook

variable {opening : Pagination} {logbook : Logbook}

theorem moored_afterCall (moored : logbook.Moored opening)
    (quiet : logbook.journal.session.Quiet) (call : SessionCall) :
    (logbook.afterCall call).Moored opening := by
  obtain ⟨parts, holds, moored⟩ := moored
  obtain ⟨refresh, session_eq, trips_eq⟩ := logbook.journal.exists_step_begin call
  have begins := holds.begins_begin (holds.quiet_iff.mp quiet) call
  simp only [Moored, afterCall, session_eq, trips_eq]
  generalize call.begin logbook.journal.session = started at begins ⊢
  cases begins with
  | stays answer rejected =>
      have kept : ¬(call = .refresh ∧ (Progress.ended answer).isRejection = false) := by
        rintro ⟨refreshes, accepted⟩
        rw [rejected refreshes] at accepted
        cases accepted
      simp only [if_neg kept, Progress.voyage?, Option.map_none, Option.bind_none,
        Option.toList_none, List.append_nil]
      exact ⟨parts, holds, moored⟩
  | @turns turn origin goal body ask dropped started grounded derived seeks sails =>
      obtain ⟨alone, idle, requested, unseen⟩ := moored.of_grounded grounded
      -- A page can only be turned if one was seen, so there was a refresh.
      have seen := PageTurn.isSome_of_request derived
      have shown := moored.pagination_eq
      cases rested : logbook.stay with
      | none => simp [unseen rested] at seen
      | some stay =>
          rw [rested] at requested shown
          rw [alone, idle, holds.goal_turn, derived]
          cases sails with
          | sends sent made aloft =>
              exact ⟨_, aloft, .loading rfl requested shown fun never => by cases never⟩
          | refused failure back =>
              exact ⟨_, back, .resting rfl (fun never => by cases never) requested shown⟩
  | @rewinds store body ask dropped started grounded state seeks sails =>
      obtain ⟨alone, idle, _, _⟩ := moored.of_grounded grounded
      have rewound : store.state.pagination = parts.store.state.pagination.rewind := by
        rw [state, StoreState.pagination_withPagination]
      rw [alone, idle, holds.goal_refresh]
      cases sails with
      | sends sent made aloft => exact ⟨_, aloft, .loading rfl rfl rewound fun _ => rfl⟩
      | refused failure back =>
          exact ⟨_, back, .resting rfl (fun never => by cases never) rfl rewound⟩

theorem moored_afterArrival (moored : logbook.Moored opening)
    (quiet : logbook.journal.session.Quiet) (place : Nat) (arrival : Arrival) :
    (logbook.afterArrival place arrival).Moored opening := by
  obtain ⟨⟨session, trips, refreshes, latest⟩, stay, goals⟩ := logbook
  obtain ⟨parts, holds, moored⟩ := moored
  simp only at holds moored quiet
  have still := holds.quiet_iff.mp quiet
  simp only [afterArrival, Journal.step, Journal.afterArrival]
  cases moored with
  | resting grounded unseen request shown =>
      exact ⟨parts, holds, .resting grounded unseen request shown⟩
  | @loading stay flight commits refresh flies restores shown stays =>
      cases place with
      | succ place => exact ⟨parts, holds, .loading flies restores shown stays⟩
      | zero =>
          have current : (Voyage.mk parts.generation commits).generation = parts.generation := rfl
          simp only [List.getElem?_cons_zero, List.eraseIdx_cons_zero]
          rcases Engine.land_eq flies (arrival.page parts.setup.base) with
            ⟨page, _, _, lands⟩ | ⟨failure, lands⟩
          · obtain ⟨store, after, answer, state⟩ := holds.arrive_of_page still current lands
            -- A refresh does not write its page back, but went to where the store is.
            have written : store.state.pagination = parts.engine.request := by
              rw [state]
              cases commits with
              | true => exact StoreState.pagination_withPagination _ _
              | false => exact shown.trans (stays rfl).symm
            rw [answer]
            exact ⟨_, after, .resting rfl (fun never => by cases never) rfl written⟩
          · obtain ⟨after, reported, answer⟩ := holds.arrive_of_error current lands
            rw [answer]
            exact ⟨_, after, .resting rfl (fun never => by cases never) restores shown⟩

theorem moored_stray (moored : logbook.Moored opening) (quiet : logbook.journal.session.Quiet)
    {voyage : Voyage}
    (former : ∀ view ∈ logbook.journal.session.view, voyage.generation ≠ view.generation)
    (idle : logbook.journal.trips = []) (arrival : Arrival) :
    (logbook.step (.stray voyage arrival)).Moored opening := by
  obtain ⟨parts, holds, moored⟩ := moored
  obtain ⟨view, shown, opened, _, _⟩ := holds.exists_view
  have other : voyage.generation ≠ parts.generation := opened ▸ former view shown
  obtain ⟨store, after, state⟩ := holds.arrive_stray (holds.quiet_iff.mp quiet) other arrival
  have grounded : parts.engine.flight = none := by
    simpa [Engine.inFlight] using moored.trips_eq_nil_iff.mpr idle
  obtain ⟨_, _, requested, _⟩ := moored.of_grounded grounded
  -- While nothing is loading the engine is at the place, so its page can be written back.
  have same : store.state.pagination = parts.store.state.pagination := by
    rcases state with kept | paged
    · rw [kept]
    · rw [paged, StoreState.pagination_withPagination, requested, moored.pagination_eq]
  exact ⟨_, after, moored.withStore same⟩

theorem moored_afterChange (moored : logbook.Moored opening)
    {change : Store → Store × Outcome Unit}
    (same : ∀ view ∈ logbook.journal.session.view,
      (change view.store).1.state.pagination = view.store.state.pagination) :
    Moored opening { logbook with journal := logbook.journal.afterChange change } := by
  obtain ⟨parts, holds, moored⟩ := moored
  obtain ⟨view, shown, _, _, stored⟩ := holds.exists_view
  have kept := same view shown
  rw [stored] at kept
  simp only [Journal.afterChange]
  rw [holds.updateStore_eq]
  exact ⟨_, holds.withStore _, moored.withStore kept⟩

theorem moored_step (moored : logbook.Moored opening) {event : SessionEvent}
    (permitted : event.Permitted logbook.journal.session)
    (keeps : event.KeepsPages logbook.journal) : (logbook.step event).Moored opening := by
  cases event with
  | begin call => exact moored_afterCall moored permitted call
  | arrive place arrival => exact moored_afterArrival moored permitted place arrival
  | stray voyage arrival =>
      exact moored_stray moored permitted.1 permitted.2 (List.isEmpty_iff.mp keeps) arrival
  | write made =>
      apply moored_afterChange moored
      intro view shown
      exact (Store.samePages_apply (permitted.1 view shown) keeps).pagination_eq
  | subscribe listener =>
      apply moored_afterChange moored
      intro view shown
      rfl
  | unsubscribe id =>
      apply moored_afterChange moored
      intro view shown
      unfold Store.unsubscribe
      split <;> rfl

/-- Every run leaves a session at its place. -/
theorem Reached.moored {opened : Session} {parts : SessionParts} (holds : opened.Holds parts)
    (opens : Session.Moored opening parts [] [] none) (reached : Reached opened logbook) :
    logbook.Moored opening := by
  induction reached with
  | opening => exact ⟨parts, holds, opens⟩
  | step reached permitted keeps ih => exact moored_step ih permitted keeps

/-- The store of an open session is at its place, and so is the engine while it is
not loading. -/
theorem store_keeps_up_with_engine {before opened : Session}
    (opens : before.openView = (opened, .ok ())) (reached : Reached opened logbook) :
    ∃ (opening : Pagination) (view : View) (engine : Engine),
      before.openingPage = .ok opening ∧ logbook.journal.session.view = some view ∧
        view.engine = some engine ∧
          view.store.state.pagination = Stay.place opening logbook.stay ∧
            (engine.inFlight = false ↔ logbook.journal.trips = []) ∧
              (engine.inFlight = false → engine.request = view.store.state.pagination) := by
  obtain ⟨opening, parts, page, held, moored⟩ := Session.exists_moored_openView opens
  obtain ⟨parts, holds, moored⟩ := reached.moored held moored
  obtain ⟨view, shown, _, engine, stored⟩ := holds.exists_view
  refine ⟨opening, view, parts.engine, page, shown, engine, ?_, moored.trips_eq_nil_iff, ?_⟩
  · rw [stored, moored.pagination_eq]
  · intro idle
    have grounded : parts.engine.flight = none := by simpa [Engine.inFlight] using idle
    obtain ⟨_, _, requested, _⟩ := moored.of_grounded grounded
    rw [requested, stored, moored.pagination_eq]

/-- Whatever an open session sends asks for the page that the logbook writes down. -/
theorem sent_request_seeks_goal {before opened : Session}
    (opens : before.openView = (opened, .ok ())) (reached : Reached opened logbook)
    (quiet : logbook.journal.session.Quiet) {call : SessionCall} {voyage : Voyage}
    {request : Request}
    (sends : (call.begin logbook.journal.session).progress = .sending voyage request) :
    ∃ (goal : Pagination) (store : Store) (ask : Ask),
      call.goal logbook.journal.session = .ok goal ∧ ask.Seeks store goal ∧
        Request.ofAsk logbook.journal.session.setup.base logbook.journal.session.setup.token
          ask = .ok request := by
  obtain ⟨opening, parts, _, held, moored⟩ := Session.exists_moored_openView opens
  obtain ⟨parts, holds, _⟩ := reached.moored held moored
  rw [holds.setup_eq]
  exact holds.exists_seeks_goal (holds.quiet_iff.mp quiet) sends

/-- A closed session for a list by cursors. -/
def cursorList : Session :=
  ⟨⟨"series", .text "url", some (.cursor ⟨none, none⟩), none, [], "",
      ⟨['h'], [], ['h'], none, [], none, none⟩⟩,
    none, .ok 20, none, none, none, 0, []⟩

/-- The response with a page that has a page after it. -/
def pageBefore (current next : String) : Arrival :=
  .answered ⟨200,
    ("\x7b\"data\":[],\"pageInfo\":\x7b\"__kind\":\"CursorPaginationInfo\"," ++
      "\"currentCursor\":\"" ++ current ++ "\",\"nextCursor\":\"" ++ next ++
      "\"\x7d\x7d").toList.map Char.toNat⟩

/-- A second page is loaded while a filter is set, and a third one is cancelled. -/
def turnsInList : List SessionEvent :=
  [.begin .refresh, .arrive 0 (pageBefore "a" "b"), .begin (.turn .next),
    .write (.setUrlFilter "title" (.text "x")), .arrive 0 (pageBefore "b" "c"),
    .begin (.turn .next), .arrive 0 (.failed .cancelled)]

/-- The logbook after that. -/
def turnedInList : Logbook := turnsInList.foldl step (.opening cursorList.openView.1)

/-- Both are at the second page in the end. -/
theorem second_page_kept_when_third_is_lost :
    ∃ (view : View) (engine : Engine),
      turnedInList.journal.session.view = some view ∧ view.engine = some engine ∧
        view.store.state.pagination = .cursor ⟨some "b", none⟩ ∧
          engine.request = .cursor ⟨some "b", none⟩ := by
  have opens : cursorList.openView = (cursorList.openView.1, .ok ()) := by
    have succeeds : cursorList.openView.2.isOk = true := by decide +kernel
    cases answer : cursorList.openView.2 with
    | ok value => exact Prod.ext rfl answer
    | error failure =>
        rw [answer] at succeeds
        cases succeeds
  -- One evaluation of the run decides all that is needed of it.
  have run : (Logbook.opening cursorList.openView.1).Allows turnsInList ∧
      turnedInList.journal.trips.isEmpty = true ∧
        turnedInList.stay = some ⟨.cursor ⟨none, none⟩, some (.cursor ⟨some "b", none⟩)⟩ := by
    decide +kernel
  obtain ⟨allows, alone, stayed⟩ := run
  have reached : Reached cursorList.openView.1 turnedInList := Reached.opening.foldl allows
  obtain ⟨_, view, engine, _, shown, held, place, idle, same⟩ :=
    store_keeps_up_with_engine opens reached
  rw [stayed] at place
  have grounded := idle.mpr (List.isEmpty_iff.mp alone)
  exact ⟨view, engine, shown, held, place, (same grounded).trans place⟩

end Logbook
end CatalogQuery
