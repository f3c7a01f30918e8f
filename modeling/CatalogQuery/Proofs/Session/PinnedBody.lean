import CatalogQuery.Proofs.Session.Frame
import CatalogQuery.Proofs.Store.Confinement

/-!
# The pinned body

Turning a page keeps the search that the last refresh compiled, whatever was
written to the store since.  The invariant, `Session.Phase`, says what a session
in body mode can be in the middle of.  As long as no page was seen, no page can
be turned; once one was seen, it was the last refresh that loaded it, and the
body is still the one that this refresh sent.
-/

namespace CatalogQuery

/-- Two bodies that search for the same, apart from the page. -/
structure SearchBody.Agrees (body other : SearchBody) : Prop where
  entity : body.entity = other.entity
  filter : body.filter = other.filter
  orderParams : body.orderParams = other.orderParams

/-- The body of a refresh: it was compiled from the store of that time, and was
sent for the first page. -/
def Refresh.Sent (setup : SessionSetup) (body : Option SearchBody) (refresh : Refresh) : Prop :=
  ∃ (source : Store) (first : Pagination) (request : Request), refresh.source = some source ∧
    body = some (source.compile none).body ∧ refresh.request = some request ∧
      Request.ofAsk setup.base setup.token
        (.search ((source.compile none).body.withQuery first)) = .ok request

/-- A refresh that loaded a page. -/
def Refresh.Loaded (refresh : Refresh) : Prop := ∃ page, refresh.answer = some (.ok (some page))

/-- What a session can be in the middle of. -/
inductive Session.Phase (parts : SessionParts) : List Trip → Option Refresh → Prop where
  /-- No page was seen, or none since a refresh that failed. -/
  | blank (latest : Option Refresh) (grounded : parts.engine.flight = none)
      (unseen : parts.engine.pageInfo = none) : Phase parts [] latest
  | refreshing {refresh : Refresh} {flight : Flight} (flies : parts.engine.flight = some flight)
      (unseen : parts.engine.pageInfo = none) (sent : refresh.Sent parts.setup parts.body) :
      Phase parts [⟨⟨parts.generation, false⟩, some refresh.number⟩] (some refresh)
  | settled {refresh : Refresh} (grounded : parts.engine.flight = none)
      (seen : parts.engine.pageInfo.isSome = true) (sent : refresh.Sent parts.setup parts.body)
      (loaded : refresh.Loaded) : Phase parts [] (some refresh)
  | turning {refresh : Refresh} {flight : Flight} (flies : parts.engine.flight = some flight)
      (seen : parts.engine.pageInfo.isSome = true) (sent : refresh.Sent parts.setup parts.body)
      (loaded : refresh.Loaded) :
      Phase parts [⟨⟨parts.generation, true⟩, none⟩] (some refresh)

/-- A request for another page that keeps the search of the last refresh: the
entity, the filters and the order are those of the body that the refresh sent,
and those that the store was compiled to when it did, and only the page is
another, the one that the engine derives. -/
def Journal.KeepsSearch (setup : SessionSetup) (turn : PageTurn) (request : Request)
    (journal : Journal) : Prop :=
  ∃ (engine : Engine) (query : Pagination) (refresh : Refresh) (source : Store)
    (page : PageResponse) (refreshRequest : Request) (refreshBody body : SearchBody),
    journal.session.requireEngine = .ok engine ∧ turn.request engine = .ok query ∧
      journal.latest = some refresh ∧ refresh.source = some source ∧
      refresh.request = some refreshRequest ∧ refresh.answer = some (.ok (some page)) ∧
      Request.ofAsk setup.base setup.token (.search refreshBody) = .ok refreshRequest ∧
      Request.ofAsk setup.base setup.token (.search body) = .ok request ∧
      body.Agrees refreshBody ∧ body.Agrees (source.compile none).body ∧ body.query = query

/-- A journal of a session in body mode that is in the middle of something. -/
def Journal.Pinned (setup : SessionSetup) (journal : Journal) : Prop :=
  ∃ parts : SessionParts, journal.session.Holds parts ∧ parts.setup = setup ∧
    parts.store.state.mode = .body ∧ Session.Phase parts journal.trips journal.latest

theorem SearchBody.agrees_withQuery (body : SearchBody) (query : Pagination) :
    (body.withQuery query).Agrees body :=
  ⟨rfl, rfl, rfl⟩

namespace Session

theorem Phase.withStore {parts : SessionParts} {trips : List Trip} {latest : Option Refresh}
    (phase : Phase parts trips latest) (store : Store) :
    Phase { parts with store } trips latest := by
  cases phase with
  | blank latest grounded unseen => exact .blank latest grounded unseen
  | refreshing flies unseen sent => exact .refreshing flies unseen sent
  | settled grounded seen sent loaded => exact .settled grounded seen sent loaded
  | turning flies seen sent loaded => exact .turning flies seen sent loaded

theorem Phase.trips_eq_nil {parts : SessionParts} {trips : List Trip} {latest : Option Refresh}
    (phase : Phase parts trips latest) (grounded : parts.engine.flight = none) : trips = [] := by
  cases phase with
  | blank => rfl
  | settled => rfl
  | refreshing flies => simp [flies] at grounded
  | turning flies => simp [flies] at grounded

/-- A page that can be turned was loaded by the last refresh. -/
theorem Phase.of_seen {parts : SessionParts} {trips : List Trip} {latest : Option Refresh}
    (phase : Phase parts trips latest) (grounded : parts.engine.flight = none)
    (seen : parts.engine.pageInfo.isSome = true) :
    trips = [] ∧ ∃ refresh, latest = some refresh ∧ refresh.Sent parts.setup parts.body ∧
      refresh.Loaded := by
  cases phase with
  | blank latest lands unseen => simp [unseen] at seen
  | refreshing flies => simp [flies] at grounded
  | turning flies => simp [flies] at grounded
  | @settled refresh lands seen sent loaded => exact ⟨rfl, refresh, rfl, sent, loaded⟩

/-- A session that was opened has seen no page. -/
theorem holds_openView {before opened : Session} (opens : before.openView = (opened, .ok ()))
    {view : View} (shown : opened.view = some view) :
    ∃ parts : SessionParts, opened.Holds parts ∧ parts.setup = opened.setup ∧
      parts.store = view.store ∧ parts.engine.flight = none ∧ parts.engine.pageInfo = none := by
  unfold openView at opens
  split at opens
  · cases opens
  · rename_i store _
    split at opens
    · cases opens
      cases shown
      exact ⟨⟨_, _, _, _, _⟩, ⟨rfl, rfl, _, rfl, rfl, rfl, rfl⟩, rfl, rfl, rfl, rfl⟩
    · cases opens

end Session

namespace Journal

variable {setup : SessionSetup} {journal : Journal}

/-- A page can be turned only if one was seen and none is loading. -/
theorem pinned_afterTurn (pinned : journal.Pinned setup) (turn : PageTurn) :
    (journal.afterTurn turn).Pinned setup := by
  obtain ⟨parts, holds, same, searches, phase⟩ := pinned
  have starts := turn.starts_start parts.engine
  unfold afterTurn
  rw [turn.begin_eq]
  generalize begun : turn.start parts.engine = result at starts
  cases starts with
  | stays departure nothing =>
      obtain ⟨answer, stays⟩ := holds.navigate_of_stays begun nothing true
      simp only [stays, Progress.voyage?, Option.map_none, Option.toList_none, List.append_nil]
      exact ⟨parts, holds, same, searches, phase⟩
  | leaves origin request grounded derived =>
      have seen := PageTurn.isSome_of_request derived
      -- A page was seen, so the session is settled: the other cases cannot depart.
      obtain ⟨empty, refresh, last, sent, loaded⟩ := phase.of_seen grounded seen
      obtain ⟨source, _, _, _, compiled, _⟩ := id sent
      have navigates := holds.navigates_navigate searches compiled begun rfl true
      generalize journal.session.navigate true turn.start = started at navigates
      rw [empty, last]
      cases navigates with
      | sends request made aloft =>
          exact ⟨_, aloft, same, searches, .turning rfl seen sent loaded⟩
      | refused failure back => exact ⟨_, back, same, searches, .settled rfl seen sent loaded⟩

/-- A refresh that is not rejected compiles the body anew and forgets the last
page. -/
theorem pinned_afterRefresh (pinned : journal.Pinned setup) (quiet : journal.session.Quiet) :
    journal.afterRefresh.Pinned setup := by
  obtain ⟨parts, holds, same, searches, phase⟩ := pinned
  unfold afterRefresh
  cases flies : parts.engine.flight with
  | some flight =>
      rw [holds.refresh_of_flight flies]
      exact ⟨parts, holds, same, searches, phase⟩
  | none =>
      obtain ⟨store, started, dropped, state, begun, navigates⟩ :=
        holds.navigates_refresh (holds.quiet_iff.mp quiet) searches flies
      have mode : store.state.mode = .body := by rw [state, Store.mode_withPagination, searches]
      rw [begun, phase.trips_eq_nil flies]
      cases navigates with
      | @sends session request made aloft =>
          let refresh : Refresh :=
            ⟨journal.refreshes, session.view.map (·.store), some request, none⟩
          have sent : refresh.Sent parts.setup (some (store.compile none).body) :=
            ⟨store, _, request, aloft.store_eq, rfl, rfl, made⟩
          refine ⟨_, aloft, same, mode, ?_⟩
          change Session.Phase _ [⟨⟨parts.generation, false⟩, some refresh.number⟩] (some refresh)
          exact .refreshing rfl rfl sent
      | refused failure back => exact ⟨_, back, same, mode, .blank _ rfl rfl⟩

/-- The end of a refresh settles the session if it loaded a page; the end of any
other load always does. -/
theorem pinned_afterArrival (pinned : journal.Pinned setup) (quiet : journal.session.Quiet)
    (place : Nat) (arrival : Arrival) : (journal.afterArrival place arrival).Pinned setup := by
  obtain ⟨parts, holds, same, searches, phase⟩ := pinned
  have still := holds.quiet_iff.mp quiet
  unfold afterArrival
  cases found : journal.trips[place]? with
  | none => exact ⟨parts, holds, same, searches, phase⟩
  | some trip =>
      generalize journal.trips = trips at phase found ⊢
      generalize journal.latest = latest at phase ⊢
      -- At most one load is under way, so what arrives is at the front.
      have at_front : ∀ only : Trip, [only][place]? = some trip → place = 0 ∧ only = trip := by
        intro only there
        cases place with
        | zero => exact ⟨rfl, Option.some.inj there⟩
        | succ place => simp at there
      cases phase with
      | blank latest grounded unseen => simp at found
      | settled => simp at found
      | @refreshing refresh flight flies unseen sent =>
          obtain ⟨rfl, rfl⟩ := at_front _ found
          have current : (Voyage.mk parts.generation false).generation = parts.generation := rfl
          rcases Engine.land_eq flies (arrival.page parts.setup.base) with
            ⟨page, _, _, lands⟩ | ⟨failure, lands⟩
          · obtain ⟨store, after, answer, state⟩ := holds.arrive_of_page still current lands
            have mode : store.state.mode = .body := state ▸ searches
            refine ⟨_, after, same, mode, ?_⟩
            have ended : refresh.afterEnd (some refresh.number) (.ok (some page)) =
                { refresh with answer := some (.ok (some page)) } :=
              if_pos rfl
            simp only [answer, List.eraseIdx_cons_zero, Option.map_some, ended]
            exact .settled rfl rfl sent ⟨page, rfl⟩
          · obtain ⟨after, reported, answer⟩ := holds.arrive_of_error current lands
            exact ⟨_, after, same, searches, .blank _ rfl unseen⟩
      | @turning refresh flight flies seen sent loaded =>
          obtain ⟨rfl, rfl⟩ := at_front _ found
          have current : (Voyage.mk parts.generation true).generation = parts.generation := rfl
          have other (answer : Outcome (Option PageResponse)) :
              refresh.afterEnd none answer = refresh :=
            if_neg (by simp)
          rcases Engine.land_eq flies (arrival.page parts.setup.base) with
            ⟨page, _, _, lands⟩ | ⟨failure, lands⟩
          · obtain ⟨store, after, answer, state⟩ := holds.arrive_of_page still current lands
            have mode : store.state.mode = .body := by
              rw [state, if_pos rfl, Store.mode_withPagination, searches]
            refine ⟨_, after, same, mode, ?_⟩
            simp only [List.eraseIdx_cons_zero, Option.map_some, other]
            exact .settled rfl rfl sent loaded
          · obtain ⟨after, _⟩ := holds.arrive_of_error current lands
            refine ⟨_, after, same, searches, ?_⟩
            simp only [List.eraseIdx_cons_zero, Option.map_some, other]
            exact .settled rfl seen sent loaded

theorem pinned_stray (pinned : journal.Pinned setup) (quiet : journal.session.Quiet)
    {voyage : Voyage}
    (former : ∀ view, journal.session.view = some view → voyage.generation ≠ view.generation)
    (arrival : Arrival) : (journal.step (.stray voyage arrival)).Pinned setup := by
  obtain ⟨parts, holds, same, searches, phase⟩ := pinned
  obtain ⟨view, shown, opened, _, _⟩ := holds.exists_view
  have other : voyage.generation ≠ parts.generation := opened ▸ former view shown
  obtain ⟨store, after, state⟩ :=
    holds.arrive_stray (holds.quiet_iff.mp quiet) other arrival
  refine ⟨_, after, same, ?_, phase.withStore store⟩
  rcases state with kept | paged
  · rw [kept, searches]
  · rw [paged, Store.mode_withPagination, searches]

/-- Whatever is done to the store, the body is not compiled again. -/
theorem pinned_afterChange (pinned : journal.Pinned setup)
    {change : Store → Store × Outcome Unit}
    (mode : ∀ view, journal.session.view = some view →
      (change view.store).1.state.mode = view.store.state.mode) :
    (journal.afterChange change).Pinned setup := by
  obtain ⟨parts, holds, same, searches, phase⟩ := pinned
  obtain ⟨view, shown, _, _, stored⟩ := holds.exists_view
  unfold afterChange
  rw [holds.updateStore_eq]
  refine ⟨_, holds.withStore _, same, ?_, phase.withStore _⟩
  rw [← stored, mode view shown, stored, searches]

theorem pinned_step (pinned : journal.Pinned setup) {event : SessionEvent}
    (permitted : event.Permitted journal.session) : (journal.step event).Pinned setup := by
  cases event with
  | begin call =>
      cases call with
      | refresh => exact pinned_afterRefresh pinned permitted
      | turn turn => exact pinned_afterTurn pinned turn
  | arrive place arrival => exact pinned_afterArrival pinned permitted place arrival
  | stray voyage arrival => exact pinned_stray pinned permitted.1 permitted.2 arrival
  | write made =>
      apply pinned_afterChange pinned
      intro view shown
      exact Store.mode_apply (permitted.1 view shown) permitted.2
  | subscribe listener =>
      apply pinned_afterChange pinned
      intro view shown
      rfl
  | unsubscribe id =>
      apply pinned_afterChange pinned
      intro view shown
      unfold Store.unsubscribe
      split <;> rfl

/-- Every run leaves a session in the middle of something. -/
theorem Reached.pinned {before opened : Session} (opens : before.openView = (opened, .ok ()))
    {view : View} (shown : opened.view = some view) (searches : view.store.state.mode = .body)
    (reached : Reached opened journal) : journal.Pinned opened.setup := by
  induction reached with
  | opening =>
      obtain ⟨parts, holds, same, stored, grounded, unseen⟩ :=
        Session.holds_openView opens shown
      exact ⟨parts, holds, same, stored ▸ searches, .blank none grounded unseen⟩
  | step reached permitted ih => exact pinned_step ih permitted

/-- A page that is turned is asked for with the search of the last refresh that was
not rejected, which loaded a page. -/
theorem turned_page_keeps_search {before opened : Session}
    (opens : before.openView = (opened, .ok ())) {view : View} (shown : opened.view = some view)
    (searches : view.store.state.mode = .body) (reached : Reached opened journal)
    {turn : PageTurn} {voyage : Voyage} {request : Request}
    (sends : (turn.begin journal.session).progress = .sending voyage request) :
    journal.KeepsSearch opened.setup turn request := by
  obtain ⟨parts, holds, same, drives, phase⟩ := reached.pinned opens shown searches
  rw [turn.begin_eq] at sends
  have starts := turn.starts_start parts.engine
  generalize begun : turn.start parts.engine = result at starts
  cases starts with
  | stays departure nothing =>
      obtain ⟨answer, stays⟩ := holds.navigate_of_stays begun nothing true
      rw [stays] at sends
      cases sends
  | leaves origin query grounded derived =>
      obtain ⟨_, refresh, last, sent, page, answered⟩ :=
        phase.of_seen grounded (PageTurn.isSome_of_request derived)
      obtain ⟨source, first, refreshRequest, stored, compiled, asked, made⟩ := sent
      have navigates := holds.navigates_navigate drives compiled begun rfl true
      generalize journal.session.navigate true turn.start = started at navigates sends
      cases navigates with
      | refused failure back => cases sends
      | sends sent_request made_now aloft =>
          cases sends
          rw [same] at made
          simp only [same] at made_now
          let pinned := (source.compile none).body
          exact ⟨parts.engine, query, refresh, source, page, refreshRequest,
            pinned.withQuery first, pinned.withQuery query, holds.requireEngine_eq, derived,
            last, stored, asked, answered, made, made_now, ⟨rfl, rfl, rfl⟩,
            pinned.agrees_withQuery query, rfl⟩

/-- A closed session for a search by cursors. -/
def cursorSearch : Session :=
  ⟨⟨"series", .text "body", some (.cursor ⟨none, none⟩), none, [], "",
      ⟨['h'], [], ['h'], none, [], none, none⟩⟩,
    none, .ok 20, none, none, none, 0, []⟩

/-- The response with a first page that has a page after it. -/
def firstPage : Response :=
  ⟨200,
    ("\x7b\"data\":[],\"pageInfo\":\x7b\"__kind\":\"CursorPaginationInfo\"," ++
      "\"currentCursor\":\"a\",\"nextCursor\":\"b\"\x7d\x7d").toList.map Char.toNat⟩

/-- A first page that was loaded while an order was written to the store. -/
def loadedWhileWriting : Journal :=
  (((opening cursorSearch.openView.1).step (.begin .refresh)).step
    (.write (.setBodyQuery none (some [⟨"title", .desc⟩])))).step (.arrive 0 (.answered firstPage))

/-- The page after it is asked for, without the order. -/
theorem turned_page_keeps_search_while_writing :
    ∃ voyage request,
      (PageTurn.next.begin loadedWhileWriting.session).progress = .sending voyage request ∧
        loadedWhileWriting.KeepsSearch cursorSearch.openView.1.setup .next request := by
  have opens : cursorSearch.openView = (cursorSearch.openView.1, .ok ()) := by
    have succeeds : cursorSearch.openView.2.isOk = true := by decide +kernel
    cases answer : cursorSearch.openView.2 with
    | ok value => exact Prod.ext rfl answer
    | error failure =>
        rw [answer] at succeeds
        cases succeeds
  have drives : cursorSearch.openView.1.view.map (·.store.state.mode) = some .body := by
    decide +kernel
  obtain ⟨view, shown, searches⟩ := Option.map_eq_some_iff.mp drives
  have reached : Reached cursorSearch.openView.1 loadedWhileWriting := by
    unfold loadedWhileWriting
    refine .step (.step (.step .opening ?_) ?_) ?_
    · decide +kernel
    · decide +kernel
    · decide +kernel
  have turns : (PageTurn.next.begin loadedWhileWriting.session).progress.voyage?.isSome := by
    decide +kernel
  cases sends : (PageTurn.next.begin loadedWhileWriting.session).progress with
  | ended answer =>
      rw [sends] at turns
      cases turns
  | sending voyage request =>
      exact ⟨voyage, request, rfl, turned_page_keeps_search opens shown searches reached sends⟩

end Journal
end CatalogQuery
