import CatalogQuery.Proofs.Pagination.Traffic
import CatalogQuery.Proofs.Session.Journal

/-!
# What an open session keeps

The compiled body, the engine and the store of an open session change at
different moments.  `Session.Holds` names them, and each operation of a session
has one lemma that says which of them it changes.  Listeners are quiet wherever
the store is written to.
-/

namespace CatalogQuery

/-- What counts of an open session. -/
structure SessionParts where
  setup : SessionSetup
  body : Option SearchBody
  generation : Nat
  engine : Engine
  store : Store

/-- The parts of an open session. -/
structure Session.Holds (parts : SessionParts) (session : Session) : Prop where
  setup_eq : session.setup = parts.setup
  body_eq : session.body = parts.body
  exists_view : ∃ view, session.view = some view ∧ view.generation = parts.generation ∧
    view.engine = some parts.engine ∧ view.store = parts.store

/-- What a navigation comes to that departs in a session with a compiled body. -/
inductive Session.Navigates (parts : SessionParts) (pinned : SearchBody) (flight : Flight)
    (pagination : Pagination) (commits : Bool) : Started → Prop where
  | sends {session : Session} (request : Request)
      (made : Request.ofAsk parts.setup.base parts.setup.token
        (.search (pinned.withQuery pagination)) = .ok request)
      (holds : session.Holds parts) :
      Navigates parts pinned flight pagination commits
        ⟨session, [], .sending ⟨parts.generation, commits⟩ request⟩
  | refused {session : Session} (failure : Failure)
      (holds : session.Holds { parts with engine := parts.engine.rolledBack flight }) :
      Navigates parts pinned flight pagination commits ⟨session, [], .ended (.error failure)⟩

/-- What a navigation comes to that asks for something: it is sent, or the engine
comes back if there is no such request. -/
inductive Session.Sails (parts : SessionParts) (ask : Ask) (dropped : List QueryOrder)
    (flight : Flight) (commits : Bool) : Started → Prop where
  | sends {session : Session} (request : Request)
      (made : Request.ofAsk parts.setup.base parts.setup.token ask = .ok request)
      (holds : session.Holds parts) :
      Sails parts ask dropped flight commits
        ⟨session, dropped, .sending ⟨parts.generation, commits⟩ request⟩
  | refused {session : Session} (failure : Failure)
      (holds : session.Holds { parts with engine := parts.engine.rolledBack flight }) :
      Sails parts ask dropped flight commits ⟨session, dropped, .ended (.error failure)⟩

/-- Something that is asked of a server, for a page. -/
inductive Ask.Seeks (store : Store) (goal : Pagination) : Ask → Prop where
  | list (entity : Entity) : Seeks store goal (.list entity (store.queryParams (some goal)))
  | search (body : SearchBody) : Seeks store goal (.search (body.withQuery goal))

namespace PageTurn

theorem begin_eq (turn : PageTurn) (session : Session) :
    turn.begin session = session.navigate true turn.start := by
  cases turn <;> rfl

end PageTurn

namespace Engine

/-- An engine that has started over fetches the page that it was given. -/
theorem refetch_restart {engine : Engine} (grounded : engine.flight = none) (first : Pagination) :
    (engine.restart first).refetch none =
      ({ engine.restart first with flight := some ⟨.refetch, first, none⟩ }, .fetching first) := by
  simp [restart, refetch, inFlight, depart, grounded]

end Engine

namespace Session

variable {parts : SessionParts} {session : Session}

theorem requireView_of_view {view : View} (shown : session.view = some view) :
    session.requireView = .ok view := by
  simp [requireView, shown]

namespace Holds

theorem quiet_iff (holds : session.Holds parts) : session.Quiet ↔ parts.store.Quiet := by
  obtain ⟨view, shown, _, _, stored⟩ := holds.exists_view
  constructor
  · intro quiet
    rw [← stored]
    exact quiet view shown
  · intro quiet other also
    rw [← Option.some.inj (shown.symm.trans also), stored]
    exact quiet

theorem requireEngine_eq (holds : session.Holds parts) :
    session.requireEngine = .ok parts.engine := by
  obtain ⟨view, shown, _, held, _⟩ := holds.exists_view
  simp [requireEngine, requireView, shown, held, bind, Except.bind]

theorem store_eq (holds : session.Holds parts) :
    session.view.map (·.store) = some parts.store := by
  obtain ⟨view, shown, _, _, stored⟩ := holds.exists_view
  rw [shown, ← stored]
  rfl

theorem withEngine (holds : session.Holds parts) (engine : Engine) :
    (session.withEngine engine).Holds { parts with engine } := by
  obtain ⟨view, shown, opened, _, stored⟩ := holds.exists_view
  refine ⟨holds.setup_eq, holds.body_eq, { view with engine }, ?_, opened, rfl, stored⟩
  simp [Session.withEngine, shown]

theorem withStore (holds : session.Holds parts) (store : Store) :
    (session.withStore store).Holds { parts with store } := by
  obtain ⟨view, shown, opened, held, _⟩ := holds.exists_view
  refine ⟨holds.setup_eq, holds.body_eq, { view with store }, ?_, opened, held, rfl⟩
  simp [Session.withStore, shown]

theorem withBody (holds : session.Holds parts) (body : Option SearchBody) :
    Holds { parts with body } { session with body } :=
  ⟨holds.setup_eq, rfl, holds.exists_view⟩

theorem withLastError (holds : session.Holds parts) (lastError : Option ApiError) :
    Holds parts { session with lastError } :=
  ⟨holds.setup_eq, holds.body_eq, holds.exists_view⟩

theorem updateStore_eq (holds : session.Holds parts) (change : Store → Store × Outcome Unit) :
    session.updateStore change =
      (session.withStore (change parts.store).1, (change parts.store).2) := by
  obtain ⟨view, shown, _, _, stored⟩ := holds.exists_view
  simp [Session.updateStore, requireView_of_view shown, stored]

/-- The pagination of the store can be set if the listeners are quiet. -/
theorem exists_setPagination (holds : session.Holds parts) (quiet : parts.store.Quiet)
    (pagination : Pagination) :
    ∃ store : Store, store.state = parts.store.state.withPagination pagination ∧
      session.updateStore (Store.setPagination pagination) = (session.withStore store, .ok ()) := by
  obtain ⟨store, replaced, state⟩ :=
    Store.replace_of_quiet quiet (parts.store.state.withPagination pagination)
  refine ⟨store, state, ?_⟩
  rw [holds.updateStore_eq, Store.setPagination, replaced]

theorem fail (holds : session.Holds parts) (arrival : Arrival) (failure : Failure) :
    (session.fail arrival failure).1.Holds parts ∧
      ∃ reported, (session.fail arrival failure).2 = .error reported := by
  unfold Session.fail
  split
  · exact ⟨holds.withLastError _, _, rfl⟩
  · exact ⟨holds, _, rfl⟩
  · exact ⟨holds, _, rfl⟩

/-- A load that brought a page ends with it.  Of the store at most the pagination
is changed. -/
theorem complete (holds : session.Holds parts) (quiet : parts.store.Quiet) (voyage : Voyage)
    (page : PageResponse) :
    ∃ store : Store, (session.complete voyage page).1.Holds { parts with store } ∧
      (session.complete voyage page).2 = .ok (some page) ∧
        store.state =
          if voyage.commits then parts.store.state.withPagination parts.engine.request
          else parts.store.state := by
  have cleared := holds.withLastError none
  cases commits : voyage.commits with
  | false =>
      simp only [Session.complete, commits]
      exact ⟨parts.store, cleared, rfl, rfl⟩
  | true =>
      obtain ⟨store, state, updated⟩ := cleared.exists_setPagination quiet parts.engine.request
      have committed : commit { session with lastError := none } =
          (Session.withStore store { session with lastError := none }, .ok ()) := by
        simp only [commit, cleared.requireEngine_eq]
        exact updated
      simp only [Session.complete, commits, if_true]
      rw [committed]
      exact ⟨store, cleared.withStore store, rfl, state⟩

theorem engineOf?_eq (holds : session.Holds parts) {voyage : Voyage}
    (current : voyage.generation = parts.generation) :
    session.engineOf? voyage = some parts.engine := by
  obtain ⟨⟨_, _, _, _⟩, shown, opened, held, _⟩ := holds.exists_view
  simp only at opened held
  simp [engineOf?, shown, opened, held, current]

theorem withLanded_eq (holds : session.Holds parts) {voyage : Voyage}
    (current : voyage.generation = parts.generation) (landed : Engine) :
    session.withLanded voyage landed = session.withEngine landed := by
  obtain ⟨view, shown, opened, _, _⟩ := holds.exists_view
  simp [withLanded, shown, opened, current]

/-- An arrival that is no page puts the engine on the ground and keeps the rest. -/
theorem arrive_of_error (holds : session.Holds parts) {voyage : Voyage}
    (current : voyage.generation = parts.generation) {arrival : Arrival} {landed : Engine}
    {failure : Failure}
    (lands : parts.engine.land (arrival.page parts.setup.base) = (landed, .error failure)) :
    (session.arrive voyage arrival).1.Holds { parts with engine := landed } ∧
      ∃ reported, (session.arrive voyage arrival).2 = .error reported := by
  rw [← holds.setup_eq] at lands
  simp only [arrive, holds.engineOf?_eq current, lands, holds.withLanded_eq current]
  exact (holds.withEngine landed).fail arrival failure

theorem arrive_of_page (holds : session.Holds parts) (quiet : parts.store.Quiet)
    {voyage : Voyage} (current : voyage.generation = parts.generation) {arrival : Arrival}
    {landed : Engine} {page : PageResponse}
    (lands : parts.engine.land (arrival.page parts.setup.base) = (landed, .ok page)) :
    ∃ store : Store,
      (session.arrive voyage arrival).1.Holds { parts with engine := landed, store } ∧
        (session.arrive voyage arrival).2 = .ok (some page) ∧
          store.state =
            if voyage.commits then parts.store.state.withPagination landed.request
            else parts.store.state := by
  rw [← holds.setup_eq] at lands
  simp only [arrive, holds.engineOf?_eq current, lands, holds.withLanded_eq current]
  exact (holds.withEngine landed).complete quiet voyage page

/-- What a former opening asked for changes at most the pagination of the store. -/
theorem arrive_stray (holds : session.Holds parts) (quiet : parts.store.Quiet)
    {voyage : Voyage} (former : voyage.generation ≠ parts.generation) (arrival : Arrival) :
    ∃ store : Store, (session.arrive voyage arrival).1.Holds { parts with store } ∧
      (store.state = parts.store.state ∨
        store.state = parts.store.state.withPagination parts.engine.request) := by
  obtain ⟨view, shown, opened, _, _⟩ := holds.exists_view
  unfold arrive
  split
  · exact ⟨parts.store, holds, Or.inl rfl⟩
  · rename_i abandoned _
    have landed : session.withLanded voyage (abandoned.land (arrival.page session.setup.base)).1 =
        { session with abandoned := session.abandoned.filter (·.1 != voyage.generation) } := by
      have other : view.generation ≠ voyage.generation := fun same =>
        former (same.symm.trans opened)
      simp [withLanded, shown, other]
    have kept : Holds parts
        { session with abandoned := session.abandoned.filter (·.1 != voyage.generation) } :=
      ⟨holds.setup_eq, holds.body_eq, holds.exists_view⟩
    simp only [landed]
    split
    · obtain ⟨store, completed, _, state⟩ := kept.complete quiet voyage _
      refine ⟨store, completed, ?_⟩
      rw [state]
      cases voyage.commits with
      | true => exact Or.inr rfl
      | false => exact Or.inl rfl
    · exact ⟨parts.store, (kept.fail arrival _).1, Or.inl rfl⟩

theorem navigate_of_stays (holds : session.Holds parts)
    {start : Engine → Engine × Departure} {departure : Departure}
    (stays : start parts.engine = (parts.engine, departure))
    (grounded : ∀ request, departure ≠ .fetching request) (commits : Bool) :
    ∃ answer, session.navigate commits start = ⟨session, [], .ended answer⟩ := by
  obtain ⟨view, shown, _, _, _⟩ := holds.exists_view
  simp only [navigate, requireView_of_view shown, holds.requireEngine_eq, stays]
  cases departure with
  | none => exact ⟨_, rfl⟩
  | failed failure => exact ⟨_, rfl⟩
  | fetching request => exact absurd rfl (grounded request)

theorem sails_navigate (holds : session.Holds parts) {view : View}
    (shown : session.view = some view) {start : Engine → Engine × Departure} {departed : Engine}
    {goal : Pagination} (departs : start parts.engine = (departed, .fetching goal))
    {flight : Flight} (flies : departed.flight = some flight) (commits : Bool) {asking : Session}
    {dropped : List QueryOrder} {ask : Ask} {body : Option SearchBody}
    (asked : (session.withEngine departed).ask view goal = (asking, dropped, ask))
    (aloft : asking.Holds { parts with engine := departed, body }) :
    Sails { parts with engine := departed, body } ask dropped flight commits
      (session.navigate commits start) := by
  obtain ⟨other, also, opened, _, _⟩ := holds.exists_view
  rw [Option.some.inj (also.symm.trans shown)] at opened
  simp only [navigate, requireView_of_view shown, holds.requireEngine_eq, departs, asked,
    aloft.setup_eq, opened]
  cases made : Request.ofAsk parts.setup.base parts.setup.token ask with
  | ok request => exact .sends request made aloft
  | error failure =>
      let voyage : Voyage := ⟨parts.generation, commits⟩
      have current : voyage.generation = parts.generation := rfl
      have lands : departed.land ((Arrival.failed failure).page parts.setup.base) =
          (departed.rolledBack flight, .error failure) :=
        Engine.land_of_error flies failure
      obtain ⟨landed, reported, answer⟩ := aloft.arrive_of_error current lands
      simp only [voyage] at answer landed
      simp only [answer]
      exact .refused reported landed

/-- Whichever part of the store drives the requests, a page is asked for as such.
A body is compiled at most if there is none. -/
theorem exists_ask (holds : session.Holds parts) {view : View}
    (stored : view.store = parts.store) (goal : Pagination) :
    ∃ (asking : Session) (dropped : List QueryOrder) (ask : Ask) (body : Option SearchBody),
      session.ask view goal = (asking, dropped, ask) ∧ ask.Seeks parts.store goal ∧
        asking.Holds { parts with body } := by
  cases mode : parts.store.state.mode with
  | url =>
      refine ⟨session, [], _, parts.body, ?_, .list view.entity, holds⟩
      simp [ask, stored, mode]
  | body =>
      cases compiled : parts.body with
      | some pinned =>
          refine ⟨session, [], _, some pinned, ?_, .search pinned, compiled ▸ holds⟩
          simp [ask, stored, mode, holds.body_eq, compiled]
      | none =>
          let made := parts.store.compile none
          refine ⟨_, made.dropped, _, some made.body, ?_, .search made.body,
            holds.withBody (some made.body)⟩
          simp [ask, stored, mode, holds.body_eq, compiled, made]

/-- An engine that departs has its page asked for. -/
theorem exists_sails_navigate (holds : session.Holds parts)
    {start : Engine → Engine × Departure} {departed : Engine} {goal : Pagination}
    (departs : start parts.engine = (departed, .fetching goal)) {flight : Flight}
    (flies : departed.flight = some flight) (commits : Bool) :
    ∃ (body : Option SearchBody) (ask : Ask) (dropped : List QueryOrder),
      ask.Seeks parts.store goal ∧
        Sails { parts with engine := departed, body } ask dropped flight commits
          (session.navigate commits start) := by
  obtain ⟨view, shown, _, _, stored⟩ := holds.exists_view
  obtain ⟨asking, dropped, ask, body, asked, seeks, aloft⟩ :=
    (holds.withEngine departed).exists_ask stored goal
  exact ⟨body, ask, dropped, seeks, holds.sails_navigate shown departs flies commits asked aloft⟩

/-- An engine that departs sends the compiled body with the page it asks for, or
comes back if there is no such request. -/
theorem navigates_navigate (holds : session.Holds parts)
    (searches : parts.store.state.mode = .body) {pinned : SearchBody}
    (compiled : parts.body = some pinned) {start : Engine → Engine × Departure}
    {departed : Engine} {pagination : Pagination}
    (departs : start parts.engine = (departed, .fetching pagination)) {flight : Flight}
    (flies : departed.flight = some flight) (commits : Bool) :
    Navigates { parts with engine := departed } pinned flight pagination commits
      (session.navigate commits start) := by
  have aloft := holds.withEngine departed
  obtain ⟨view, shown, _, _, stored⟩ := holds.exists_view
  have asked : (session.withEngine departed).ask view pagination =
      (session.withEngine departed, [], .search (pinned.withQuery pagination)) := by
    simp [ask, stored, searches, aloft.body_eq, compiled]
  have sails := holds.sails_navigate shown departs flies commits asked aloft
  generalize session.navigate commits start = started at sails
  cases sails with
  | sends request made aloft => exact .sends request made aloft
  | refused failure back => exact .refused failure back

theorem refresh_of_flight (holds : session.Holds parts) {flight : Flight}
    (flies : parts.engine.flight = some flight) :
    session.refresh = ⟨session, [], .ended (.ok none)⟩ := by
  obtain ⟨view, shown, _, _, _⟩ := holds.exists_view
  simp [refresh, requireView_of_view shown, holds.requireEngine_eq, Engine.inFlight, flies]

/-- Any other refresh takes the store to the first page, compiles it if it is the
compiled part that drives the requests, and fetches from an engine that has
forgotten the last page. -/
theorem exists_refresh_eq (holds : session.Holds parts) (quiet : parts.store.Quiet)
    (grounded : parts.engine.flight = none) :
    let first := parts.store.state.pagination.rewind
    ∃ (store : Store) (ready : Session) (body : Option SearchBody) (dropped : List QueryOrder),
      store.state = parts.store.state.withPagination first ∧
        (store.state.mode = .body → body = some (store.compile none).body) ∧
          ready.Holds
            { parts with body, engine := parts.engine.restart first, store } ∧
          session.refresh =
            let started := ready.navigate false (Engine.refetch none)
            { started with dropped := dropped ++ started.dropped } := by
  intro first
  have lands : parts.engine.inFlight = false := by simp [Engine.inFlight, grounded]
  obtain ⟨store, state, updated⟩ := holds.exists_setPagination quiet first
  obtain ⟨before, held, _, _, old⟩ := holds.exists_view
  obtain ⟨view, shown, _, _, stored⟩ := (holds.withStore store).exists_view
  have begins : session.refresh =
      (session.withStore store).refreshFrom first view parts.engine := by
    simp only [refresh, requireView_of_view held, holds.requireEngine_eq, lands, old]
    rw [updated]
    simp only [requireView_of_view shown]
    rfl
  cases mode : store.state.mode with
  | url =>
      refine ⟨store, _, parts.body, [], state, by simp [mode],
        (holds.withStore store).withEngine _, ?_⟩
      have compiles : (session.withStore store).compileBody view =
          (session.withStore store, []) := by
        simp [compileBody, stored, mode]
      simp only [begins, refreshFrom, compiles, Engine.reset, lands, Bool.false_eq_true, if_false]
  | body =>
      let pinned := (store.compile none).body
      let compiled : Session := { session.withStore store with body := some pinned }
      refine ⟨store, _, some pinned, (store.compile none).dropped, state, fun _ => rfl,
        ((holds.withStore store).withBody (some pinned)).withEngine _, ?_⟩
      have compiles : (session.withStore store).compileBody view =
          (compiled, (store.compile none).dropped) := by
        simp [compileBody, stored, mode, compiled, pinned]
      simp only [begins, refreshFrom, compiles, Engine.reset, lands, Bool.false_eq_true, if_false]
      rfl

/-- In a search it sends what the store is compiled to, for the first page. -/
theorem navigates_refresh (holds : session.Holds parts) (quiet : parts.store.Quiet)
    (searches : parts.store.state.mode = .body) (grounded : parts.engine.flight = none) :
    let first := parts.store.state.pagination.rewind
    let flight : Flight := ⟨.refetch, first, none⟩
    ∃ (store : Store) (started : Started) (dropped : List QueryOrder),
      store.state = parts.store.state.withPagination first ∧
        session.refresh = { started with dropped } ∧
          Navigates
            { parts with
              body := some (store.compile none).body
              engine := { parts.engine.restart first with flight := some flight }
              store }
            (store.compile none).body flight first false started := by
  intro first flight
  obtain ⟨store, ready, body, dropped, state, compiles, prepared, begins⟩ :=
    holds.exists_refresh_eq quiet grounded
  have mode : store.state.mode = .body := by rw [state, Store.mode_withPagination, searches]
  have navigates := prepared.navigates_navigate mode (compiles mode)
    (Engine.refetch_restart grounded first) rfl false
  rw [compiles mode] at navigates
  exact ⟨store, _, _, state, begins, navigates⟩

/-- In either mode it asks for the first page. -/
theorem exists_sails_refresh (holds : session.Holds parts) (quiet : parts.store.Quiet)
    (grounded : parts.engine.flight = none) :
    let first := parts.store.state.pagination.rewind
    let flight : Flight := ⟨.refetch, first, none⟩
    ∃ (store : Store) (body : Option SearchBody) (ask : Ask) (dropped : List QueryOrder),
      store.state = parts.store.state.withPagination first ∧ ask.Seeks store first ∧
        Sails
          { parts with
            body
            engine := { parts.engine.restart first with flight := some flight }
            store }
          ask dropped flight false session.refresh := by
  intro first flight
  obtain ⟨store, ready, _, dropped, state, _, prepared, begins⟩ :=
    holds.exists_refresh_eq quiet grounded
  obtain ⟨body, ask, more, seeks, sails⟩ := prepared.exists_sails_navigate
    (Engine.refetch_restart grounded first) rfl false
  refine ⟨store, body, ask, dropped ++ more, state, seeks, ?_⟩
  rw [begins]
  generalize ready.navigate false (Engine.refetch none) = started at sails
  cases sails with
  | sends request made aloft => exact .sends request made aloft
  | refused failure back => exact .refused failure back

end Holds
end Session
end CatalogQuery
