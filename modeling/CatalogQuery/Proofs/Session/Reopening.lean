import CatalogQuery.Proofs.Session.Openings
import CatalogQuery.Proofs.Session.Frame

/-!
# Responses that outlive their opening

A request may still be under way when the session that sent it is closed and opened again.
What it asked for then lands on the engine that was left behind (`Session.Awaits`), and never
on the one that is shown.  But a page that was turned before is written back after all: the
session looks its engine up anew, and writes the request of the new engine into the new
store (`Session.Left.view_arrive`).
-/

namespace CatalogQuery

/-- Whether an event is the end of what a voyage asked for. -/
def LifeEvent.Answers (voyage : Voyage) : LifeEvent → Prop
  | arrives other _ => other.generation = voyage.generation
  | _ => False

/-- A session that has been opened for a voyage, and has an engine that waits for a page of
a mode. -/
structure Session.Awaits (voyage : Voyage) (mode : PaginationMode) (session : Session) :
    Prop where
  opened : voyage.generation < session.openings
  aloft : ∃ engine flight, session.engineOf? voyage = some engine ∧
    engine.flight = some flight ∧ engine.request.mode = mode

/-- A store after the page of the engine that is shown was written to it. -/
def View.committed (view : View) : Store :=
  match view.engine with
  | some engine => (view.store.setPagination engine.request).1
  | none => view.store

/-- Whether an arrival makes a session write back the page that a call asked for: the call
turned a page, and what arrives is a page of the kind that was asked for. -/
def SessionCall.Commits (call : SessionCall) (asked : Session) (arrival : Arrival) : Prop :=
  call ≠ .refresh ∧ ∃ goal page, call.goal asked = .ok goal ∧
    arrival.page asked.setup.base = .ok page ∧ page.pageInfo.mode = goal.mode

theorem Outcome.exists_ok_of_map {α β : Type} {outcome : Outcome α} {read : α → β} {value : β}
    (found : outcome.toOption.map read = some value) :
    ∃ result, outcome = .ok result ∧ read result = value := by
  cases outcome with
  | ok result => exact ⟨result, rfl, Option.some.inj found⟩
  | error failure => cases found

theorem Progress.exists_request {progress : Progress} {voyage : Voyage}
    (under_way : progress.voyage? = some voyage) :
    ∃ request, progress = .sending voyage request := by
  cases progress with
  | ended answer => cases under_way
  | sending other request => exact ⟨request, by rw [Option.some.inj under_way]⟩

namespace Session

variable {session : Session} {voyage : Voyage} {mode : PaginationMode} {opening : Nat}

/-- The engine of an opening, if it was left behind. -/
def left? (opening : Nat) (abandoned : List (Nat × Engine)) : Option Engine :=
  (abandoned.find? (·.1 == opening)).map (·.2)

/-- The engine of an opening, if it is shown. -/
def shown? (opening : Nat) (view : Option View) : Option Engine :=
  view.bind fun view => if view.generation = opening then view.engine else none

theorem engineOf?_eq (voyage : Voyage) (session : Session) :
    session.engineOf? voyage =
      (shown? voyage.generation session.view).or (left? voyage.generation session.abandoned) := by
  unfold engineOf?
  cases session.view with
  | none => rfl
  | some view =>
      obtain ⟨generation, entity, store, engine⟩ := view
      cases engine with
      | none => simp [shown?, left?]
      | some engine =>
          by_cases same : generation = voyage.generation <;> simp [shown?, left?, same]

theorem left?_eq_none {abandoned : List (Nat × Engine)}
    (fresh : ∀ entry ∈ abandoned, entry.1 ≠ opening) : left? opening abandoned = none := by
  have absent : abandoned.find? (·.1 == opening) = none :=
    List.find?_eq_none.mpr fun entry member => by simpa using fresh entry member
  rw [left?, absent]
  rfl

theorem left?_filter {number : Nat} (other : number ≠ opening)
    (abandoned : List (Nat × Engine)) :
    left? number (abandoned.filter (·.1 != opening)) = left? number abandoned := by
  have kept : (fun entry : Nat × Engine =>
      decide ((entry.1 != opening) = true ∧ (entry.1 == number) = true)) = (·.1 == number) := by
    funext entry
    by_cases found : entry.1 = number
    · simp [found, other]
    · simp [found]
  rw [left?, left?, List.find?_filter, kept]

theorem shown?_of_continues {after : Session} (continues : session.Continues opening after)
    {number : Nat} (other : number ≠ opening) :
    shown? number after.view = shown? number session.view := by
  have goes := continues.view
  generalize session.view = before at goes ⊢
  generalize after.view = now at goes ⊢
  cases goes with
  | none => rfl
  | @some old new same =>
      simp only [shown?, Option.bind_some, same.generation_eq]
      split
      · rename_i current
        exact same.engine_eq (current ▸ other)
      · rfl

theorem engineOf?_of_continues {after : Session} (continues : session.Continues opening after)
    (other : voyage.generation ≠ opening) : after.engineOf? voyage = session.engineOf? voyage := by
  rw [engineOf?_eq, engineOf?_eq, shown?_of_continues continues other]
  rcases continues.abandoned with same | filtered
  · rw [same]
  · rw [filtered, left?_filter other]

theorem left?_withAbandoned {engine : Engine} {abandoned : List (Nat × Engine)}
    (left : left? opening abandoned = some engine) (view : Option View) :
    left? opening (withAbandoned view abandoned) = some engine := by
  obtain ⟨more, appended, -⟩ := exists_withAbandoned view abandoned
  obtain ⟨entry, found, rfl⟩ := Option.map_eq_some_iff.mp left
  rw [appended, left?, List.find?_append, found]
  rfl

theorem left?_withAbandoned_of_shown {entity : Entity} {store : Store} {engine : Engine}
    {abandoned : List (Nat × Engine)} (flies : engine.inFlight = true)
    (fresh : ∀ entry ∈ abandoned, entry.1 ≠ opening) :
    left? opening (withAbandoned (some ⟨opening, entity, store, some engine⟩) abandoned) =
      some engine := by
  have absent : abandoned.find? (·.1 == opening) = none :=
    Option.map_eq_none_iff.mp (left?_eq_none fresh)
  simp [left?, withAbandoned, flies, List.find?_append, absent]

namespace Awaits

theorem of_continues {after : Session} (awaits : session.Awaits voyage mode)
    (continues : session.Continues opening after) (other : voyage.generation ≠ opening) :
    after.Awaits voyage mode := by
  refine ⟨?_, ?_⟩
  · rw [continues.openings_eq]
    exact awaits.opened
  · rw [engineOf?_of_continues continues other]
    exact awaits.aloft

/-- The engine that a session waits for is left behind when its view goes. -/
theorem left_behind (awaits : session.Awaits voyage mode) (numbered : session.Numbered)
    (change : Engine → Engine) (flight_eq : ∀ engine, (change engine).flight = engine.flight)
    (request_eq : ∀ engine, (change engine).request = engine.request) :
    ∃ engine flight, left? voyage.generation
        (withAbandoned (session.view.map fun view => { view with engine := view.engine.map change })
          session.abandoned) = some engine ∧
      engine.flight = some flight ∧ engine.request.mode = mode := by
  obtain ⟨opened, engine, flight, waits, flies, asked⟩ := awaits
  rw [engineOf?_eq] at waits
  -- The engine was left before, or it is the one that is shown, and busy.
  cases shown : shown? voyage.generation session.view with
  | none =>
      rw [shown, Option.none_or] at waits
      exact ⟨engine, flight, left?_withAbandoned waits _, flies, asked⟩
  | some current =>
      rw [shown, Option.some_or] at waits
      cases waits
      obtain ⟨view, there, held⟩ := Option.bind_eq_some_iff.mp shown
      split at held
      · rename_i same
        obtain ⟨generation, entity, store, _⟩ := view
        obtain rfl : generation = voyage.generation := same
        cases held
        have aloft : (change engine).inFlight = true := by
          simp [Engine.inFlight, flight_eq, flies]
        refine ⟨change engine, flight, ?_, by rw [flight_eq, flies], by rw [request_eq, asked]⟩
        simp only [there, Option.map_some]
        exact left?_withAbandoned_of_shown aloft (numbered.apart _ there)
      · cases held

theorem close (awaits : session.Awaits voyage mode) (numbered : session.Numbered) :
    session.close.Awaits voyage mode := by
  obtain ⟨engine, flight, left, flies, asked⟩ :=
    awaits.left_behind numbered (fun engine => { engine with cache := engine.cache.clear })
      (fun _ => rfl) (fun _ => rfl)
  refine ⟨awaits.opened, engine, flight, ?_, flies, asked⟩
  rw [engineOf?_eq]
  exact left

theorem openView (awaits : session.Awaits voyage mode) (numbered : session.Numbered) :
    session.openView.1.Awaits voyage mode := by
  rcases session.fst_openView with same | ⟨store, fresh, opened⟩
  · rw [same]
    exact awaits
  · have kept : session.view.map (fun view => { view with engine := view.engine.map id }) =
        session.view := by
      simp
    obtain ⟨engine, flight, left, flies, asked⟩ :=
      awaits.left_behind numbered id (fun _ => rfl) (fun _ => rfl)
    rw [kept] at left
    have other : session.openings ≠ voyage.generation := Nat.ne_of_gt awaits.opened
    rw [opened]
    refine ⟨Nat.lt_succ_of_lt awaits.opened, engine, flight, ?_, flies, asked⟩
    rw [engineOf?_eq]
    simp only [shown?, Option.bind_some, other, if_false, Option.none_or]
    exact left

theorem updateStore (awaits : session.Awaits voyage mode)
    (change : Store → Store × Outcome Unit) :
    (session.updateStore change).1.Awaits voyage mode := by
  obtain ⟨opened, engine, flight, waits, flies, asked⟩ := awaits
  rw [fst_updateStore]
  refine ⟨opened, engine, flight, ?_, flies, asked⟩
  rw [engineOf?_eq] at waits ⊢
  rw [← waits]
  cases session.view <;> rfl

/-- While an engine is shown that waits for a page, no call moves it. -/
theorem begin_of_current (awaits : session.Awaits voyage mode) {view : View}
    (there : session.view = some view) (current : view.generation = voyage.generation)
    (numbered : session.Numbered) (call : SessionCall) :
    (call.begin session).session = session := by
  obtain ⟨-, engine, flight, waits, flies, -⟩ := awaits
  have absent : left? voyage.generation session.abandoned = none :=
    left?_eq_none (current ▸ numbered.apart view there)
  rw [engineOf?_eq, absent, Option.or_none, there] at waits
  have held : view.engine = some engine := by
    simpa only [shown?, Option.bind_some, current, if_true] using waits
  have holds : session.Holds
      ⟨session.setup, session.body, view.generation, engine, view.store⟩ :=
    ⟨rfl, rfl, view, there, rfl, held, rfl⟩
  cases call with
  | refresh => rw [SessionCall.begin, holds.refresh_of_flight flies]
  | turn turn =>
      have starts := turn.starts_start engine
      generalize begun : turn.start engine = result at starts
      cases starts with
      | leaves origin request grounded derived => simp [flies] at grounded
      | stays departure nothing =>
          obtain ⟨answer, stays⟩ := holds.navigate_of_stays begun nothing true
          rw [SessionCall.begin, turn.begin_eq, stays]

theorem begin (awaits : session.Awaits voyage mode) (numbered : session.Numbered)
    (call : SessionCall) : (call.begin session).session.Awaits voyage mode := by
  cases there : session.view with
  | none =>
      have only : session.ShowsOnly (voyage.generation + 1) := by simp [ShowsOnly, there]
      exact awaits.of_continues (continues_begin only call) (Nat.ne_of_lt (Nat.lt_succ_self _))
  | some view =>
      -- A call moves the engine that is shown only, and not if that one is waiting.
      by_cases current : view.generation = voyage.generation
      · rw [awaits.begin_of_current there current numbered]
        exact awaits
      · have only : session.ShowsOnly view.generation := by simp [ShowsOnly, there]
        exact awaits.of_continues (continues_begin only call) (Ne.symm current)

/-- Nothing but the end of what a voyage asked for ends the waiting. -/
theorem apply (awaits : session.Awaits voyage mode) (numbered : session.Numbered)
    {event : LifeEvent} (pending : ¬event.Answers voyage) :
    (event.apply session).Awaits voyage mode := by
  cases event with
  | opens => exact awaits.openView numbered
  | closes => exact awaits.close numbered
  | begins call => exact awaits.begin numbered call
  | arrives other arrival =>
      exact awaits.of_continues (session.continues_arrive other arrival) (Ne.symm pending)
  | writes made => exact awaits.updateStore _
  | subscribes listener => exact awaits.updateStore _
  | unsubscribes id => exact awaits.updateStore _

theorem lives (awaits : session.Awaits voyage mode) (numbered : session.Numbered)
    {events : List LifeEvent} (pending : ∀ event ∈ events, ¬event.Answers voyage) :
    (session.lives events).Awaits voyage mode := by
  induction events generalizing session with
  | nil => exact awaits
  | cons event rest ih =>
      obtain ⟨first, later⟩ := List.forall_mem_cons.mp pending
      exact ih (awaits.apply numbered first) (numbered.apply event) later

end Awaits

/-- A session that no longer shows the view that a voyage is of. -/
def Left (voyage : Voyage) (session : Session) : Prop :=
  ∀ view ∈ session.view, view.generation ≠ voyage.generation

theorem Left.of_continues {after : Session} (left : session.Left voyage)
    (continues : session.Continues opening after) : after.Left voyage := by
  intro view shown
  obtain ⟨old, there, same⟩ := continues.exists_before shown
  rw [same.generation_eq]
  exact left old there

theorem Left.updateStore (left : session.Left voyage) (change : Store → Store × Outcome Unit) :
    (session.updateStore change).1.Left voyage := by
  intro view shown
  rw [fst_updateStore] at shown
  obtain ⟨old, there, rfl⟩ := Option.map_eq_some_iff.mp (Option.mem_def.mp shown)
  exact left old there

theorem Left.openView (left : session.Left voyage) (opened : voyage.generation < session.openings) :
    session.openView.1.Left voyage := by
  rcases session.fst_openView with same | ⟨store, engine, anew⟩
  · rw [same]
    exact left
  · rw [anew]
    rintro view ⟨⟩
    exact Nat.ne_of_gt opened

/-- An opening has a number of its own, so no view comes back. -/
theorem Left.apply (left : session.Left voyage) (opened : voyage.generation < session.openings)
    (event : LifeEvent) : (event.apply session).Left voyage := by
  have becomes := session.becomes_apply event
  generalize event.apply session = after at becomes ⊢
  cases becomes with
  | opens => exact left.openView opened
  | closes => rintro view ⟨⟩
  | continues opening goes => exact left.of_continues goes
  | changes change => exact left.updateStore change

/-- A session that is closed while a request is under way has left the view that sent it for
good. -/
theorem Awaits.left_of_closes (awaits : session.Awaits voyage mode)
    (numbered : session.Numbered) {events : List LifeEvent}
    (pending : ∀ event ∈ events, ¬event.Answers voyage)
    (closes : session.Left voyage ∨ .closes ∈ events) : (session.lives events).Left voyage := by
  induction events generalizing session with
  | nil => exact closes.resolve_right (by simp)
  | cons event rest ih =>
      obtain ⟨first, later⟩ := List.forall_mem_cons.mp pending
      refine ih (awaits.apply numbered first) (numbered.apply event) later ?_
      rcases closes with left | closes
      · exact Or.inl (left.apply awaits.opened event)
      · rcases List.mem_cons.mp closes with rfl | closes
        · exact Or.inl (by rintro view ⟨⟩)
        · exact Or.inr closes

theorem view_of_sends {commits : Bool} {start : Engine → Engine × Departure} {request : Request}
    (sends : (session.navigate commits start).progress = .sending voyage request) :
    ∃ view engine departed goal, session.view = some view ∧ view.engine = some engine ∧
      start engine = (departed, .fetching goal) ∧ voyage = ⟨view.generation, commits⟩ ∧
        (session.navigate commits start).session.view = some { view with engine := departed } := by
  cases there : session.view with
  | none => simp [navigate, requireEngine, requireView, there, bind, Except.bind] at sends
  | some view =>
      have required := requireView_of_view there
      cases held : view.engine with
      | none => simp [navigate, requireEngine, required, held, bind, Except.bind] at sends
      | some engine =>
          have piloted : session.requireEngine = .ok engine := by
            simp [requireEngine, required, held, bind, Except.bind]
          rcases begun : start engine with ⟨departed, departure⟩
          simp only [navigate, required, piloted, begun] at sends ⊢
          cases departure with
          | none => cases sends
          | failed failure => cases sends
          | fetching goal =>
              have shown : ((session.withEngine departed).ask view goal).1.view =
                  some { view with engine := departed } := by
                have moved : (session.withEngine departed).view =
                    some { view with engine := departed } := by
                  simp [Session.withEngine, there]
                unfold ask
                split
                · exact moved
                · split <;> exact moved
              simp only at sends ⊢
              split at sends
              · rename_i sent made
                cases sends
                exact ⟨view, engine, departed, goal, rfl, held, begun, rfl, shown⟩
              · cases sends

theorem exists_refreshFrom_eq {view : View} (shown : session.view = some view) {engine : Engine}
    (grounded : engine.flight = none) (first : Pagination) :
    ∃ (ready : Session) (dropped : List QueryOrder),
      ready.view = some { view with engine := engine.restart first } ∧
        session.refreshFrom first view engine =
          let started := ready.navigate false (Engine.refetch none)
          { started with dropped := dropped ++ started.dropped } := by
  have compiled : (session.compileBody view).1.view = some view := by
    unfold compileBody
    split <;> exact shown
  have lands : engine.inFlight = false := by simp [Engine.inFlight, grounded]
  refine ⟨(session.compileBody view).1.withEngine (engine.restart first),
    (session.compileBody view).2, ?_, ?_⟩
  · simp [Session.withEngine, compiled]
  · simp only [refreshFrom, Engine.reset, lands, Bool.false_eq_true, if_false]

/-- A refresh that sends a request does so for an engine that starts over. -/
theorem refresh_of_sends {request : Request}
    (sends : session.refresh.progress = .sending voyage request) :
    ∃ (view now : View) (engine : Engine) (ready : Session),
      session.view = some view ∧ engine.flight = none ∧ ready.view = some now ∧
      now.engine = some (engine.restart view.store.state.pagination.rewind) ∧
        session.refresh.session = (ready.navigate false (Engine.refetch none)).session ∧
        session.refresh.progress = (ready.navigate false (Engine.refetch none)).progress := by
  cases there : session.view with
  | none => simp [refresh, requireEngine, requireView, there, bind, Except.bind] at sends
  | some view =>
      have required := requireView_of_view there
      cases held : view.engine with
      | none => simp [refresh, requireEngine, required, held, bind, Except.bind] at sends
      | some engine =>
          have piloted : session.requireEngine = .ok engine := by
            simp [requireEngine, required, held, bind, Except.bind]
          let first := view.store.state.pagination.rewind
          let store := (view.store.setPagination first).1
          have rewound : (session.updateStore (Store.setPagination first)).1.view =
              some { view with store } := by
            rw [fst_updateStore, there]
            rfl
          simp only [refresh, required, piloted] at sends ⊢
          split at sends
          · cases sends
          · rename_i free
            have grounded : engine.flight = none := by simpa [Engine.inFlight] using free
            rw [if_neg free]
            generalize session.updateStore (Store.setPagination first) = updated at *
            obtain ⟨paged, answer⟩ := updated
            cases answer with
            | error failure => cases sends
            | ok value =>
                obtain ⟨ready, dropped, prepared, goes⟩ :=
                  exists_refreshFrom_eq rewound grounded first
                simp only [requireView_of_view rewound] at sends ⊢
                rw [goes]
                exact ⟨view, _, engine, ready, rfl, grounded, prepared, rfl, rfl, rfl⟩

theorem Awaits.of_view (numbered : session.Numbered) {view : View}
    (shown : session.view = some view) {engine : Engine} (held : view.engine = some engine)
    {flight : Flight} (flies : engine.flight = some flight) (commits : Bool) :
    session.Awaits ⟨view.generation, commits⟩ engine.request.mode := by
  refine ⟨numbered.shown_lt view shown, engine, flight, ?_, flies, rfl⟩
  rw [engineOf?_eq, shown]
  simp [shown?, held]

/-- A call that sends a request makes the session wait for the page that it goes to; every
call but a refresh is to write it back. -/
theorem awaits_of_sends (numbered : session.Numbered) {call : SessionCall} {request : Request}
    (sends : (call.begin session).progress = .sending voyage request) :
    ∃ goal, call.goal session = .ok goal ∧ (voyage.commits = true ↔ call ≠ .refresh) ∧
      (call.begin session).session.Awaits voyage goal.mode := by
  have begun : (call.begin session).session.Numbered := numbered.apply (.begins call)
  cases call with
  | refresh =>
      obtain ⟨view, now, engine, ready, there, grounded, prepared, held, goes, progress⟩ :=
        refresh_of_sends sends
      -- The store was rewound first, so what is fetched is the page it was rewound to.
      rw [SessionCall.begin, progress] at sends
      obtain ⟨_, _, departed, goal, shown, also, departs, rfl, after⟩ := view_of_sends sends
      obtain rfl := Option.some.inj (prepared.symm.trans shown)
      obtain rfl := Option.some.inj (held.symm.trans also)
      rw [Engine.refetch_restart grounded] at departs
      cases departs
      have shows := (congrArg Session.view goes).trans after
      refine ⟨_, ?_, by simp, Awaits.of_view begun shows rfl rfl false⟩
      simp [SessionCall.goal, requireView_of_view there, bind, Except.bind]
  | turn turn =>
      rw [SessionCall.begin, turn.begin_eq] at sends
      obtain ⟨view, engine, departed, goal, shown, held, departs, rfl, after⟩ :=
        view_of_sends sends
      have starts := turn.starts_start engine
      rw [departs] at starts
      cases starts with
      | stays departure nothing => exact absurd rfl (nothing goal)
      | leaves origin request grounded derived =>
          have shows := (congrArg (·.session.view) (turn.begin_eq session)).trans after
          refine ⟨goal, ?_, by simp, Awaits.of_view begun shows rfl rfl true⟩
          simp [SessionCall.goal, requireEngine, requireView_of_view shown, held, derived,
            bind, Except.bind]

theorem view_commit (session : Session) :
    session.commit.1.view =
      session.view.map fun view => { view with store := view.committed } := by
  cases shown : session.view with
  | none => simp [commit, requireEngine, requireView, shown, bind, Except.bind]
  | some view =>
      obtain ⟨generation, entity, store, engine⟩ := view
      cases engine with
      | none =>
          simp [commit, requireEngine, requireView, shown, bind, Except.bind, View.committed]
      | some engine =>
          simp [commit, requireEngine, requireView, shown, bind, Except.bind, View.committed,
            fst_updateStore]

/-- A load that brought a page writes back what the engine shown by then asks for. -/
theorem view_complete (voyage : Voyage) (page : PageResponse) (session : Session) :
    (session.complete voyage page).1.view =
      if voyage.commits then session.view.map fun view => { view with store := view.committed }
      else session.view := by
  have written := view_commit { session with lastError := none }
  unfold complete
  simp only
  generalize commit { session with lastError := none } = committed at written ⊢
  obtain ⟨after, answer⟩ := committed
  split
  · cases answer <;> exact written
  · rfl

theorem view_fail (arrival : Arrival) (failure : Failure) (session : Session) :
    (session.fail arrival failure).1.view = session.view := by
  unfold fail
  split <;> rfl

theorem Left.view_withLanded (left : session.Left voyage) (engine : Engine) :
    (session.withLanded voyage engine).view = session.view := by
  unfold withLanded
  split
  · rename_i view shown
    rw [if_neg (left view shown)]
  · rfl

/-- What arrives for a view that the session has left is written to the store of the view
that is shown if the engine that was left takes it for its page, and leaves no other trace
there. -/
theorem Left.view_arrive (left : session.Left voyage) (awaits : session.Awaits voyage mode)
    (arrival : Arrival) :
    ((∃ page, arrival.page session.setup.base = .ok page ∧ page.pageInfo.mode = mode) ∧
        (session.arrive voyage arrival).1.view =
          if voyage.commits then session.view.map fun view => { view with store := view.committed }
          else session.view) ∨
      (¬∃ page, arrival.page session.setup.base = .ok page ∧ page.pageInfo.mode = mode) ∧
        (session.arrive voyage arrival).1.view = session.view := by
  obtain ⟨-, engine, flight, waits, flies, rfl⟩ := awaits
  simp only [arrive, waits]
  cases read : arrival.page session.setup.base with
  | error failure =>
      right
      rw [Engine.land_of_error flies]
      exact ⟨by simp, (view_fail _ _ _).trans (left.view_withLanded _)⟩
  | ok page =>
      by_cases same : page.pageInfo.mode = engine.request.mode
      · left
        rw [Engine.land_of_page flies same]
        refine ⟨⟨page, rfl, same⟩, ?_⟩
        rw [view_complete, left.view_withLanded]
      · right
        rw [Engine.land_of_mismatch flies same]
        exact ⟨by simpa using same, (view_fail _ _ _).trans (left.view_withLanded _)⟩

/-- When what a call asked for arrives after its session was closed and opened again, the
engine that is shown stays as it is.  The store stays as it is, too, unless a page that was
turned is committed: then the request of the engine that is shown is written to it. -/
theorem late_page_commits_new_request {settings : Outcome Settings} {setup : SessionSetup}
    {bound : Option Int} {created : Session} (made : create settings setup bound = .ok created)
    (past : List LifeEvent) {call : SessionCall} {request : Request}
    (sends : (call.begin (created.lives past)).progress = .sending voyage request)
    {rest : List LifeEvent} (pending : ∀ event ∈ rest, ¬event.Answers voyage)
    (closes : .closes ∈ rest)
    (lived : session = (call.begin (created.lives past)).session.lives rest)
    {view : View} (shown : session.view = some view) (arrival : Arrival) :
    (call.Commits (created.lives past) arrival →
      (session.arrive voyage arrival).1.view = some { view with store := view.committed }) ∧
    (¬call.Commits (created.lives past) arrival →
      (session.arrive voyage arrival).1.view = some view) := by
  have numbered : (created.lives past).Numbered := (numbered_create made).lives past
  have begun : (call.begin (created.lives past)).session.Numbered :=
    numbered.apply (.begins call)
  obtain ⟨goal, derived, commits, waits⟩ := awaits_of_sends numbered sends
  have awaits : session.Awaits voyage goal.mode := lived ▸ waits.lives begun pending
  have left : session.Left voyage := lived ▸ waits.left_of_closes begun pending (.inr closes)
  have base : session.setup = (created.lives past).setup := by
    rw [lived, setup_lives]
    exact setup_apply _ (.begins call)
  have turned : call.Commits (created.lives past) arrival ↔ voyage.commits = true ∧
      ∃ page, arrival.page session.setup.base = .ok page ∧ page.pageInfo.mode = goal.mode := by
    unfold SessionCall.Commits
    rw [commits, base]
    refine and_congr_right fun _ => ⟨?_, ?_⟩
    · rintro ⟨other, page, also, read, same⟩
      obtain rfl := Except.ok.inj (derived.symm.trans also)
      exact ⟨page, read, same⟩
    · rintro ⟨page, read, same⟩
      exact ⟨goal, page, derived, read, same⟩
  rw [turned]
  rcases left.view_arrive awaits arrival with ⟨accepted, after⟩ | ⟨rejected, after⟩
  · rw [after, shown]
    exact ⟨fun ⟨writes, _⟩ => by rw [if_pos writes]; rfl,
      fun keeps => if_neg fun writes => keeps ⟨writes, accepted⟩⟩
  · rw [after, shown]
    exact ⟨fun ⟨_, accepted⟩ => absurd accepted rejected, fun _ => rfl⟩

/-- What a session that lists series is made for. -/
def seriesSetup : SessionSetup :=
  ⟨"series", .text "url", none, none, [], "", ⟨['h'], [], ['h'], none, [], none, none⟩⟩

/-- A session that lists series, before it is opened. -/
def seriesList : Session := ⟨seriesSetup, none, .ok 20, none, none, none, 0, []⟩

/-- The response with a page of three. -/
def pageOfThree (page : Int) : Response :=
  ⟨200,
    (["\x7b\"data\":[],", "\"pageInfo\":\x7b", "\"__kind\":", "\"OffsetPaginationInfo\",",
      "\"currentPage\":", toString page, ",\"totalPages\":3", ",\"pageSize\":20",
      ",\"pageOffset\":0", ",\"zeroBased\":false\x7d\x7d"].flatMap String.toList).map Char.toNat⟩

/-- A list of which the first page was loaded. -/
def firstPageLoaded : Session :=
  seriesList.lives [.opens, .begins .refresh, .arrives ⟨0, false⟩ (.answered (pageOfThree 1))]

/-- The next page is asked for, and before it arrives the list is closed and opened again,
and the new store is taken to page five. -/
def reopenedAtFive : Session :=
  ((SessionCall.turn .next).begin firstPageLoaded).session.lives
    [.closes, .opens, .writes (.setPage (.int 5))]

theorem second_page_sent :
    ((SessionCall.turn .next).begin firstPageLoaded).progress.voyage? = some ⟨0, true⟩ := by
  decide +kernel

theorem pagination_reopenedAtFive :
    reopenedAtFive.view.map (·.store.state.pagination) =
      some (.offset ⟨5, ⟨20, by decide⟩, false⟩) := by
  decide +kernel

theorem late_second_page_commits :
    ∃ view, reopenedAtFive.view = some view ∧
      (reopenedAtFive.arrive ⟨0, true⟩ (.answered (pageOfThree 2))).1.view =
        some { view with store := view.committed } := by
  have made : create (.ok ⟨"h", Binary64.ofInt 30, "", 20, 40, none, "INFO"⟩) seriesSetup none =
      .ok seriesList := rfl
  obtain ⟨request, sends⟩ := Progress.exists_request second_page_sent
  obtain ⟨view, shown, -⟩ := Option.map_eq_some_iff.mp pagination_reopenedAtFive
  have goes : ((SessionCall.turn .next).goal firstPageLoaded).toOption.map (·.mode) =
      some .offset := by
    decide +kernel
  have reads : ((Arrival.answered (pageOfThree 2)).page firstPageLoaded.setup.base).toOption.map
      (·.pageInfo.mode) = some .offset := by
    decide +kernel
  obtain ⟨goal, derived, mode⟩ := Outcome.exists_ok_of_map goes
  obtain ⟨page, read, same⟩ := Outcome.exists_ok_of_map reads
  have commits : (SessionCall.turn .next).Commits firstPageLoaded (.answered (pageOfThree 2)) :=
    ⟨by simp, goal, page, derived, read, same.trans mode.symm⟩
  have lived : reopenedAtFive = ((SessionCall.turn .next).begin firstPageLoaded).session.lives
      [.closes, .opens, .writes (.setPage (.int 5))] := rfl
  obtain ⟨writes, -⟩ := late_page_commits_new_request made
    [.opens, .begins .refresh, .arrives ⟨0, false⟩ (.answered (pageOfThree 1))] sends
    (by simp [LifeEvent.Answers]) (by simp) lived shown (.answered (pageOfThree 2))
  exact ⟨view, shown, writes commits⟩

/-- The page that was asked for before takes the new store from page five to page one. -/
theorem late_page_loses_page_five :
    ((SessionCall.turn .next).begin firstPageLoaded).progress.voyage? = some ⟨0, true⟩ ∧
      reopenedAtFive.view.map (·.store.state.pagination) =
        some (.offset ⟨5, ⟨20, by decide⟩, false⟩) ∧
      (reopenedAtFive.arrive ⟨0, true⟩ (.answered (pageOfThree 2))).1.view.map
          (·.store.state.pagination) =
        some (.offset ⟨1, ⟨20, by decide⟩, false⟩) := by
  refine ⟨second_page_sent, pagination_reopenedAtFive, ?_⟩
  decide +kernel

end Session
end CatalogQuery
