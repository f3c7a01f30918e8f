import CatalogQuery.Proofs.Pagination.SingleFlight

/-!
# Failed navigations

A navigation writes its request into the engine before the page is there, and
while the fetch is under way the engine can still be called.  If no page comes
of it, the engine is the one that only the observations made in the meantime
would have led to.  The proof follows the engine through the calls of the flight,
as a copy of the engine on the ground that differs in the request and the flight
alone (`aloft`).
-/

namespace CatalogQuery

/-- Whether a call observes a description. -/
def EngineCall.isObservation : EngineCall → Bool
  | observe _ | observeRaw _ => true
  | _ => false

/-- A fetch from which no page in a mode comes, with the failure. -/
inductive Fetched.Fails (mode : PaginationMode) : Fetched → Failure → Prop where
  | raised (failure : Failure) : Fails mode (.raised failure) failure
  | cancelled : Fails mode .cancelled .cancelled
  | unreadable {payload : Value} {failure : Failure}
      (unread : PageResponse.ofValue payload = .error failure) :
      Fails mode (.envelope payload) failure
  | mismatched {fetched : Fetched} {page : PageResponse} (read : fetched.read = .ok page)
      (other : page.pageInfo.mode ≠ mode) :
      Fails mode fetched (.pagination (.tagMismatch mode page.pageInfo.mode))

namespace Engine

/-- The engine with a fetch under way. -/
def aloft (request : Pagination) (flight : Flight) (engine : Engine) : Engine :=
  { engine with request, flight := some flight }

/-- A departure in the mode of the engine only puts a fetch under way. -/
theorem exists_aloft_of_departs {engine departed : Engine} {start : Start}
    {request : Pagination} (coherent : engine.Coherent)
    (sameMode : ∀ given, start = .refetch (some given) → given.mode = engine.request.mode)
    (departs : engine.call (.navigate start) = (departed, .fetching request)) :
    request.mode = engine.request.mode ∧
      ∃ origin, departed = engine.aloft request ⟨start.navigation, engine.request, origin⟩ := by
  have called := called_call coherent (.navigate start)
  rw [departs] at called
  cases called with
  | unchanged made answer grounded => exact absurd rfl (grounded request)
  | departed start origin request grounded given =>
      have mode : request.mode = engine.request.mode := by
        rcases given with same | refetched
        · exact same
        · exact sameMode request refetched
      rw [baseFor_of_mode_eq mode]
      exact ⟨mode, origin, rfl⟩

theorem observeRead_frame (info : Outcome PageInfo) (engine : Engine) :
    (engine.observeRead info).1.request = engine.request ∧
      (engine.observeRead info).1.flight = engine.flight := by
  cases info with
  | error failure => exact ⟨rfl, rfl⟩
  | ok info =>
      by_cases same : info.mode = engine.request.mode <;>
        simp [observeRead, observe, same]

theorem observeRead_aloft (info : Outcome PageInfo) {request : Pagination} {flight : Flight}
    {engine : Engine} (mode : request.mode = engine.request.mode) :
    ((engine.aloft request flight).observeRead info).1 =
      (engine.observeRead info).1.aloft request flight := by
  cases info with
  | error failure => rfl
  | ok info =>
      by_cases same : info.mode = engine.request.mode <;>
        simp [observeRead, observe, aloft, mode, same]

/-- During a fetch a call does what it does on the ground if it observes, and
nothing otherwise. -/
theorem call_aloft (made : EngineCall) {request : Pagination} {flight : Flight}
    {engine : Engine} (mode : request.mode = engine.request.mode) :
    ((engine.aloft request flight).call made).1 =
      (if made.isObservation then (engine.call made).1 else engine).aloft request flight := by
  have flies : (engine.aloft request flight).flight = some flight := rfl
  cases made with
  | navigate start => rw [call_navigate_of_flight flies]; rfl
  | reset target => rw [call_reset_of_flight flies]; rfl
  | observe info => exact observeRead_aloft (.ok info) mode
  | observeRaw payload => exact observeRead_aloft (PageInfo.ofValue payload) mode
  | nextRequest => rfl
  | previousRequest => rfl
  | status => rfl

theorem call_observation_frame {made : EngineCall} (observes : made.isObservation = true)
    (engine : Engine) :
    (engine.call made).1.request = engine.request ∧
      (engine.call made).1.flight = engine.flight := by
  cases made with
  | observe info => exact observeRead_frame (.ok info) engine
  | observeRaw payload => exact observeRead_frame (PageInfo.ofValue payload) engine
  | _ => cases observes

theorem calls_observations_frame (made : List EngineCall) (engine : Engine) :
    (engine.calls (made.filter (·.isObservation))).request = engine.request ∧
      (engine.calls (made.filter (·.isObservation))).flight = engine.flight := by
  induction made generalizing engine with
  | nil => exact ⟨rfl, rfl⟩
  | cons first rest ih =>
      cases observes : first.isObservation with
      | false => simpa [List.filter_cons, observes] using ih engine
      | true =>
          have frame := call_observation_frame observes engine
          have later := ih (engine.call first).1
          rw [frame.1, frame.2] at later
          simpa [List.filter_cons, observes, calls] using later

/-- The calls made during a fetch amount to their observations, made on the
ground. -/
theorem calls_aloft (made : List EngineCall) {request : Pagination} {flight : Flight}
    {engine : Engine} (mode : request.mode = engine.request.mode) :
    (engine.aloft request flight).calls made =
      (engine.calls (made.filter (·.isObservation))).aloft request flight := by
  induction made generalizing engine with
  | nil => rfl
  | cons first rest ih =>
      -- An observation moves the engine on the ground along; any other call moves neither.
      have step : ((engine.aloft request flight).call first).1 = _ := call_aloft first mode
      cases observes : first.isObservation with
      | false =>
          simp only [observes, Bool.false_eq_true, if_false] at step
          simp only [calls, List.foldl_cons, List.filter_cons, observes, step] at ih ⊢
          exact ih mode
      | true =>
          have frame := call_observation_frame observes engine
          simp only [observes, if_true] at step
          simp only [calls, List.foldl_cons, List.filter_cons, observes, step, if_true] at ih ⊢
          exact ih (frame.1 ▸ mode)

/-- An engine that a fetch failed for is the one on the ground. -/
theorem land_aloft {engine : Engine} (grounded : engine.flight = none) {request : Pagination}
    {flight : Flight} (restores : flight.restore = engine.request)
    (mode : request.mode = engine.request.mode) {fetched : Fetched} {failure : Failure}
    (fails : fetched.Fails engine.request.mode failure) :
    (engine.aloft request flight).land fetched.read = (engine, .error failure) := by
  have flies : (engine.aloft request flight).flight = some flight := rfl
  have back : (engine.aloft request flight).rolledBack flight = engine := by
    simp [rolledBack, aloft, restores, ← grounded]
  cases fails with
  | raised failure => rw [Fetched.read, land_of_error flies, back]
  | cancelled => rw [Fetched.read, land_of_error flies, back]
  | unreadable unread => rw [Fetched.read, unread, land_of_error flies, back]
  | mismatched read other =>
      have mode : (engine.aloft request flight).request.mode = engine.request.mode := mode
      rw [read, land_of_mismatch flies (by rwa [mode]), back, mode]

/-- A navigation that fails leaves nothing behind but the observations that were
made while it was under way, and gives back the failure of its fetch. -/
theorem failed_navigation_leaves_no_trace {engine departed : Engine}
    (reachable : engine.Reachable) (idle : engine.state = .idle) {start : Start}
    (sameMode : ∀ given, start = .refetch (some given) → given.mode = engine.request.mode)
    {request : Pagination}
    (departs : engine.call (.navigate start) = (departed, .fetching request))
    (made : List EngineCall) {fetched : Fetched} {failure : Failure}
    (fails : fetched.Fails engine.request.mode failure) :
    (departed.calls made).land fetched.read =
      (engine.calls (made.filter (·.isObservation)), .error failure) := by
  obtain ⟨mode, origin, rfl⟩ := exists_aloft_of_departs reachable.coherent sameMode departs
  have frame := calls_observations_frame made engine
  rw [calls_aloft made mode]
  apply land_aloft
  · rw [frame.2]
    exact state_eq_idle_iff.mp idle
  · exact frame.1.symm
  · rw [frame.1]
    exact mode
  · rw [frame.1]
    exact fails

/-- A next page whose response is no envelope, with an observation, a rejected
navigation and a look at the pager made in the meantime. -/
theorem lost_next_page_keeps_observation :
    let engine :=
      ((Traffic.opening (.cursor ⟨none, none⟩) (.empty none)).run
        [.call (.navigate (.refetch none)),
          .finish 0 (.page ⟨[], .cursor ⟨"a", some "b"⟩⟩)]).engine
    let departed := engine.aloft (.cursor ⟨some "b", none⟩)
      ⟨.next, .cursor ⟨none, none⟩, some "a"⟩
    engine.state = .idle ∧
      engine.call (.navigate .next) = (departed, .fetching (.cursor ⟨some "b", none⟩)) ∧
        (departed.calls
            [.observe (.cursor ⟨"a", some "c"⟩), .navigate .previous, .status]).land
            (Fetched.envelope .null).read =
          (engine.calls [.observe (.cursor ⟨"a", some "c"⟩)], .error .notAnObject) := by
  refine ⟨rfl, rfl, ?_⟩
  have sameMode (given : Pagination) (never : Start.next = .refetch (some given)) :
      given.mode = PaginationMode.cursor := by cases never
  exact failed_navigation_leaves_no_trace ⟨_, _, _, rfl⟩ rfl sameMode rfl _ (.unreadable rfl)

end Engine
end CatalogQuery
