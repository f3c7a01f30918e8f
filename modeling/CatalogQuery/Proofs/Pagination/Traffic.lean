import CatalogQuery.Proofs.Pagination.Turn

/-!
# Traffic of a pagination engine

An engine is driven by calls and by the ends of the fetches that they start.
Its traffic is the engine together with the fetches that were started and have
not ended.  Nothing in these definitions keeps two fetches from being
outstanding at once: each fetch ends with the flight it departed with, whatever
the engine did in between.

The main lemmas say everything that a call can do to an engine (`called_call`)
and what the end of a fetch does to it (`land_eq`), and from these that every run
keeps the traffic orderly (`orderly_run`): the description of the last page is in
the mode of the request, and there is at most one fetch, which is the one that
the engine knows of.
-/

namespace CatalogQuery

/-- The ways to ask for a navigation. -/
inductive Start where
  | next
  | previous
  /-- The given request, or the last one again. -/
  | refetch (request : Option Pagination)
deriving DecidableEq

/-- The navigation that is asked for. -/
def Start.navigation : Start → Navigation
  | next => .next
  | previous => .previous
  | refetch _ => .refetch

/-- Ask an engine for a navigation. -/
def Start.begin : Start → Engine → Engine × Departure
  | next, engine => engine.loadNext
  | previous, engine => engine.loadPrevious
  | refetch request, engine => engine.refetch request

/-- The calls of an engine. -/
inductive EngineCall where
  | navigate (start : Start)
  | reset (request : Pagination)
  | observe (info : PageInfo)
  /-- Observe a description that has yet to be read. -/
  | observeRaw (payload : Value)
  | nextRequest
  | previousRequest
  | status

/-- What a call gives back. -/
inductive CallAnswer where
  /-- There was nothing to do. -/
  | nothing
  /-- A fetch was started; its end gives the answer. -/
  | fetching (request : Pagination)
  | raised (failure : Failure)
  | observed (info : PageInfo)
  | derived (request : Pagination)
  | shown (status : PagerStatus)
  | done

/-- What a fetch came to. -/
inductive Fetched where
  | raised (failure : Failure)
  | cancelled
  /-- An envelope that has yet to be read. -/
  | envelope (payload : Value)
  | page (response : PageResponse)

/-- The page that was fetched. -/
def Fetched.read : Fetched → Outcome PageResponse
  | raised failure => .error failure
  | cancelled => .error .cancelled
  | envelope payload => PageResponse.ofValue payload
  | page response => .ok response

/-- The answer to a call that asked for a navigation. -/
def Departure.answer : Departure → CallAnswer
  | none => .nothing
  | failed failure => .raised failure
  | fetching request => .fetching request

/-- The answer to a call that asked for a request. -/
def CallAnswer.ofRequest : Outcome Pagination → CallAnswer
  | .ok request => .derived request
  | .error failure => .raised failure

namespace Engine

/-- Observe a description, which may not have been readable. -/
def observeRead (info : Outcome PageInfo) (engine : Engine) : Engine × CallAnswer :=
  match info with
  | .error failure => (engine, .raised failure)
  | .ok info =>
      match engine.observe info with
      | .ok engine => (engine, .observed info)
      | .error failure => (engine, .raised failure)

/-- The engine after a call, with the answer. -/
def call (engine : Engine) : EngineCall → Engine × CallAnswer
  | .navigate start => ((start.begin engine).1, (start.begin engine).2.answer)
  | .reset request =>
      match engine.reset request with
      | .ok engine => (engine, .done)
      | .error failure => (engine, .raised failure)
  | .observe info => engine.observeRead (.ok info)
  | .observeRaw payload => engine.observeRead (PageInfo.ofValue payload)
  | .nextRequest => (engine, .ofRequest engine.nextRequest)
  | .previousRequest => (engine, .ofRequest engine.previousRequest)
  | .status => (engine, .shown engine.status)

/-- The engine after some calls. -/
def calls (engine : Engine) (made : List EngineCall) : Engine :=
  made.foldl (fun engine made => (engine.call made).1) engine

end Engine

/-- A navigation whose fetch has not ended. -/
structure Outing where
  start : Start
  /-- The request that is fetched. -/
  request : Pagination
  /-- What the end of the fetch goes by. -/
  flight : Flight

/-- An engine with the fetches that have not ended, the first one first. -/
structure Traffic where
  engine : Engine
  outstanding : List Outing

/-- What happens to an engine. -/
inductive TrafficEvent where
  | call (made : EngineCall)
  /-- The outstanding fetch at a place ends. -/
  | finish (place : Nat) (fetched : Fetched)

namespace Traffic

/-- The traffic of an engine that has not fetched anything. -/
def opening (request : Pagination) (cache : CursorCache) : Traffic :=
  ⟨Engine.start request cache, []⟩

/-- The outing that a call started, if it started one. -/
def outing? (made : EngineCall) (departed : Engine) (answer : CallAnswer) : Option Outing :=
  match made, answer with
  | .navigate start, .fetching request => departed.flight.map (⟨start, request, ·⟩)
  | _, _ => none

/-- The traffic after a call. -/
def afterCall (made : EngineCall) (traffic : Traffic) : Traffic :=
  let (engine, answer) := traffic.engine.call made
  ⟨engine, traffic.outstanding ++ (outing? made engine answer).toList⟩

/-- The traffic after the end of a fetch, which ends by the flight that it
departed with. -/
def afterFinish (place : Nat) (fetched : Fetched) (traffic : Traffic) : Traffic :=
  match traffic.outstanding[place]? with
  | none => traffic
  | some outing =>
      let engine : Engine := { traffic.engine with flight := some outing.flight }
      ⟨(engine.land fetched.read).1, traffic.outstanding.eraseIdx place⟩

/-- What the end of an outstanding fetch gives back. -/
def result? (place : Nat) (fetched : Fetched) (traffic : Traffic) :
    Option (Outcome PageResponse) :=
  traffic.outstanding[place]?.map fun outing =>
    ({ traffic.engine with flight := some outing.flight }.land fetched.read).2

/-- The traffic after an event. -/
def step (traffic : Traffic) : TrafficEvent → Traffic
  | .call made => traffic.afterCall made
  | .finish place fetched => traffic.afterFinish place fetched

/-- The traffic after some events. -/
def run (traffic : Traffic) (events : List TrafficEvent) : Traffic :=
  events.foldl step traffic

end Traffic

namespace Engine

/-- An engine that some run of events leads to. -/
def Reachable (engine : Engine) : Prop :=
  ∃ request cache events, ((Traffic.opening request cache).run events).engine = engine

/-- The description of the last page is in the mode of the request. -/
def Coherent (engine : Engine) : Prop :=
  ∀ info, engine.pageInfo = some info → info.mode = engine.request.mode

/-- The engine that a request departs from: a request of the other mode starts
a new history. -/
def baseFor (request : Pagination) (engine : Engine) : Engine :=
  if request.mode = engine.request.mode then engine else engine.restart request

@[simp]
theorem restart_flight (request : Pagination) (engine : Engine) :
    (engine.restart request).flight = engine.flight :=
  rfl

@[simp]
theorem restart_request (request : Pagination) (engine : Engine) :
    (engine.restart request).request = request :=
  rfl

theorem coherent_restart (request : Pagination) (engine : Engine) :
    (engine.restart request).Coherent := by
  intro info seen
  cases seen

theorem baseFor_of_mode_eq {request : Pagination} {engine : Engine}
    (same : request.mode = engine.request.mode) : engine.baseFor request = engine :=
  if_pos same

@[simp]
theorem baseFor_mode (engine : Engine) (request : Pagination) :
    (engine.baseFor request).request.mode = request.mode := by
  unfold baseFor
  split
  case isTrue same => exact same.symm
  case isFalse => rfl

theorem coherent_baseFor {engine : Engine} (coherent : engine.Coherent)
    (request : Pagination) : (engine.baseFor request).Coherent := by
  unfold baseFor
  split
  · exact coherent
  · exact coherent_restart request engine

theorem Coherent.congr {engine other : Engine} (coherent : engine.Coherent)
    (page : other.pageInfo = engine.pageInfo)
    (mode : other.request.mode = engine.request.mode) : other.Coherent := by
  intro info seen
  rw [mode]
  exact coherent info (page ▸ seen)

end Engine

/-- What asking an engine for a navigation can come to. -/
inductive Engine.Departs (engine : Engine) (start : Start) : Engine × Departure → Prop where
  /-- No fetch is started, and the engine stays as it is. -/
  | stays (departure : Departure) (grounded : ∀ request, departure ≠ .fetching request) :
      Departs engine start (engine, departure)
  /-- A fetch is started by an engine that had none.  Only a request that was
  given can be of the other mode. -/
  | leaves (origin : Option Text) (request : Pagination) (grounded : engine.flight = none)
      (given : request.mode = engine.request.mode ∨ start = .refetch (some request)) :
      Departs engine start ((engine.baseFor request).depart start.navigation origin request)

/-- What a call can do to an engine. -/
inductive Engine.Called (engine : Engine) : EngineCall → Engine × CallAnswer → Prop where
  | unchanged (made : EngineCall) (answer : CallAnswer)
      (grounded : ∀ request, answer ≠ .fetching request) :
      Called engine made (engine, answer)
  | departed (start : Start) (origin : Option Text) (request : Pagination)
      (grounded : engine.flight = none)
      (given : request.mode = engine.request.mode ∨ start = .refetch (some request)) :
      Called engine (.navigate start)
        (((engine.baseFor request).depart start.navigation origin request).1, .fetching request)
  | restarted (request : Pagination) (grounded : engine.flight = none) :
      Called engine (.reset request) (engine.restart request, .done)
  | observed (made : EngineCall) (info : PageInfo) (same : info.mode = engine.request.mode) :
      Called engine made
        ({ engine with pageInfo := some info, cache := rememberNext info engine.cache },
          .observed info)

namespace Engine

/-- A turn departs from the engine as it is. -/
theorem departs_turn {turn : PageTurn} {start : Start}
    (named : turn.navigation = start.navigation) {engine : Engine} (coherent : engine.Coherent) :
    engine.Departs start (turn.start engine) := by
  have starts := turn.starts_start engine
  generalize turn.start engine = result at starts
  cases starts with
  | stays departure grounded => exact .stays departure grounded
  | leaves origin request grounded derived =>
      obtain ⟨info, seen, mode⟩ := PageTurn.mode_of_request derived
      have same : request.mode = engine.request.mode := by rw [← mode, coherent info seen]
      have leaves : engine.Departs start _ := .leaves origin request grounded (Or.inl same)
      rw [baseFor_of_mode_eq same, ← named] at leaves
      exact leaves

theorem departs_refetch (request : Option Pagination) (engine : Engine) :
    engine.Departs (.refetch request) (engine.refetch request) := by
  unfold refetch
  split
  · exact .stays .none (by simp)
  · rename_i free
    refine .leaves none (request.getD engine.request) (by simpa [inFlight] using free) ?_
    cases request with
    | none => exact Or.inl rfl
    | some request => exact Or.inr rfl

/-- Everything that asking for a navigation can do. -/
theorem departs_begin (start : Start) {engine : Engine} (coherent : engine.Coherent) :
    engine.Departs start (start.begin engine) := by
  cases start with
  | next => exact @departs_turn .next .next rfl engine coherent
  | previous => exact @departs_turn .previous .previous rfl engine coherent
  | refetch request => exact departs_refetch request engine

theorem called_observeRead (made : EngineCall) (info : Outcome PageInfo) (engine : Engine) :
    engine.Called made (engine.observeRead info) := by
  cases info with
  | error failure => exact .unchanged made (.raised failure) (by simp)
  | ok info =>
      by_cases same : info.mode = engine.request.mode
      · simp only [observeRead, observe, same, if_true]
        exact .observed made info same
      · simp only [observeRead, observe, same, if_false]
        exact .unchanged made _ (by simp)

/-- Everything that a call can do. -/
theorem called_call {engine : Engine} (coherent : engine.Coherent) (made : EngineCall) :
    engine.Called made (engine.call made) := by
  cases made with
  | navigate start =>
      have departs := departs_begin start coherent
      change engine.Called _ ((start.begin engine).1, (start.begin engine).2.answer)
      generalize start.begin engine = begun at departs ⊢
      cases departs with
      | stays departure grounded =>
          apply Called.unchanged
          intro request
          cases departure with
          | fetching asked => exact absurd rfl (grounded asked)
          | none => simp [Departure.answer]
          | failed failure => simp [Departure.answer]
      | leaves origin request grounded given =>
          exact .departed start origin request grounded given
  | reset request =>
      by_cases flies : engine.inFlight = true
      · simp only [call, reset, flies, if_true]
        exact .unchanged _ _ (by simp)
      · simp only [call, reset, flies]
        exact .restarted request (by simpa [inFlight] using flies)
  | observe info => exact called_observeRead _ (.ok info) engine
  | observeRaw payload => exact called_observeRead _ (PageInfo.ofValue payload) engine
  | nextRequest =>
      refine .unchanged _ _ ?_
      cases engine.nextRequest <;> simp [CallAnswer.ofRequest]
  | previousRequest =>
      refine .unchanged _ _ ?_
      cases engine.previousRequest <;> simp [CallAnswer.ofRequest]
  | status => exact .unchanged _ _ (by simp)

/-- The engine after a fetch that failed. -/
def rolledBack (flight : Flight) (engine : Engine) : Engine :=
  { engine with request := flight.restore, flight := none }

/-- The engine after a fetch that loaded a page. -/
def arrived (flight : Flight) (info : PageInfo) (engine : Engine) : Engine :=
  { engine with
    pageInfo := some info
    cache := rememberOrigin flight.origin info (rememberNext info engine.cache)
    flight := none }

theorem land_of_error {engine : Engine} {flight : Flight} (flies : engine.flight = some flight)
    (failure : Failure) :
    engine.land (.error failure) = (engine.rolledBack flight, .error failure) := by
  simp [land, flies, rolledBack]

theorem land_of_mismatch {engine : Engine} {flight : Flight}
    (flies : engine.flight = some flight) {page : PageResponse}
    (other : page.pageInfo.mode ≠ engine.request.mode) :
    engine.land (.ok page) =
      (engine.rolledBack flight,
        .error (.pagination (.tagMismatch engine.request.mode page.pageInfo.mode))) := by
  simp [land, flies, arrive, observe, other, rolledBack, bind, Except.bind]

theorem land_of_page {engine : Engine} {flight : Flight} (flies : engine.flight = some flight)
    {page : PageResponse} (same : page.pageInfo.mode = engine.request.mode) :
    engine.land (.ok page) = (engine.arrived flight page.pageInfo, .ok page) := by
  simp [land, flies, arrive, observe, same, arrived, bind, Except.bind]

/-- A fetch that ends either loads a page in the mode of the request or is
rolled back. -/
theorem land_eq {engine : Engine} {flight : Flight} (flies : engine.flight = some flight)
    (fetched : Outcome PageResponse) :
    (∃ page, fetched = .ok page ∧ page.pageInfo.mode = engine.request.mode ∧
        engine.land fetched = (engine.arrived flight page.pageInfo, .ok page)) ∨
      ∃ failure, engine.land fetched = (engine.rolledBack flight, .error failure) := by
  cases fetched with
  | error failure => exact Or.inr ⟨failure, land_of_error flies failure⟩
  | ok page =>
      by_cases same : page.pageInfo.mode = engine.request.mode
      · exact Or.inl ⟨page, rfl, same, land_of_page flies same⟩
      · exact Or.inr ⟨_, land_of_mismatch flies same⟩

end Engine

/-- Traffic in which the engine knows of every outstanding fetch, and there is at
most one. -/
inductive Traffic.Orderly : Traffic → Prop where
  | grounded {engine : Engine} (coherent : engine.Coherent) (lands : engine.flight = none) :
      Orderly ⟨engine, []⟩
  | flying {engine : Engine} {outing : Outing} (coherent : engine.Coherent)
      (flies : engine.flight = some outing.flight)
      (named : outing.flight.navigation = outing.start.navigation)
      (restores : outing.flight.restore.mode = engine.request.mode) :
      Orderly ⟨engine, [outing]⟩

namespace Traffic

theorem Orderly.coherent {traffic : Traffic} (orderly : traffic.Orderly) :
    traffic.engine.Coherent := by
  cases orderly <;> assumption

theorem orderly_opening (request : Pagination) (cache : CursorCache) :
    (opening request cache).Orderly := by
  refine .grounded ?_ rfl
  intro info seen
  cases seen

/-- A call starts a fetch only if none is outstanding. -/
theorem Orderly.outstanding_eq_nil {traffic : Traffic} (orderly : traffic.Orderly)
    (grounded : traffic.engine.flight = none) : traffic.outstanding = [] := by
  cases orderly with
  | grounded => rfl
  | flying coherent flies => simp [flies] at grounded

theorem orderly_afterCall {traffic : Traffic} (orderly : traffic.Orderly) (made : EngineCall) :
    (traffic.afterCall made).Orderly := by
  have called := Engine.called_call orderly.coherent made
  unfold afterCall
  generalize traffic.engine.call made = result at called ⊢
  cases called with
  | unchanged made answer grounded =>
      have none_started : outing? made traffic.engine answer = none := by
        unfold outing?
        split
        · exact absurd rfl (grounded _)
        · rfl
      simpa [none_started] using orderly
  | departed start origin request grounded =>
      cases orderly with
      | flying coherent flies => simp [flies] at grounded
      | @grounded engine coherent lands =>
          have base := Engine.coherent_baseFor coherent request
          have mode := engine.baseFor_mode request
          exact .flying (base.congr rfl mode.symm) rfl rfl mode
  | restarted request grounded =>
      cases orderly with
      | flying coherent flies => simp [flies] at grounded
      | grounded coherent lands => exact .grounded (Engine.coherent_restart _ _) lands
  | observed made info same =>
      have none_started (engine : Engine) : outing? made engine (.observed info) = none := by
        cases made <;> rfl
      have seen : Engine.Coherent
          { traffic.engine with
            pageInfo := some info
            cache := Engine.rememberNext info traffic.engine.cache } := by
        intro other equal
        cases equal
        exact same
      simp only [none_started, Option.toList_none, List.append_nil]
      cases orderly with
      | grounded coherent lands => exact .grounded seen lands
      | flying coherent flies named restores => exact .flying seen flies named restores

/-- The fetch that ends is the one that the engine knows of. -/
theorem Orderly.finish_eq {traffic : Traffic} (orderly : traffic.Orderly) {place : Nat}
    {outing : Outing} (outstanding : traffic.outstanding[place]? = some outing)
    (fetched : Fetched) :
    place = 0 ∧ traffic.outstanding = [outing] ∧ traffic.engine.flight = some outing.flight ∧
      traffic.step (.finish place fetched) = ⟨(traffic.engine.land fetched.read).1, []⟩ ∧
        traffic.result? place fetched = some (traffic.engine.land fetched.read).2 := by
  cases orderly with
  | grounded => simp at outstanding
  | @flying engine known coherent flies =>
      cases place with
      | succ place => simp at outstanding
      | zero =>
          obtain rfl : known = outing := by simpa using outstanding
          have same : { engine with flight := some known.flight } = engine := by rw [← flies]
          refine ⟨rfl, rfl, flies, ?_, ?_⟩
          · simp [step, afterFinish, same]
          · simp [result?, same]

theorem step_finish_of_absent {traffic : Traffic} {place : Nat}
    (absent : traffic.outstanding[place]? = none) (fetched : Fetched) :
    traffic.step (.finish place fetched) = traffic := by
  simp [step, afterFinish, absent]

theorem Orderly.restores {traffic : Traffic} (orderly : traffic.Orderly) {outing : Outing}
    (member : outing ∈ traffic.outstanding) :
    outing.flight.restore.mode = traffic.engine.request.mode := by
  cases orderly with
  | grounded => cases member
  | flying coherent flies named restores =>
      obtain rfl := List.mem_singleton.mp member
      exact restores

/-- The end of a fetch leaves none outstanding. -/
theorem orderly_finish {traffic : Traffic} (orderly : traffic.Orderly) (place : Nat)
    (fetched : Fetched) : (traffic.step (.finish place fetched)).Orderly := by
  cases outstanding : traffic.outstanding[place]? with
  | none =>
      rw [step_finish_of_absent outstanding]
      exact orderly
  | some outing =>
      obtain ⟨_, _, flies, stepped, _⟩ := orderly.finish_eq outstanding fetched
      have restores := orderly.restores (List.mem_of_getElem? outstanding)
      rw [stepped]
      rcases Engine.land_eq flies fetched.read with
        ⟨page, _, same, landed⟩ | ⟨failure, landed⟩ <;> rw [landed]
      · refine .grounded ?_ rfl
        intro info seen
        cases seen
        exact same
      · exact .grounded (orderly.coherent.congr rfl restores) rfl

theorem orderly_step {traffic : Traffic} (orderly : traffic.Orderly) (event : TrafficEvent) :
    (traffic.step event).Orderly := by
  cases event with
  | call made => exact orderly_afterCall orderly made
  | finish place fetched => exact orderly_finish orderly place fetched

/-- Every run keeps the traffic orderly. -/
theorem orderly_run {traffic : Traffic} (orderly : traffic.Orderly)
    (events : List TrafficEvent) : (traffic.run events).Orderly := by
  induction events generalizing traffic with
  | nil => exact orderly
  | cons event events ih => exact ih (orderly_step orderly event)

end Traffic

theorem Engine.Reachable.coherent {engine : Engine} (reachable : engine.Reachable) :
    engine.Coherent := by
  obtain ⟨request, cache, events, rfl⟩ := reachable
  exact (Traffic.orderly_run (Traffic.orderly_opening request cache) events).coherent

end CatalogQuery
