import CatalogQuery.Proofs.Pagination.Rollback

/-!
# The request that stands

An engine takes on a request before its page is there.  The request log of an
engine is kept beside it and goes by the answers alone: it writes down what was
settled last, by the opening, by a reset or by a fetch that brought a page, and
which request has switched the mode since then.

The settled request stands at rest, whatever was tried and lost in between, but for
one case: a fetch in the other mode starts a new history, and its request stands
from then on even if the fetch brings no page (`request_log_accounts`).  So a fetch
that failed can be what the engine goes by (`lost_switch_stands`).
-/

namespace CatalogQuery

/-- Traffic with what was settled last. -/
structure RequestLog where
  traffic : Traffic
  /-- The request of the latest of the opening, the last reset and the last fetch that
  brought a page. -/
  settled : Pagination
  /-- The last request since then that was fetched in another mode than the engine
  was in. -/
  switched : Option Pagination

namespace RequestLog

/-- The log of an engine that has not fetched anything. -/
def opening (request : Pagination) (cache : CursorCache) : RequestLog :=
  ⟨.opening request cache, request, none⟩

/-- The log after a call. -/
def afterCall (made : EngineCall) (log : RequestLog) : RequestLog :=
  let engine := log.traffic.engine
  let traffic := log.traffic.step (.call made)
  match made, (engine.call made).2 with
  | .reset request, .done => ⟨traffic, request, none⟩
  | .navigate _, .fetching request =>
      if request.mode = engine.request.mode then { log with traffic }
      else { log with traffic, switched := some request }
  | _, _ => { log with traffic }

/-- The log after the end of a fetch. -/
def afterFinish (place : Nat) (fetched : Fetched) (log : RequestLog) : RequestLog :=
  let traffic := log.traffic.step (.finish place fetched)
  match log.traffic.outstanding[place]?, log.traffic.result? place fetched with
  | some outing, some (.ok _) => ⟨traffic, outing.request, none⟩
  | _, _ => { log with traffic }

/-- The log after an event. -/
def step (log : RequestLog) : TrafficEvent → RequestLog
  | .call made => log.afterCall made
  | .finish place fetched => log.afterFinish place fetched

/-- The log after some events. -/
def run (log : RequestLog) (events : List TrafficEvent) : RequestLog := events.foldl step log

/-- The request that stands: the one that was settled last, unless the mode was
switched since. -/
def standing (log : RequestLog) : Pagination := log.switched.getD log.settled

/-- A log that accounts for the request of its engine. -/
structure Accounts (log : RequestLog) : Prop where
  at_rest : log.traffic.engine.state = .idle → log.traffic.engine.request = log.standing
  /-- What was settled last is the request at rest, exactly if no fetch has switched
  the mode since, to another request. -/
  settled_iff : log.traffic.engine.state = .idle →
    (log.traffic.engine.request = log.settled ↔
      ∀ request, log.switched = some request → request = log.settled)
  /-- A request is only tried as long as it is fetched. -/
  tried : ∀ outing ∈ log.traffic.outstanding, log.traffic.engine.request = outing.request
  /-- A fetch that brings no page leaves the request that stood. -/
  lost : ∀ place fetched failure,
    log.traffic.result? place fetched = some (.error failure) →
      (log.step (.finish place fetched)).traffic.engine.request = log.standing ∧
        (log.step (.finish place fetched)).standing = log.standing
  /-- A fetch that brings a page settles its request. -/
  brought : ∀ place fetched page outing, log.traffic.outstanding[place]? = some outing →
    log.traffic.result? place fetched = some (.ok page) →
      (log.step (.finish place fetched)).traffic.engine.request = outing.request ∧
        (log.step (.finish place fetched)).standing = outing.request

/-- What a log knows of its engine at any time: what it would return to is the request
that stands. -/
structure Sound (log : RequestLog) : Prop where
  orderly : log.traffic.Orderly
  grounded : log.traffic.engine.flight = none → log.traffic.engine.request = log.standing
  aloft : ∀ outing ∈ log.traffic.outstanding,
    log.traffic.engine.request = outing.request ∧ outing.flight.restore = log.standing

variable {log : RequestLog}

theorem sound_opening (request : Pagination) (cache : CursorCache) :
    (opening request cache).Sound where
  orderly := Traffic.orderly_opening request cache
  grounded := fun _ => rfl
  aloft := by
    intro outing member
    cases member

/-- What leaves the request and the fetches alone leaves the log sound. -/
theorem Sound.withTraffic (sound : log.Sound) {traffic : Traffic} (orderly : traffic.Orderly)
    (request : traffic.engine.request = log.traffic.engine.request)
    (flight : traffic.engine.flight = log.traffic.engine.flight)
    (outstanding : traffic.outstanding = log.traffic.outstanding) :
    Sound { log with traffic } where
  orderly := orderly
  grounded := by
    intro lands
    exact request.trans (sound.grounded (flight.symm.trans lands))
  aloft := by
    intro outing member
    rw [request]
    exact sound.aloft outing (outstanding ▸ member)

/-- A call that asks for no navigation and no reset leaves the request alone. -/
theorem Sound.afterObservation (sound : log.Sound) {made : EngineCall}
    (request : (log.traffic.engine.call made).1.request = log.traffic.engine.request)
    (flight : (log.traffic.engine.call made).1.flight = log.traffic.engine.flight)
    (nothing : Traffic.outing? made (log.traffic.engine.call made).1
      (log.traffic.engine.call made).2 = none) :
    Sound { log with traffic := log.traffic.step (.call made) } := by
  apply sound.withTraffic (Traffic.orderly_step sound.orderly (.call made)) request flight
  simp [Traffic.step, Traffic.afterCall, nothing]

theorem sound_afterReset (sound : log.Sound) (request : Pagination) :
    (log.afterCall (.reset request)).Sound := by
  have orderly := Traffic.orderly_step sound.orderly (.call (.reset request))
  cases flies : log.traffic.engine.flight with
  | some flight =>
      have rejected := Engine.call_reset_of_flight flies request
      simp only [afterCall, rejected]
      exact sound.afterObservation (by rw [rejected]) (by rw [rejected]) rfl
  | none =>
      have restarted : log.traffic.engine.call (.reset request) =
          (log.traffic.engine.restart request, .done) := by
        simp [Engine.call, Engine.reset, Engine.inFlight, flies]
      have alone := sound.orderly.outstanding_eq_nil flies
      simp only [afterCall, restarted]
      refine ⟨orderly, ?_, ?_⟩
      · intro lands
        simp [Traffic.step, Traffic.afterCall, restarted, standing]
      · intro outing member
        simp [Traffic.step, Traffic.afterCall, restarted, Traffic.outing?, alone] at member

/-- A navigation that departs would return to what stands: to the request that it
left, or to its own if it switches the mode. -/
theorem sound_afterNavigate (sound : log.Sound) (start : Start) :
    (log.afterCall (.navigate start)).Sound := by
  have orderly := Traffic.orderly_step sound.orderly (.call (.navigate start))
  have departs := Engine.departs_begin start sound.orderly.coherent
  generalize begun : start.begin log.traffic.engine = result at departs
  cases departs with
  | stays departure nothing =>
      have stays : log.traffic.engine.call (.navigate start) =
          (log.traffic.engine, departure.answer) := by
        simp [Engine.call, begun]
      have same : Sound { log with traffic := log.traffic.step (.call (.navigate start)) } := by
        apply sound.afterObservation (by rw [stays]) (by rw [stays])
        rw [stays]
        cases departure with
        | none => rfl
        | failed failure => rfl
        | fetching request => exact absurd rfl (nothing request)
      cases departure with
      | none => simpa only [afterCall, stays, Departure.answer] using same
      | failed failure => simpa only [afterCall, stays, Departure.answer] using same
      | fetching request => exact absurd rfl (nothing request)
  | leaves origin request lands given =>
      have alone := sound.orderly.outstanding_eq_nil lands
      have stood := sound.grounded lands
      have called : log.traffic.engine.call (.navigate start) =
          (((log.traffic.engine.baseFor request).depart start.navigation origin request).1,
            .fetching request) := by
        simp [Engine.call, begun, Engine.depart, Departure.answer]
      have traffic : log.traffic.step (.call (.navigate start)) =
          ⟨((log.traffic.engine.baseFor request).depart start.navigation origin request).1,
            [⟨start, request, start.navigation,
              (log.traffic.engine.baseFor request).request, origin⟩]⟩ := by
        simp [Traffic.step, Traffic.afterCall, called, Traffic.outing?, Engine.depart, alone]
      rw [traffic] at orderly
      -- In the same mode the engine would return to the request that it left; a switch of
      -- the mode puts it there before it departs, so it would return to the request itself.
      by_cases same : request.mode = log.traffic.engine.request.mode
      · simp only [afterCall, called, if_pos same, traffic]
        refine ⟨orderly, fun never => (by cases never), ?_⟩
        intro outing member
        obtain rfl := List.mem_singleton.mp member
        rw [Engine.baseFor_of_mode_eq same]
        exact ⟨rfl, stood⟩
      · simp only [afterCall, called, if_neg same, traffic]
        refine ⟨orderly, fun never => (by cases never), ?_⟩
        intro outing member
        obtain rfl := List.mem_singleton.mp member
        exact ⟨rfl, by simp [Engine.baseFor, same, standing]⟩

theorem sound_afterCall (sound : log.Sound) (made : EngineCall) :
    (log.afterCall made).Sound := by
  cases made with
  | navigate start => exact sound_afterNavigate sound start
  | reset request => exact sound_afterReset sound request
  | observe info =>
      have frame := Engine.observeRead_frame (.ok info) log.traffic.engine
      exact sound.afterObservation frame.1 frame.2 rfl
  | observeRaw payload =>
      have frame := Engine.observeRead_frame (PageInfo.ofValue payload) log.traffic.engine
      exact sound.afterObservation frame.1 frame.2 rfl
  | nextRequest => exact sound.afterObservation rfl rfl rfl
  | previousRequest => exact sound.afterObservation rfl rfl rfl
  | status => exact sound.afterObservation rfl rfl rfl

/-- The end of a fetch either settles its request or leaves what stood. -/
theorem finish_eq (sound : log.Sound) {place : Nat} {outing : Outing}
    (outstanding : log.traffic.outstanding[place]? = some outing) (fetched : Fetched) :
    (∃ page, log.traffic.result? place fetched = some (.ok page) ∧
        (log.afterFinish place fetched).standing = outing.request ∧
          (log.afterFinish place fetched).traffic.engine.request = outing.request) ∨
      ∃ failure, log.traffic.result? place fetched = some (.error failure) ∧
        (log.afterFinish place fetched).standing = log.standing ∧
          (log.afterFinish place fetched).traffic.engine.request = log.standing := by
  obtain ⟨_, _, flies, stepped, result⟩ := sound.orderly.finish_eq outstanding fetched
  obtain ⟨tried, restores⟩ := sound.aloft outing (List.mem_of_getElem? outstanding)
  rcases Engine.land_eq flies fetched.read with ⟨page, _, _, landed⟩ | ⟨failure, landed⟩
  · rw [landed] at stepped result
    refine Or.inl ⟨page, result, ?_, ?_⟩
    · simp [afterFinish, outstanding, result, standing]
    · simp only [afterFinish, outstanding, result, stepped]
      exact tried
  · rw [landed] at stepped result
    refine Or.inr ⟨failure, result, ?_, ?_⟩
    · simp [afterFinish, outstanding, result, standing]
    · simp only [afterFinish, outstanding, result, stepped]
      exact restores

@[simp]
theorem traffic_step (log : RequestLog) (event : TrafficEvent) :
    (log.step event).traffic = log.traffic.step event := by
  cases event with
  | call made =>
      simp only [step, afterCall]
      split
      · rfl
      · split <;> rfl
      · rfl
  | finish place fetched =>
      simp only [step, afterFinish]
      split <;> rfl

theorem sound_afterFinish (sound : log.Sound) (place : Nat) (fetched : Fetched) :
    (log.afterFinish place fetched).Sound := by
  have orderly := Traffic.orderly_step sound.orderly (.finish place fetched)
  cases outstanding : log.traffic.outstanding[place]? with
  | none =>
      have absent := Traffic.step_finish_of_absent outstanding fetched
      simp only [afterFinish, outstanding, absent]
      exact sound
  | some outing =>
      have ended := (log.traffic_step (.finish place fetched)).symm
      obtain ⟨_, _, _, stepped, _⟩ := sound.orderly.finish_eq outstanding fetched
      rw [ended] at orderly stepped
      refine ⟨orderly, fun _ => ?_, ?_⟩
      · rcases finish_eq sound outstanding fetched with
          ⟨page, _, stands, request⟩ | ⟨failure, _, stands, request⟩
        · rw [request, stands]
        · rw [request, stands]
      · intro other member
        rw [step] at stepped
        rw [stepped] at member
        cases member

theorem sound_run (sound : log.Sound) (events : List TrafficEvent) : (log.run events).Sound := by
  induction events generalizing log with
  | nil => exact sound
  | cons event events ih =>
      cases event with
      | call made => exact ih (sound_afterCall sound made)
      | finish place fetched => exact ih (sound_afterFinish sound place fetched)

theorem traffic_run (log : RequestLog) (events : List TrafficEvent) :
    (log.run events).traffic = log.traffic.run events := by
  induction events generalizing log with
  | nil => rfl
  | cons event events ih =>
      change ((log.step event).run events).traffic = _
      rw [ih, traffic_step]
      rfl

theorem standing_eq_settled_iff (log : RequestLog) :
    log.standing = log.settled ↔
      ∀ request, log.switched = some request → request = log.settled := by
  unfold standing
  cases log.switched <;> simp

theorem Sound.accounts (sound : log.Sound) : log.Accounts where
  at_rest := by
    intro idle
    exact sound.grounded (Engine.state_eq_idle_iff.mp idle)
  settled_iff := by
    intro idle
    rw [sound.grounded (Engine.state_eq_idle_iff.mp idle), standing_eq_settled_iff]
  tried := fun outing member => (sound.aloft outing member).1
  lost := by
    intro place fetched failure failed
    cases outstanding : log.traffic.outstanding[place]? with
    | none => simp [Traffic.result?, outstanding] at failed
    | some outing =>
        rcases finish_eq sound outstanding fetched with
          ⟨page, result, _⟩ | ⟨_, _, stands, request⟩
        · simp [result] at failed
        · exact ⟨request, stands⟩
  brought := by
    intro place fetched page outing outstanding loaded
    rcases finish_eq sound outstanding fetched with
      ⟨_, _, stands, request⟩ | ⟨failure, result, _⟩
    · exact ⟨request, stands⟩
    · simp [result] at loaded

/-- In every run of an engine the log accounts for its request. -/
theorem request_log_accounts (request : Pagination) (cache : CursorCache)
    (events : List TrafficEvent) :
    let log := (opening request cache).run events
    log.traffic = (Traffic.opening request cache).run events ∧ log.Accounts :=
  ⟨traffic_run _ _, (sound_run (sound_opening request cache) events).accounts⟩

/-- A fetch in the other mode that failed is what an idle engine goes by, though the
request that it was opened with is the one that was settled last. -/
theorem lost_switch_stands :
    let log := (opening (.offset .first) (.empty none)).run
      [.call (.navigate (.refetch (some (.cursor ⟨none, none⟩)))),
        .finish 0 (.raised (.network (.broken .connect)))]
    log.traffic.engine.state = .idle ∧ log.settled = .offset .first ∧
      log.traffic.engine.request = .cursor ⟨none, none⟩ :=
  ⟨rfl, rfl, rfl⟩

end RequestLog
end CatalogQuery
