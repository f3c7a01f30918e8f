import CatalogQuery.Proofs.Pagination.Traffic

/-!
# One fetch at a time

Whatever order the calls of an engine and the ends of its fetches come in, at
most one fetch is outstanding.  While there is one, the state of the engine
names the call that started it, further navigations and resets are rejected,
and its end, of whatever kind, leaves the engine idle.
-/

namespace CatalogQuery

/-- What the single flight of an engine comes to at one point of a run. -/
structure Traffic.SingleFlight (traffic : Traffic) : Prop where
  at_most_one : traffic.outstanding.length ≤ 1
  idle_iff : traffic.engine.state = .idle ↔ traffic.outstanding = []
  /-- The state names the navigation that started the fetch. -/
  named : ∀ outing ∈ traffic.outstanding,
    traffic.engine.state = .loading outing.start.navigation
  /-- During a fetch a navigation gives back nothing, starts no fetch and changes
  nothing. -/
  navigation_rejected : traffic.outstanding ≠ [] → ∀ start,
    traffic.engine.call (.navigate start) = (traffic.engine, .nothing) ∧
      traffic.step (.call (.navigate start)) = traffic
  /-- During a fetch a reset fails and changes nothing. -/
  reset_rejected : traffic.outstanding ≠ [] → ∀ request,
    traffic.engine.call (.reset request) =
        (traffic.engine, .raised (.pagination .resetInFlight)) ∧
      traffic.step (.call (.reset request)) = traffic
  /-- However a fetch ends, none is left. -/
  ends_idle : ∀ place, place < traffic.outstanding.length → ∀ fetched,
    (traffic.step (.finish place fetched)).engine.state = .idle ∧
      (traffic.step (.finish place fetched)).outstanding = []

namespace Engine

theorem state_eq_idle_iff {engine : Engine} : engine.state = .idle ↔ engine.flight = none := by
  unfold state
  split <;> simp_all

theorem state_of_flight {engine : Engine} {flight : Flight}
    (flies : engine.flight = some flight) : engine.state = .loading flight.navigation := by
  simp [state, flies]

/-- During a fetch every navigation is rejected, whatever the engine remembers. -/
theorem begin_of_flight {engine : Engine} {flight : Flight}
    (flies : engine.flight = some flight) (start : Start) :
    start.begin engine = (engine, .none) := by
  cases start <;>
    simp [Start.begin, loadNext, loadPrevious, refetch, inFlight, flies]

theorem call_navigate_of_flight {engine : Engine} {flight : Flight}
    (flies : engine.flight = some flight) (start : Start) :
    engine.call (.navigate start) = (engine, .nothing) := by
  simp [call, begin_of_flight flies, Departure.answer]

theorem call_reset_of_flight {engine : Engine} {flight : Flight}
    (flies : engine.flight = some flight) (request : Pagination) :
    engine.call (.reset request) = (engine, .raised (.pagination .resetInFlight)) := by
  simp [call, reset, inFlight, flies]

theorem land_flight (engine : Engine) (fetched : Outcome PageResponse) :
    (engine.land fetched).1.flight = none := by
  cases flies : engine.flight with
  | none => simp [land, flies]
  | some flight =>
      rcases land_eq flies fetched with ⟨page, _, _, landed⟩ | ⟨failure, landed⟩ <;>
        rw [landed] <;> rfl

end Engine

namespace Traffic

theorem Orderly.exists_flight {traffic : Traffic} (orderly : traffic.Orderly)
    (busy : traffic.outstanding ≠ []) : ∃ flight, traffic.engine.flight = some flight := by
  cases orderly with
  | grounded => exact absurd rfl busy
  | @flying engine outing coherent flies => exact ⟨outing.flight, flies⟩

theorem Orderly.step_navigate {traffic : Traffic} (orderly : traffic.Orderly)
    (busy : traffic.outstanding ≠ []) (start : Start) :
    traffic.engine.call (.navigate start) = (traffic.engine, .nothing) ∧
      traffic.step (.call (.navigate start)) = traffic := by
  obtain ⟨flight, flies⟩ := orderly.exists_flight busy
  have rejected := Engine.call_navigate_of_flight flies start
  refine ⟨rejected, ?_⟩
  simp [step, afterCall, rejected, outing?]

theorem Orderly.step_reset {traffic : Traffic} (orderly : traffic.Orderly)
    (busy : traffic.outstanding ≠ []) (request : Pagination) :
    traffic.engine.call (.reset request) =
        (traffic.engine, .raised (.pagination .resetInFlight)) ∧
      traffic.step (.call (.reset request)) = traffic := by
  obtain ⟨flight, flies⟩ := orderly.exists_flight busy
  have rejected := Engine.call_reset_of_flight flies request
  refine ⟨rejected, ?_⟩
  simp [step, afterCall, rejected, outing?]

theorem Orderly.step_finish {traffic : Traffic} (orderly : traffic.Orderly) {place : Nat}
    (outstanding : place < traffic.outstanding.length) (fetched : Fetched) :
    (traffic.step (.finish place fetched)).engine.state = .idle ∧
      (traffic.step (.finish place fetched)).outstanding = [] := by
  have present := List.getElem?_eq_getElem outstanding
  obtain ⟨_, _, _, stepped, _⟩ := orderly.finish_eq present fetched
  rw [stepped, Engine.state_eq_idle_iff]
  exact ⟨Engine.land_flight _ _, rfl⟩

theorem Orderly.singleFlight {traffic : Traffic} (orderly : traffic.Orderly) :
    traffic.SingleFlight where
  at_most_one := by cases orderly <;> simp
  idle_iff := by
    rw [Engine.state_eq_idle_iff]
    cases orderly with
    | grounded coherent lands => simp [lands]
    | flying coherent flies => simp [flies]
  named := by
    intro outing member
    cases orderly with
    | grounded => cases member
    | flying coherent flies name =>
        obtain rfl := List.mem_singleton.mp member
        rw [Engine.state_of_flight flies, name]
  navigation_rejected := orderly.step_navigate
  reset_rejected := orderly.step_reset
  ends_idle := fun _ outstanding fetched => orderly.step_finish outstanding fetched

/-- In every run of an engine there is a single flight. -/
theorem singleFlight_run (request : Pagination) (cache : CursorCache)
    (events : List TrafficEvent) : ((opening request cache).run events).SingleFlight :=
  (orderly_run (orderly_opening request cache) events).singleFlight

end Traffic
end CatalogQuery
