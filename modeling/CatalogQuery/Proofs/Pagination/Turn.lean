import CatalogQuery.Pagination.Engine

/-!
# Turning a page

The two ways to turn a page derive a request from the last page, and both start
a fetch only for the request that was derived (`starts_start`).
-/

namespace CatalogQuery

/-- The two ways to turn a page. -/
inductive PageTurn where
  | next
  | previous
deriving DecidableEq, Repr

namespace Engine

theorem requirePage_eq_ok {engine : Engine} {info : PageInfo} :
    engine.requirePage = .ok info ↔ engine.pageInfo = some info := by
  unfold requirePage
  cases engine.pageInfo <;> simp

theorem mode_of_offsetRequest {page pageSize : Int} {zeroBased : Bool} {request : Pagination}
    (made : offsetRequest page pageSize zeroBased = .ok request) :
    request.mode = .offset := by
  unfold offsetRequest at made
  cases checked : Checked.reported OffsetPagination.model
      (OffsetPagination.ofIntegers page pageSize zeroBased) with
  | error failure => simp [checked, Except.map] at made
  | ok offset =>
      simp only [checked, Except.map, Except.ok.injEq] at made
      rw [← made]
      rfl

end Engine

namespace PageTurn

/-- The navigation that a turn is. -/
def navigation : PageTurn → Navigation
  | next => .next
  | previous => .previous

/-- The request that an engine derives for a turn. -/
def request : PageTurn → Engine → Outcome Pagination
  | next => Engine.nextRequest
  | previous => Engine.previousRequest

/-- How an engine starts a turn. -/
def start : PageTurn → Engine → Engine × Departure
  | next => Engine.loadNext
  | previous => Engine.loadPrevious

/-- What starting a turn can come to: nothing, or a fetch of the request that is
derived, by an engine that had none. -/
inductive Starts (turn : PageTurn) (engine : Engine) : Engine × Departure → Prop where
  | stays (departure : Departure) (grounded : ∀ request, departure ≠ .fetching request) :
      Starts turn engine (engine, departure)
  | leaves (origin : Option Text) (request : Pagination) (grounded : engine.flight = none)
      (derived : turn.request engine = .ok request) :
      Starts turn engine (engine.depart turn.navigation origin request)

/-- A request is derived from the last page, in its mode. -/
theorem mode_of_request {turn : PageTurn} {engine : Engine} {request : Pagination}
    (derived : turn.request engine = .ok request) :
    ∃ info, engine.pageInfo = some info ∧ info.mode = request.mode := by
  cases turn with
  | next =>
      obtain ⟨info, seen, derived⟩ := Outcome.bind_eq_ok.mp derived
      refine ⟨info, Engine.requirePage_eq_ok.mp seen, ?_⟩
      cases info with
      | offset info =>
          simp only at derived
          split at derived
          · rw [Engine.mode_of_offsetRequest derived]
            rfl
          · cases derived
      | cursor info =>
          simp only at derived
          split at derived
          · cases derived
          · cases derived
            rfl
  | previous =>
      obtain ⟨info, seen, derived⟩ := Outcome.bind_eq_ok.mp derived
      refine ⟨info, Engine.requirePage_eq_ok.mp seen, ?_⟩
      cases info with
      | offset info =>
          rw [Engine.mode_of_offsetRequest derived]
          rfl
      | cursor info =>
          simp only at derived
          split at derived
          · cases derived
          · cases derived
            rfl

theorem isSome_of_request {turn : PageTurn} {engine : Engine} {request : Pagination}
    (derived : turn.request engine = .ok request) : engine.pageInfo.isSome = true := by
  obtain ⟨info, seen, _⟩ := mode_of_request derived
  rw [seen]
  rfl

theorem starts_departWith (turn : PageTurn) {engine : Engine} (grounded : engine.flight = none)
    (origin : Option Text) :
    turn.Starts engine (engine.departWith turn.navigation origin (turn.request engine)) := by
  cases derived : turn.request engine with
  | error failure => exact .stays (.failed failure) (by simp)
  | ok request => exact .leaves origin request grounded derived

/-- Everything that starting a turn can do. -/
theorem starts_start (turn : PageTurn) (engine : Engine) :
    turn.Starts engine (turn.start engine) := by
  cases turn with
  | next =>
      simp only [start, Engine.loadNext]
      split
      · exact .stays .none (by simp)
      · rename_i free
        have grounded : engine.flight = none := by
          simpa [Engine.inFlight] using (not_or.mp free).1
        exact next.starts_departWith grounded _
  | previous =>
      simp only [start, Engine.loadPrevious]
      split
      · exact .stays .none (by simp)
      · rename_i free
        have grounded : engine.flight = none := by simpa [Engine.inFlight] using free
        split
        · exact .stays .none (by simp)
        · split
          · exact previous.starts_departWith grounded _
          · exact .stays .none (by simp)
        · exact previous.starts_departWith grounded _

end PageTurn
end CatalogQuery
