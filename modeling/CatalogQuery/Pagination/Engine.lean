import CatalogQuery.Pagination.CursorCache

/-!
# The pagination engine

The engine pages through one list in either mode.  It keeps the last request,
the description of the last page, the history of cursors, and the navigation
in flight, if there is one.  A navigation is started, which may ask for a page
to be fetched, and landed when the fetch has ended; only one is in flight at a
time, and a navigation that fails leaves the request as it was.
-/

namespace CatalogQuery

/-- The kinds of navigation. -/
inductive Navigation where
  | next
  | previous
  | refetch
deriving DecidableEq, Repr

/-- A navigation whose fetch has not ended. -/
structure Flight where
  navigation : Navigation
  /-- The request to return to if the fetch fails. -/
  restore : Pagination
  /-- The cursor of the page that a step forward left. -/
  origin : Option Text
deriving DecidableEq

/-- What navigation a request is being made for, if any. -/
inductive EngineState where
  | idle
  | loading (navigation : Navigation)
deriving DecidableEq, Repr

/-- The name of a state. -/
def EngineState.name : EngineState → String
  | idle => "idle"
  | loading .next => "loading_next"
  | loading .previous => "loading_previous"
  | loading .refetch => "refetching"

/-- A pagination engine. -/
structure Engine where
  /-- The request of the last page, or of the page in flight. -/
  request : Pagination
  pageInfo : Option PageInfo
  cache : CursorCache
  flight : Option Flight
deriving DecidableEq

/-- What a navigation that was started comes to. -/
inductive Departure where
  /-- There is nothing to do. -/
  | none
  /-- The navigation cannot be made. -/
  | failed (failure : Failure)
  /-- A page is to be fetched. -/
  | fetching (request : Pagination)

/-- What a pager shows. -/
structure PagerStatus where
  hasNext : Bool
  hasPrevious : Bool
  isLoadingNext : Bool
  isLoadingPrevious : Bool
deriving DecidableEq, Repr

namespace Engine

/-- An engine that has not fetched anything. -/
def start (request : Pagination) (cache : CursorCache) : Engine :=
  ⟨request, none, cache, none⟩

/-- The state of an engine. -/
def state (engine : Engine) : EngineState :=
  match engine.flight with
  | none => .idle
  | some flight => .loading flight.navigation

/-- Whether a navigation is in flight. -/
def inFlight (engine : Engine) : Bool := engine.flight.isSome

/-- Whether there are pages around the last page; around no page there are
none. -/
def availability (engine : Engine) : Availability :=
  match engine.pageInfo with
  | none => ⟨false, false⟩
  | some info => info.availability engine.cache

/-- What a pager shows. -/
def status (engine : Engine) : PagerStatus :=
  { hasNext := engine.availability.hasNext
    hasPrevious := engine.availability.hasPrevious
    isLoadingNext := engine.state == .loading .next
    isLoadingPrevious := engine.state == .loading .previous }

/-- The history after a page was seen: the cursor after the page's own is
recorded. -/
def rememberNext (info : PageInfo) (cache : CursorCache) : CursorCache :=
  match info with
  | .cursor ⟨current, some next⟩ => cache.recordNext current next
  | _ => cache

/-- Take note of the description of a page, which must be in the mode of the
request. -/
def observe (info : PageInfo) (engine : Engine) : Outcome Engine :=
  if info.mode = engine.request.mode then
    .ok { engine with pageInfo := some info, cache := rememberNext info engine.cache }
  else .error (.pagination (.tagMismatch engine.request.mode info.mode))

/-- The last page, which must have been seen. -/
def requirePage (engine : Engine) : Outcome PageInfo :=
  match engine.pageInfo with
  | none => .error (.pagination .nothingObserved)
  | some info => .ok info

/-- A request by page number, made from a page description. -/
def offsetRequest (page pageSize : Int) (zeroBased : Bool) : Outcome Pagination :=
  (Checked.reported OffsetPagination.model
    (OffsetPagination.ofIntegers page pageSize zeroBased)).map .offset

/-- The request for the page after the last page. -/
def nextRequest (engine : Engine) : Outcome Pagination := do
  match ← engine.requirePage with
  | .offset info =>
      if engine.availability.hasNext then
        offsetRequest (info.currentPage + 1) info.pageSize info.zeroBased
      else .error (.pagination .noNextPage)
  | .cursor info =>
      match info.nextCursor with
      | none => .error (.pagination .noNextPage)
      | some next => .ok (.cursor ⟨some next, engine.request.limit?⟩)

/-- The request for the page before the last page.  A page number does not go
below the first one. -/
def previousRequest (engine : Engine) : Outcome Pagination := do
  match ← engine.requirePage with
  | .offset info =>
      offsetRequest (max (if info.zeroBased then 0 else 1) (info.currentPage - 1))
        info.pageSize info.zeroBased
  | .cursor info =>
      match engine.cache.previous? info.currentCursor with
      | none => .error (.pagination (.noPreviousCursor info.currentCursor))
      | some previous => .ok (.cursor ⟨some previous, engine.request.limit?⟩)

/-- Put a navigation in flight. -/
def depart (navigation : Navigation) (origin : Option Text) (request : Pagination)
    (engine : Engine) : Engine × Departure :=
  ({ engine with request, flight := some ⟨navigation, engine.request, origin⟩ },
    .fetching request)

/-- Put a navigation in flight whose request has yet to be found. -/
def departWith (navigation : Navigation) (origin : Option Text)
    (request : Outcome Pagination) (engine : Engine) : Engine × Departure :=
  match request with
  | .ok request => engine.depart navigation origin request
  | .error failure => (engine, .failed failure)

/-- The engine that starts over with a request. -/
def restart (request : Pagination) (engine : Engine) : Engine :=
  { engine with request, pageInfo := none, cache := engine.cache.clear }

/-- Start fetching the given request, or the last one again.  A request of the
other mode starts a new history. -/
def refetch (request : Option Pagination) (engine : Engine) : Engine × Departure :=
  if engine.inFlight then (engine, .none)
  else
    let target := request.getD engine.request
    let engine := if target.mode = engine.request.mode then engine else engine.restart target
    engine.depart .refetch none target

/-- The cursor of the last page. -/
def currentCursor? (engine : Engine) : Option Text :=
  match engine.pageInfo with
  | some (.cursor info) => some info.currentCursor
  | _ => none

/-- Start fetching the next page, if there is one. -/
def loadNext (engine : Engine) : Engine × Departure :=
  if engine.inFlight ∨ !engine.availability.hasNext then (engine, .none)
  else engine.departWith .next engine.currentCursor? engine.nextRequest

/-- Start fetching the previous page.  On the first page that has a number, and
before any page was seen, there is nothing to do. -/
def loadPrevious (engine : Engine) : Engine × Departure :=
  if engine.inFlight then (engine, .none)
  else
    match engine.pageInfo with
    | none => (engine, .none)
    | some (.offset _) =>
        if engine.availability.hasPrevious then
          engine.departWith .previous none engine.previousRequest
        else (engine, .none)
    | some (.cursor _) => engine.departWith .previous none engine.previousRequest

/-- Forget the last page and the history. -/
def reset (request : Pagination) (engine : Engine) : Outcome Engine :=
  if engine.inFlight then .error (.pagination .resetInFlight)
  else .ok (engine.restart request)

/-- The history after a page was reached: a step forward from another page is
recorded. -/
def rememberOrigin (origin : Option Text) (info : PageInfo) (cache : CursorCache) :
    CursorCache :=
  match origin, info with
  | some left, .cursor info =>
      if info.currentCursor = left then cache else cache.recordPrevious info.currentCursor left
  | _, _ => cache

/-- Take note of the page that a navigation arrived at. -/
def arrive (flight : Flight) (page : PageResponse) (engine : Engine) : Outcome Engine := do
  let engine ← engine.observe page.pageInfo
  .ok { engine with cache := rememberOrigin flight.origin page.pageInfo engine.cache }

/-- End the navigation in flight with what its fetch came to.  If the fetch
failed, or its page is in the other mode, the request is the one from before
the navigation. -/
def land (fetched : Outcome PageResponse) (engine : Engine) : Engine × Outcome PageResponse :=
  match engine.flight with
  | none => (engine, .error .cancelled)
  | some flight =>
      match fetched with
      | .error failure =>
          ({ engine with request := flight.restore, flight := none }, .error failure)
      | .ok page =>
          match engine.arrive flight page with
          | .ok engine => ({ engine with flight := none }, .ok page)
          | .error failure =>
              ({ engine with request := flight.restore, flight := none }, .error failure)

end Engine
end CatalogQuery
