import CatalogQuery.Http.Request
import CatalogQuery.Http.Response
import CatalogQuery.Pagination.Engine
import CatalogQuery.Settings
import CatalogQuery.Store

/-!
# List view sessions

A session belongs to one list view.  Opening it makes a new store and a new
engine, closing it drops both.  A refresh compiles the search body and loads
the first page; going to the next or the previous page keeps the compiled body
and writes the page that was loaded back into the store.  A navigation that is
started asks for a request to be sent, and arrives when its response does, even
if the session was closed or opened anew in between.
-/

namespace CatalogQuery

/-- What a session is made for. -/
structure SessionSetup where
  entity : String
  mode : Value
  /-- The page that the view opens at. -/
  pagination : Option Pagination
  body : Option (List FilterGroup)
  url : Fields Value
  token : Text
  /-- The address that the paths of requests are put after. -/
  base : Url

/-- What an open session holds. -/
structure View where
  /-- The number of times that the session had been opened before. -/
  generation : Nat
  entity : Entity
  store : Store
  /-- The engine; there is none if its history could not be made. -/
  engine : Option Engine

/-- A session. -/
structure Session where
  setup : SessionSetup
  cacheBound : Option Int
  defaultPageSize : Outcome Int
  view : Option View
  /-- The body that the last refresh compiled. -/
  body : Option SearchBody
  lastError : Option ApiError
  /-- The number of times that the session was opened. -/
  openings : Nat
  /-- The engines of former openings whose fetch has not ended. -/
  abandoned : List (Nat × Engine)

/-- A navigation of a session whose response has not arrived. -/
structure Voyage where
  generation : Nat
  /-- Whether the page that is loaded is written back into the store. -/
  commits : Bool
deriving DecidableEq, Repr

/-- What a navigation comes to when it is started. -/
inductive Progress where
  /-- It has ended. -/
  | ended (answer : Outcome (Option PageResponse))
  /-- A request is to be sent. -/
  | sending (voyage : Voyage) (request : Request)

/-- What came of a request. -/
inductive Arrival where
  | answered (response : Response)
  | failed (failure : Failure)

/-- A session after the start of a navigation. -/
structure Started where
  session : Session
  /-- The orders that were dropped when a body was compiled. -/
  dropped : List QueryOrder
  progress : Progress

namespace Arrival

/-- The page that arrived from a server.  A response from an address without a
scheme is not read. -/
def page (base : Url) : Arrival → Outcome PageResponse
  | failed failure => .error failure
  | answered response =>
      if !base.startsWithName then .error .schemelessUrl
      else if response.isSuccess then do PageResponse.ofValue (← response.document)
      else .error (.status response.status)

/-- The error that is shown when a navigation failed, if it is one that is
shown. -/
def shownError (entity : String) (arrival : Arrival) (failure : Failure) :
    Outcome (Option ApiError) :=
  match failure, arrival with
  | .status _, answered response => (ApiError.ofResponse entity response).map some
  | .network network, _ => .ok (some (ApiError.ofNetwork network))
  | _, _ => .ok none

end Arrival

namespace Session

/-- A closed session.  The bound of the history is taken from the settings if
none is given. -/
def create (settings : Outcome Settings) (setup : SessionSetup) (cacheBound : Option Int) :
    Outcome Session := do
  let cacheBound ← match cacheBound with
    | some bound => .ok (some bound)
    | none => settings.map (·.cursorCacheMaxEntries)
  .ok ⟨setup, cacheBound, settings.map (·.defaultPageSize), none, none, none, 0, []⟩

/-- Whether a session is open. -/
def isOpen (session : Session) : Bool := session.view.isSome

/-- The engines of former openings, with that of a view if it is loading. -/
def withAbandoned (view : Option View) (abandoned : List (Nat × Engine)) :
    List (Nat × Engine) :=
  match view with
  | some ⟨generation, _, _, some engine⟩ =>
      if engine.inFlight then abandoned ++ [(generation, engine)] else abandoned
  | _ => abandoned

/-- The store that a session is opened with, at the page of the setup. -/
def openingStore (session : Session) : Outcome Store := do
  let store ← Store.create session.defaultPageSize
    ⟨session.setup.entity, session.setup.mode, .null, session.setup.url, session.setup.body⟩
  match session.setup.pagination with
  | none => .ok store
  | some pagination => .ok { store with state := store.state.withPagination pagination }

/-- Open a session.  If the bound of the history is not valid the session has a
store but no engine. -/
def openView (session : Session) : Session × Outcome Unit :=
  match session.openingStore with
  | .error failure => (session, .error failure)
  | .ok store =>
      let view (engine : Option Engine) : Session :=
        { session with
          view := some ⟨session.openings, store.state.body.entity, store, engine⟩
          openings := session.openings + 1
          abandoned := withAbandoned session.view session.abandoned }
      match CursorCache.withBound session.cacheBound with
      | .ok cache => (view (some (Engine.start store.state.pagination cache)), .ok ())
      | .error failure => (view none, .error failure)

/-- Close a session; the history is dropped. -/
def close (session : Session) : Session :=
  let dropped := session.view.map fun view =>
    { view with
      engine := view.engine.map fun engine => { engine with cache := engine.cache.clear } }
  { session with
    view := none
    body := none
    abandoned := withAbandoned dropped session.abandoned }

/-- The open view. -/
def requireView (session : Session) : Outcome View :=
  match session.view with
  | some view => .ok view
  | none => .error .sessionClosed

/-- The engine of the open view. -/
def requireEngine (session : Session) : Outcome Engine := do
  match (← session.requireView).engine with
  | some engine => .ok engine
  | none => .error .sessionClosed

/-- What the pager of the view shows. -/
def status (session : Session) : Outcome PagerStatus := do .ok (← session.requireEngine).status

/-- The session with another store. -/
def withStore (store : Store) (session : Session) : Session :=
  { session with view := session.view.map ({ · with store }) }

/-- The session with another engine. -/
def withEngine (engine : Engine) (session : Session) : Session :=
  { session with view := session.view.map ({ · with engine := some engine }) }

/-- Change the store of the open view. -/
def updateStore (change : Store → Store × Outcome Unit) (session : Session) :
    Session × Outcome Unit :=
  match session.requireView with
  | .error failure => (session, .error failure)
  | .ok view =>
      let (store, outcome) := change view.store
      (session.withStore store, outcome)

/-- The engine that a voyage belongs to. -/
def engineOf? (voyage : Voyage) (session : Session) : Option Engine :=
  match session.view with
  | some ⟨generation, _, _, some engine⟩ =>
      if generation = voyage.generation then some engine
      else (session.abandoned.find? (·.1 == voyage.generation)).map (·.2)
  | _ => (session.abandoned.find? (·.1 == voyage.generation)).map (·.2)

/-- The session after the engine of a voyage has landed. -/
def withLanded (voyage : Voyage) (engine : Engine) (session : Session) : Session :=
  match session.view with
  | some view =>
      if view.generation = voyage.generation then session.withEngine engine
      else { session with abandoned := session.abandoned.filter (·.1 != voyage.generation) }
  | none => { session with abandoned := session.abandoned.filter (·.1 != voyage.generation) }

/-- Write the page of the engine back into the store. -/
def commit (session : Session) : Session × Outcome Unit :=
  match session.requireEngine with
  | .error failure => (session, .error failure)
  | .ok engine => session.updateStore (Store.setPagination engine.request)

/-- End a navigation that loaded a page. -/
def complete (voyage : Voyage) (page : PageResponse) (session : Session) :
    Session × Outcome (Option PageResponse) :=
  let session := { session with lastError := none }
  if voyage.commits then
    match session.commit with
    | (session, .ok ()) => (session, .ok (some page))
    | (session, .error failure) => (session, .error failure)
  else (session, .ok (some page))

/-- End a navigation that failed. -/
def fail (arrival : Arrival) (failure : Failure) (session : Session) :
    Session × Outcome (Option PageResponse) :=
  match arrival.shownError session.setup.entity failure with
  | .ok (some error) => ({ session with lastError := some error }, .error failure)
  | .ok none => (session, .error failure)
  | .error other => (session, .error other)

/-- End a voyage with what came of its request. -/
def arrive (voyage : Voyage) (arrival : Arrival) (session : Session) :
    Session × Outcome (Option PageResponse) :=
  match session.engineOf? voyage with
  | none => (session, .error .cancelled)
  | some engine =>
      let (engine, result) := engine.land (arrival.page session.setup.base)
      let session := session.withLanded voyage engine
      match result with
      | .ok page => session.complete voyage page
      | .error failure => session.fail arrival failure

/-- What is asked for a page, with the body to keep and the orders that were
dropped when it was compiled. -/
def ask (view : View) (pagination : Pagination) (session : Session) :
    Session × List QueryOrder × Ask :=
  match view.store.state.mode with
  | .url => (session, [], .list view.entity (view.store.queryParams (some pagination)))
  | .body =>
      match session.body with
      | some body => (session, [], .search (body.withQuery pagination))
      | none =>
          let compiled := view.store.compile none
          ({ session with body := some compiled.body }, compiled.dropped,
            .search (compiled.body.withQuery pagination))

/-- Start a navigation of the engine. -/
def navigate (commits : Bool) (start : Engine → Engine × Departure) (session : Session) :
    Started :=
  match session.requireView, session.requireEngine with
  | .ok view, .ok engine =>
      match start engine with
      | (_, .none) => ⟨session, [], .ended (.ok none)⟩
      | (_, .failed failure) => ⟨session, [], .ended (.error failure)⟩
      | (engine, .fetching pagination) =>
          let voyage : Voyage := ⟨view.generation, commits⟩
          let (session, dropped, ask) := (session.withEngine engine).ask view pagination
          match Request.ofAsk session.setup.base session.setup.token ask with
          | .ok request => ⟨session, dropped, .sending voyage request⟩
          | .error failure =>
              let (session, answer) := session.arrive voyage (.failed failure)
              ⟨session, dropped, .ended answer⟩
  | .error failure, _ => ⟨session, [], .ended (.error failure)⟩
  | _, .error failure => ⟨session, [], .ended (.error failure)⟩

/-- Start loading the next page. -/
def loadNext (session : Session) : Started := session.navigate true Engine.loadNext

/-- Start loading the previous page. -/
def loadPrevious (session : Session) : Started := session.navigate true Engine.loadPrevious

/-- Compile the body of the store if it drives the requests. -/
def compileBody (view : View) (session : Session) : Session × List QueryOrder :=
  match view.store.state.mode with
  | .url => (session, [])
  | .body =>
      let compiled := view.store.compile none
      ({ session with body := some compiled.body }, compiled.dropped)

/-- Start loading the first page for a view whose store is at that page. -/
def refreshFrom (first : Pagination) (view : View) (engine : Engine) (session : Session) :
    Started :=
  let (session, dropped) := session.compileBody view
  match engine.reset first with
  | .error failure => ⟨session, dropped, .ended (.error failure)⟩
  | .ok engine =>
      let started := (session.withEngine engine).navigate false (Engine.refetch none)
      { started with dropped := dropped ++ started.dropped }

/-- Start loading the first page for what the store says now.  While a page is
loading nothing happens. -/
def refresh (session : Session) : Started :=
  match session.requireView, session.requireEngine with
  | .ok view, .ok engine =>
      if engine.inFlight then ⟨session, [], .ended (.ok none)⟩
      else
        let first := view.store.state.pagination.rewind
        match session.updateStore (Store.setPagination first) with
        | (session, .error failure) => ⟨session, [], .ended (.error failure)⟩
        | (session, .ok ()) =>
            match session.requireView with
            | .ok view => session.refreshFrom first view engine
            | .error failure => ⟨session, [], .ended (.error failure)⟩
  | .error failure, _ => ⟨session, [], .ended (.error failure)⟩
  | _, .error failure => ⟨session, [], .ended (.error failure)⟩

end Session
end CatalogQuery
