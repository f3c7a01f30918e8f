import CatalogQuery.Store.Address

/-!
# Filter stores

A store belongs to one list view.  Every change replaces the whole state and
then calls the listeners in the order of their subscription; an operation that
fails before that changes nothing.  A listener may act on the store while it is
told, so the list of listeners is fixed before the first one is called.
-/

namespace CatalogQuery

/-- What a listener does after it has been told of a change. -/
inductive ListenerAction where
  /-- Nothing. -/
  | record
  /-- Cancel its own subscription. -/
  | once
  /-- Cancel the subscription of another listener. -/
  | drop (id : String)
  /-- Fail. -/
  | raise
  /-- Set the filter `nested` to its own name, unless there is one. -/
  | nest
deriving DecidableEq, Repr

/-- A listener. -/
structure Listener where
  id : String
  action : ListenerAction
deriving DecidableEq, Repr

/-- A call of a listener, with the states after and before the change. -/
structure Notice where
  listener : String
  new : StoreState
  old : StoreState

/-- A filter store. -/
structure Store where
  state : StoreState
  /-- The subscribed listeners, the one subscribed first at the front. -/
  listeners : List Listener
  /-- Every listener that was ever subscribed. -/
  known : List Listener
  /-- The calls that were made, the latest at the end. -/
  notices : List Notice

/-- What a store is opened with. -/
structure StoreSetup where
  entity : String
  mode : Value
  /-- The page size; an empty one stands for the size of the settings. -/
  pageSize : Value
  url : Fields Value
  body : Option (List FilterGroup)

namespace Store

/-- The first page of a given size. -/
def openingPage (pageSize : Value) : Outcome Pagination :=
  (Checked.reported OffsetPagination.model <|
    OffsetPagination.check [("page", .int 1), ("page_size", pageSize)]).map .offset

/-- The part of a new store that is compiled. -/
def openingBody (setup : StoreSetup) (pagination : Pagination) : Outcome BodyState :=
  Checked.reported BodyState.model <|
    (Checked.inField "for_entity" (Checked.word Entity.named (.text setup.entity))).map
      fun entity => ⟨entity, setup.body, none, pagination, none⟩

/-- The mode of a new or changed store. -/
def checkMode (mode : Value) : Outcome StoreMode :=
  Checked.reported "FilterStoreState" <|
    Checked.inField "mode" (Checked.word StoreMode.worded mode)

/-- The page size of a new store; that of the settings is asked for only if none
is given. -/
def openingSize (defaultPageSize : Outcome Int) (setup : StoreSetup) : Outcome Value :=
  if setup.pageSize.isEmpty then defaultPageSize.map Value.int else .ok setup.pageSize

/-- A new store. -/
def create (defaultPageSize : Outcome Int) (setup : StoreSetup) : Outcome Store := do
  let pageSize ← openingSize defaultPageSize setup
  let pagination ← openingPage pageSize
  let body ← openingBody setup pagination
  let mode ← checkMode setup.mode
  .ok ⟨⟨mode, ⟨Fields.ofPairs setup.url, none, pagination⟩, body⟩, [], [], []⟩

/-- Cancel the subscription of a listener; of several with the name the first
one goes. -/
def removeListener (id : String) (store : Store) : Store :=
  { store with listeners := store.listeners.eraseP (·.id == id) }

/-- Whether a listener was ever subscribed. -/
def isKnown (id : String) (store : Store) : Bool := store.known.any (·.id == id)

/-- Subscribe a listener.  A name that was subscribed before stands for the same
listener again. -/
def subscribe (listener : Listener) (store : Store) : Store :=
  let listener := (store.known.find? (·.id == listener.id)).getD listener
  { store with
    listeners := store.listeners ++ [listener]
    known := if store.isKnown listener.id then store.known else store.known ++ [listener] }

/-- Cancel a subscription of a listener that was subscribed at some time. -/
def unsubscribe (id : String) (store : Store) : Store × Outcome Unit :=
  if store.isKnown id then (store.removeListener id, .ok ()) else (store, .error .noSuchKey)

/-- The state with a filter set. -/
def withUrlFilter (name : Text) (value : Value) (state : StoreState) : StoreState :=
  { state with url := { state.url with filters := Fields.set name value state.url.filters } }

/-- What a listener does to the store; `replace` is how it changes the state. -/
def act (replace : StoreState → Store → Store × Outcome Unit) (listener : Listener)
    (store : Store) : Store × Outcome Unit :=
  match listener.action with
  | .record => (store, .ok ())
  | .once => (store.removeListener listener.id, .ok ())
  | .drop id => store.unsubscribe id
  | .raise => (store, .error .listenerFailed)
  | .nest =>
      if Fields.has "nested" store.state.url.filters then (store, .ok ())
      else replace (withUrlFilter "nested" (.text listener.id) store.state) store

/-- Call listeners one after the other, up to the first that fails. -/
def notify (replace : StoreState → Store → Store × Outcome Unit) (old : StoreState) :
    List Listener → Store → Store × Outcome Unit
  | [], store => (store, .ok ())
  | listener :: rest, store =>
      let store :=
        { store with notices := store.notices ++ [⟨listener.id, store.state, old⟩] }
      match act replace listener store with
      | (store, .ok ()) => notify replace old rest store
      | (store, .error failure) => (store, .error failure)

/-- Replace the state and call the listeners, which may change the state in
turn as often as `depth` says. -/
def replaceWithin : Nat → StoreState → Store → Store × Outcome Unit
  | 0, state, store =>
      notify (fun _ store => (store, .ok ())) store.state store.listeners { store with state }
  | depth + 1, state, store =>
      notify (replaceWithin depth) store.state store.listeners { store with state }

/-- Replace the state and call the listeners.  A listener that changes the state
leaves a filter behind that keeps all others from doing so again, so changes
are nested at most once. -/
def replace (state : StoreState) (store : Store) : Store × Outcome Unit :=
  replaceWithin 1 state store

/-- Replace the state with one that may not exist. -/
def replaceWith (state : Outcome StoreState) (store : Store) : Store × Outcome Unit :=
  match state with
  | .ok state => store.replace state
  | .error failure => (store, .error failure)

/-- Change the mode. -/
def setMode (mode : Value) (store : Store) : Store × Outcome Unit :=
  store.replaceWith do .ok { store.state with mode := ← checkMode mode }

/-- Merge data into the flat part. -/
def patchUrl (data : Fields Value) (store : Store) : Store × Outcome Unit :=
  store.replaceWith do
    let url ← Checked.reported "UrlFilterState" (store.state.url.patch data)
    .ok { store.state with url }

/-- Merge data into the compiled part. -/
def patchBody (data : Fields Value) (store : Store) : Store × Outcome Unit :=
  store.replaceWith do
    let body ← Checked.reported BodyState.model (store.state.body.patch data)
    .ok { store.state with body }

/-- Merge data into the compiled part, with filter groups that are already
read. -/
def patchBodyWith (groups : Option (List FilterGroup)) (data : Fields Value) (store : Store) :
    Store × Outcome Unit :=
  store.replaceWith do
    let body ← Checked.reported BodyState.model <|
      store.state.body.patch (Fields.erase "filters" data)
    .ok { store.state with body := { body with filters := groups } }

/-- Replace the filter groups and the ordering of the compiled part. -/
def setBodyQuery (groups : Option (List FilterGroup)) (ordering : Option (List QueryOrder))
    (store : Store) : Store × Outcome Unit :=
  store.replace { store.state with body := { store.state.body with filters := groups, ordering } }

/-- Set a flat filter. -/
def setUrlFilter (name : Text) (value : Value) (store : Store) : Store × Outcome Unit :=
  match reservedParam? name with
  | some name => (store, .error (.reservedFilter name))
  | none => store.replace (withUrlFilter name value store.state)

/-- Remove a flat filter; if there is none nothing happens. -/
def removeUrlFilter (name : Text) (store : Store) : Store × Outcome Unit :=
  if Fields.has name store.state.url.filters then
    store.replace
      { store.state with
        url := { store.state.url with filters := Fields.erase name store.state.url.filters } }
  else (store, .ok ())

/-- Replace the pagination of the part that the mode selects. -/
def setPagination (pagination : Pagination) (store : Store) : Store × Outcome Unit :=
  store.replace (store.state.withPagination pagination)

/-- The page that is requested by its number. -/
def offsetPage (state : StoreState) : Outcome OffsetPagination :=
  match state.pagination with
  | .offset request => .ok request
  | .cursor _ => .error (.pagination (.wrongMode .cursor))

/-- The state with other parts of a page that is requested by its number. -/
def withOffset (page pageSize : OffsetPagination → Value) (state : StoreState) :
    Outcome StoreState := do
  let current ← offsetPage state
  let request ← Checked.reported OffsetPagination.model <|
    OffsetPagination.check
      [("page", page current), ("page_size", pageSize current),
        ("zero_based", .bool current.zeroBased)]
  .ok (state.withPagination (.offset request))

/-- Go to a page by its number. -/
def setPage (page : Value) (store : Store) : Store × Outcome Unit :=
  store.replaceWith <|
    withOffset (fun _ => page) (fun current => .int current.pageSize.val) store.state

/-- Change the page size. -/
def setPageSize (pageSize : Value) (store : Store) : Store × Outcome Unit :=
  store.replaceWith <|
    withOffset (fun current => .int current.page) (fun _ => pageSize) store.state

/-- Replace the flat part by what query parameters describe. -/
def applyQuery (params : QueryParams) (store : Store) : Store × Outcome Unit :=
  store.replaceWith do .ok { store.state with url := ← store.state.url.ofQuery params }

/-- The flat part as one list of parameters, for a page other than the stored
one if one is given. -/
def urlParams (pagination : Option Pagination) (store : Store) : Fields Value :=
  store.state.url.params (pagination.getD store.state.url.pagination)

/-- The flat part as query parameters, for a page other than the stored one if
one is given. -/
def queryParams (pagination : Option Pagination) (store : Store) : QueryParams :=
  store.state.url.toQuery (pagination.getD store.state.url.pagination)

/-- The compiled search body under a guard, or under the entity's own. -/
def compile (guard : Option OrderGuard) (store : Store) : SearchBody.Compiled :=
  let body := store.state.body
  SearchBody.compile body.entity (guard.getD body.entity.orderGuard) body.query

end Store
end CatalogQuery
