import CatalogQuery.Proofs.Pagination.Turn
import CatalogQuery.Proofs.Store.Writing
import CatalogQuery.Session

/-!
# The journal of an open session

A session is driven by calls that load pages, by the arrivals of what they asked
for, and by what its store is told in between.  The journal is the session
together with the loads that have not arrived and the last refresh that was not
rejected.  Nothing in these definitions keeps two loads from being under way at
once, nor a load from arriving after a later one.
-/

namespace CatalogQuery

/-- The calls of a session that load a page. -/
inductive SessionCall where
  | refresh
  | turn (turn : PageTurn)
deriving DecidableEq, Repr

/-- How a session turns a page. -/
def PageTurn.begin : PageTurn → Session → Started
  | next => Session.loadNext
  | previous => Session.loadPrevious

namespace Progress

/-- Whether a call was rejected: it gave nothing back, at once. -/
def isRejection : Progress → Bool
  | ended (.ok none) => true
  | _ => false

/-- The request that is sent. -/
def request? : Progress → Option Request
  | sending _ request => some request
  | ended _ => none

/-- The voyage that is under way. -/
def voyage? : Progress → Option Voyage
  | sending voyage _ => some voyage
  | ended _ => none

/-- What the call came to, if it has ended. -/
def answer? : Progress → Option (Outcome (Option PageResponse))
  | ended answer => some answer
  | sending _ _ => none

end Progress

/-- A refresh that was not rejected. -/
structure Refresh where
  /-- The number of refreshes before it. -/
  number : Nat
  /-- The store that the body was compiled from. -/
  source : Option Store
  request : Option Request
  /-- What the refresh came to, once it has ended. -/
  answer : Option (Outcome (Option PageResponse))

/-- A load that is under way. -/
structure Trip where
  voyage : Voyage
  /-- The number of the refresh, if it is one. -/
  refresh : Option Nat

/-- A session with what has happened to it. -/
structure Journal where
  session : Session
  /-- The loads that have not arrived, the one begun first at the front. -/
  trips : List Trip
  /-- The number of refreshes that were not rejected. -/
  refreshes : Nat
  /-- The last of them. -/
  latest : Option Refresh

/-- What happens to an open session. -/
inductive SessionEvent where
  | begin (call : SessionCall)
  /-- What the load at a place asked for arrives. -/
  | arrive (place : Nat) (arrival : Arrival)
  /-- What a former opening of the session asked for arrives. -/
  | stray (voyage : Voyage) (arrival : Arrival)
  | write (made : StoreWrite)
  | subscribe (listener : Listener)
  | unsubscribe (id : String)

/-- The refresh after a load has ended, which may have been its own. -/
def Refresh.afterEnd (ended : Option Nat) (answer : Outcome (Option PageResponse))
    (refresh : Refresh) : Refresh :=
  if ended = some refresh.number then { refresh with answer := some answer } else refresh

namespace Journal

/-- The journal of a session that was just opened. -/
def opening (session : Session) : Journal := ⟨session, [], 0, none⟩

/-- The journal after a call that turns a page. -/
def afterTurn (turn : PageTurn) (journal : Journal) : Journal :=
  let started := turn.begin journal.session
  { journal with
    session := started.session
    trips := journal.trips ++ (started.progress.voyage?.map (⟨·, none⟩)).toList }

/-- The journal after a refresh. -/
def afterRefresh (journal : Journal) : Journal :=
  let started := journal.session.refresh
  if started.progress.isRejection then { journal with session := started.session }
  else
    { session := started.session
      trips :=
        journal.trips ++ (started.progress.voyage?.map (⟨·, some journal.refreshes⟩)).toList
      refreshes := journal.refreshes + 1
      latest :=
        some
          { number := journal.refreshes
            source := started.session.view.map (·.store)
            request := started.progress.request?
            answer := started.progress.answer? } }

/-- The journal after an arrival. -/
def afterArrival (place : Nat) (arrival : Arrival) (journal : Journal) : Journal :=
  match journal.trips[place]? with
  | none => journal
  | some trip =>
      let (session, answer) := journal.session.arrive trip.voyage arrival
      { journal with
        session
        trips := journal.trips.eraseIdx place
        latest := journal.latest.map (·.afterEnd trip.refresh answer) }

/-- The journal after a change of the store. -/
def afterChange (change : Store → Store × Outcome Unit) (journal : Journal) : Journal :=
  { journal with session := (journal.session.updateStore change).1 }

/-- The journal after an event. -/
def step (journal : Journal) : SessionEvent → Journal
  | .begin (.turn turn) => journal.afterTurn turn
  | .begin .refresh => journal.afterRefresh
  | .arrive place arrival => journal.afterArrival place arrival
  | .stray voyage arrival =>
      { journal with session := (journal.session.arrive voyage arrival).1 }
  | .write made => journal.afterChange made.apply
  | .subscribe listener => journal.afterChange fun store => (store.subscribe listener, .ok ())
  | .unsubscribe id => journal.afterChange (Store.unsubscribe id)

end Journal

/-- A session whose store has quiet listeners. -/
def Session.Quiet (session : Session) : Prop := ∀ view ∈ session.view, view.store.Quiet

instance (session : Session) : Decidable session.Quiet :=
  inferInstanceAs (Decidable (∀ view ∈ session.view, view.store.Quiet))

/-- Whether an event can happen to a session whose mode is left alone: the
listeners are quiet whenever they may be told something, and an arrival for a
former opening is one. -/
def SessionEvent.Permitted (session : Session) : SessionEvent → Prop
  | begin _ => session.Quiet
  | arrive _ _ => session.Quiet
  | stray voyage _ =>
      session.Quiet ∧ ∀ view ∈ session.view, voyage.generation ≠ view.generation
  | write made => session.Quiet ∧ made.keepsMode = true
  | subscribe _ => True
  | unsubscribe _ => True

instance (session : Session) (event : SessionEvent) : Decidable (event.Permitted session) :=
  match event with
  | .begin _ => inferInstanceAs (Decidable session.Quiet)
  | .arrive _ _ => inferInstanceAs (Decidable session.Quiet)
  | .stray voyage _ =>
      inferInstanceAs
        (Decidable (session.Quiet ∧ ∀ view ∈ session.view, voyage.generation ≠ view.generation))
  | .write made => inferInstanceAs (Decidable (session.Quiet ∧ made.keepsMode = true))
  | .subscribe _ => inferInstanceAs (Decidable True)
  | .unsubscribe _ => inferInstanceAs (Decidable True)

/-- The journals that a session can come to after it was opened. -/
inductive Journal.Reached (opened : Session) : Journal → Prop where
  | opening : Reached opened (.opening opened)
  | step {journal : Journal} (reached : Reached opened journal) {event : SessionEvent}
      (permitted : event.Permitted journal.session) : Reached opened (journal.step event)

end CatalogQuery
