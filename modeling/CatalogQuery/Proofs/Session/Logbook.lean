import CatalogQuery.Proofs.Session.Journal
import CatalogQuery.Proofs.Store.Paging

/-!
# The logbook of an open session

The logbook adds to the journal where in the list the session is: the first page
that the last refresh went to, and the page that was loaded last since then.  What
a load asks for is written down when it is begun; when it arrives, the logbook
only looks at whether it brought a page, and neither at the store nor at the
engine.
-/

namespace CatalogQuery

/-- The page that a session opens at: that of its setup, or the first one of the
default size. -/
def Session.openingPage (session : Session) : Outcome Pagination :=
  match session.setup.pagination with
  | some page => .ok page
  | none => do Store.openingPage (.int (← session.defaultPageSize))

namespace SessionCall

/-- How a session begins a call. -/
def begin (session : Session) : SessionCall → Started
  | refresh => session.refresh
  | turn way => way.begin session

/-- The page that a call goes to: a refresh goes to the first page of the list that
the store is in, and any other call to the page that the engine derives. -/
def goal (session : Session) : SessionCall → Outcome Pagination
  | refresh => do .ok (← session.requireView).store.state.pagination.rewind
  | turn way => do way.request (← session.requireEngine)

end SessionCall

/-- A call puts at most what it sends under way. -/
theorem Journal.exists_step_begin (journal : Journal) (call : SessionCall) :
    ∃ refresh : Option Nat,
      (journal.step (.begin call)).session = (call.begin journal.session).session ∧
        (journal.step (.begin call)).trips =
          journal.trips ++
            ((call.begin journal.session).progress.voyage?.map (⟨·, refresh⟩)).toList := by
  cases call with
  | turn turn => exact ⟨none, rfl, rfl⟩
  | refresh =>
      refine ⟨some journal.refreshes, ?_⟩
      simp only [step, afterRefresh, SessionCall.begin]
      cases journal.session.refresh.progress with
      | sending voyage request => exact ⟨rfl, rfl⟩
      | ended answer =>
          split
          · exact ⟨rfl, (List.append_nil _).symm⟩
          · exact ⟨rfl, rfl⟩

/-- Where a session has been since a refresh that was not rejected. -/
structure Stay where
  /-- The page that the refresh went to. -/
  first : Pagination
  /-- The page that was loaded last, if any was. -/
  loaded : Option Pagination
deriving DecidableEq

/-- The place of a session: where it was opened, and after a refresh the page that
was loaded last since then, or the first one if none was. -/
def Stay.place (opening : Pagination) : Option Stay → Pagination
  | none => opening
  | some ⟨first, none⟩ => first
  | some ⟨_, some page⟩ => page

/-- A journal with the place of the session. -/
structure Logbook where
  journal : Journal
  /-- Where the session has been since the last refresh that was not rejected. -/
  stay : Option Stay
  /-- The pages that the loads under way go to, in the order of the trips. -/
  goals : List Pagination

namespace Logbook

/-- The logbook of a session that was just opened. -/
def opening (session : Session) : Logbook := ⟨.opening session, none, []⟩

/-- The logbook after a call. -/
def afterCall (call : SessionCall) (logbook : Logbook) : Logbook :=
  let session := logbook.journal.session
  let goal := (call.goal session).toOption
  let progress := (call.begin session).progress
  { journal := logbook.journal.step (.begin call)
    stay :=
      if call = .refresh ∧ progress.isRejection = false then goal.map (⟨·, none⟩)
      else logbook.stay
    goals := logbook.goals ++ (progress.voyage?.bind fun _ => goal).toList }

/-- The logbook after an arrival. -/
def afterArrival (place : Nat) (arrival : Arrival) (logbook : Logbook) : Logbook :=
  let journal := logbook.journal.step (.arrive place arrival)
  match logbook.journal.trips[place]?, logbook.goals[place]? with
  | some trip, some goal =>
      { journal
        stay :=
          match (logbook.journal.session.arrive trip.voyage arrival).2 with
          | .ok (some _) => logbook.stay.map ({ · with loaded := some goal })
          | _ => logbook.stay
        goals := logbook.goals.eraseIdx place }
  | _, _ => { logbook with journal }

/-- The logbook after an event. -/
def step (logbook : Logbook) : SessionEvent → Logbook
  | .begin call => logbook.afterCall call
  | .arrive place arrival => logbook.afterArrival place arrival
  | event => { logbook with journal := logbook.journal.step event }

end Logbook

/-- Whether an event leaves the pages to the session.  What a former opening asked
for is written back with the page of the present engine, so it does not do so while
a load is under way. -/
def SessionEvent.KeepsPages (journal : Journal) : SessionEvent → Prop
  | write made => made.keepsPages = true
  | stray _ _ => journal.trips.isEmpty = true
  | _ => True

instance (journal : Journal) (event : SessionEvent) : Decidable (event.KeepsPages journal) :=
  match event with
  | .begin _ => inferInstanceAs (Decidable True)
  | .arrive _ _ => inferInstanceAs (Decidable True)
  | .stray _ _ => inferInstanceAs (Decidable (journal.trips.isEmpty = true))
  | .write made => inferInstanceAs (Decidable (made.keepsPages = true))
  | .subscribe _ => inferInstanceAs (Decidable True)
  | .unsubscribe _ => inferInstanceAs (Decidable True)

/-- Whether events can happen one after the other to a session whose mode and pages
are left alone. -/
def Logbook.Allows (logbook : Logbook) : List SessionEvent → Prop
  | [] => True
  | event :: rest =>
      event.Permitted logbook.journal.session ∧ event.KeepsPages logbook.journal ∧
        (logbook.step event).Allows rest

instance Logbook.decidableAllows :
    (logbook : Logbook) → (events : List SessionEvent) → Decidable (logbook.Allows events)
  | _, [] => inferInstanceAs (Decidable True)
  | logbook, event :: rest =>
      have := decidableAllows (logbook.step event) rest
      inferInstanceAs (Decidable (event.Permitted logbook.journal.session ∧
        event.KeepsPages logbook.journal ∧ (logbook.step event).Allows rest))

/-- The logbooks that a session can come to after it was opened, if its mode and its
pages are left alone. -/
inductive Logbook.Reached (opened : Session) : Logbook → Prop where
  | opening : Reached opened (.opening opened)
  | step {logbook : Logbook} (reached : Reached opened logbook) {event : SessionEvent}
      (permitted : event.Permitted logbook.journal.session)
      (keeps : event.KeepsPages logbook.journal) : Reached opened (logbook.step event)

theorem Logbook.Reached.foldl {opened : Session} {logbook : Logbook}
    (reached : Reached opened logbook) {events : List SessionEvent}
    (allows : logbook.Allows events) : Reached opened (events.foldl Logbook.step logbook) := by
  induction events generalizing logbook with
  | nil => exact reached
  | cons event rest ih =>
      obtain ⟨permitted, keeps, allows⟩ := allows
      exact ih (reached.step permitted keeps) allows

end CatalogQuery
