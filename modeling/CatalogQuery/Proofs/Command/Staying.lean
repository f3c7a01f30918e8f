import CatalogQuery.Command.Run
import CatalogQuery.Proofs.Session.Rejection

/-!
# What does not end the command

A command that ends with code zero is one that came to its end.  That it failed instead
would not show if a failure on the way could be an exit itself, so every operation of a run
is one that stays (`Outcome.Stays`): the reading of the filter, the opening of the session,
the making of requests, and the reading of what is answered to them.
-/

namespace CatalogQuery

/-- An operation that does not end the command: whatever it fails with is no exit. -/
def Outcome.Stays {α : Type} (outcome : Outcome α) : Prop :=
  ∀ code, outcome ≠ .error (.exit code)

namespace Outcome

variable {α β : Type}

theorem stays_ok (value : α) : Stays (.ok value) := nofun

/-- What an operation fails with does not depend on what it would have given. -/
theorem Stays.error {failure : Failure} (stays : Stays (.error failure : Outcome α)) :
    Stays (.error failure : Outcome β) := by
  intro code same
  exact stays code (congrArg Except.error (Except.error.inj same))

theorem Stays.bind {first : Outcome α} {rest : α → Outcome β} (starts : Stays first)
    (goes_on : ∀ value, Stays (rest value)) : Stays (first >>= rest) := by
  cases first with
  | ok value => exact goes_on value
  | error failure => exact starts.error

theorem Stays.map {outcome : Outcome α} (stays : Stays outcome) (f : α → β) :
    Stays (outcome.map f) := by
  cases outcome with
  | ok value => exact nofun
  | error failure => exact stays.error

theorem stays_mapM {f : α → Outcome β} (stays : ∀ item, Stays (f item)) (items : List α) :
    Stays (items.mapM f) := by
  induction items with
  | nil => exact nofun
  | cons first rest ih =>
      rw [List.mapM_cons]
      exact (stays first).bind fun _ => ih.bind fun _ => nofun

/-- A check reports issues and nothing else. -/
theorem stays_reported (title : String) (check : Checked α) :
    Stays (Checked.reported title check) := by
  cases check <;> exact nofun

end Outcome

open Outcome

/-! ## Filters -/

namespace FilterGroup

theorem stays_ofFilters (joiner : GroupJoiner) (filters : Value) :
    Stays (ofFilters joiner filters) := by
  unfold ofFilters
  split
  · exact nofun
  · exact stays_reported _ _

theorem stays_ofWire (payload : Value) : Stays (ofWire payload) := by
  have shown (listing : Listing) : Stays (shownKeys listing) := by
    unfold shownKeys
    split <;> exact nofun
  have refused (listing : Listing) :
      Stays (do .error (.groupKeys (← shownKeys listing)) : Outcome FilterGroup) :=
    (shown listing).bind fun _ => nofun
  unfold ofWire
  split
  · exact nofun
  · split
    · split
      · split
        · exact stays_ofFilters _ _
        · exact nofun
      · exact refused _
    · exact refused _

end FilterGroup

theorem SmartFilter.stays_ofWire (payload : Value) : Stays (ofWire payload) := by
  have listed (value : Option Value) : Stays (listedGroups value) := by
    unfold listedGroups
    split
    · exact nofun
    · split
      · exact nofun
      · split <;> exact nofun
  cases payload with
  | object fields =>
      exact (listed _).bind fun _ => (stays_mapM FilterGroup.stays_ofWire _).bind fun _ =>
        (stays_reported _ _).bind fun _ => nofun
  | _ => exact nofun

theorem Run.stays_filterOf (arguments : Arguments) : Stays (filterOf arguments) := by
  unfold filterOf
  split
  · exact nofun
  · split
    · exact nofun
    · split
      · exact (SmartFilter.stays_ofWire _).map _
      · exact nofun

/-! ## Sessions -/

theorem Settings.stays_base (settings : Settings) : Stays settings.base := by
  unfold base
  split
  · exact nofun
  · split <;> exact nofun

theorem Store.stays_create {size : Outcome Int} (sized : Stays size) (setup : StoreSetup) :
    Stays (create size setup) := by
  have chosen : Stays (openingSize size setup) := by
    unfold openingSize
    split
    · exact sized.map _
    · exact stays_ok _
  exact chosen.bind fun _ => ((stays_reported _ _).map _).bind fun _ =>
    (stays_reported _ _).bind fun _ => (stays_reported _ _).bind fun _ => stays_ok _

theorem CursorCache.stays_withBound (bound : Option Int) : Stays (withBound bound) := by
  unfold withBound
  split
  · exact nofun
  · split <;> exact nofun

theorem Session.stays_openView {session : Session} (sized : Stays session.defaultPageSize) :
    Stays session.openView.2 := by
  have stored : Stays session.openingStore := by
    refine (Store.stays_create sized _).bind fun store => ?_
    split <;> exact nofun
  unfold openView
  split
  · next failure made =>
      rw [made] at stored
      exact stored.error
  · have bounded := CursorCache.stays_withBound session.cacheBound
    simp only
    split
    · exact nofun
    · next failure made =>
        rw [made] at bounded
        exact bounded.error

namespace Run

theorem stays_firstPage (settings : Settings) (arguments : Arguments) :
    Stays (firstPage settings arguments) := by
  unfold firstPage
  split
  · exact (stays_reported _ _).map _
  · exact (stays_reported _ _).map _

theorem stays_openSession (settings : Settings) (arguments : Arguments)
    (pagination : Pagination) : Stays (openSession settings arguments pagination) := by
  refine settings.stays_base.bind fun base => ?_
  simp only [Session.create, Except.map, bind, Except.bind]
  exact (Session.stays_openView (stays_ok _)).bind fun _ => stays_ok _

theorem stays_setUp (settings : Settings) (arguments : Arguments) :
    Stays (setUp settings arguments) :=
  (stays_filterOf arguments).bind fun _ => (stays_firstPage settings arguments).bind fun _ =>
    (stays_openSession settings arguments _).bind fun _ => nofun

theorem stays_orderingOf (arguments : Arguments) : Stays (orderingOf arguments) :=
  (stays_reported _ _).map _

end Run

/-! ## Requests and answers -/

namespace Request

theorem stays_ofAsk_search (base : Url) (token : Text) (body : SearchBody) :
    Stays (ofAsk base token (.search body)) := by
  have listed : Stays (listUrl base body.entity) := by
    unfold listUrl
    split <;> exact nofun
  have headed : Stays (headerText token) := by
    unfold headerText
    split
    · split <;> exact nofun
    · exact nofun
  have documented (value : Value) : Stays (documentOf value) := by
    unfold documentOf
    split
    · exact nofun
    · split <;> exact nofun
  have hosted (url : Url) : Stays (checkHost url) := by
    unfold checkHost
    split
    · split <;> exact nofun
    · split <;> exact nofun
  exact listed.bind fun url => headed.bind fun _ => (stays_ok url).bind fun _ =>
    ((documented _).map _).bind fun _ => (hosted _).bind fun _ => nofun

end Request

theorem Response.stays_document (response : Response) : Stays response.document := by
  unfold document
  split
  · exact nofun
  · split <;> exact nofun

theorem PageInfo.stays_ofValue (value : Value) : Stays (ofValue value) := by
  cases value with
  | object fields =>
      change Stays (ofFields fields)
      unfold ofFields
      split
      · exact nofun
      · split
        · exact nofun
        · exact stays_reported _ _
  | _ => exact nofun

theorem PageResponse.stays_ofValue (value : Value) : Stays (ofValue value) := by
  cases value with
  | object fields =>
      unfold ofValue
      simp only
      split
      · exact nofun
      · exact nofun
      · exact (PageInfo.stays_ofValue _).bind fun _ => (stays_reported _ _).bind fun _ => nofun
  | _ => exact nofun

/-- What a server answers does not end the command. -/
theorem Arrival.stays_page_answered (base : Url) (response : Response) :
    Stays ((answered response).page base) := by
  simp only [page]
  split
  · intro code same
    cases same
  · split
    · exact response.stays_document.bind fun _ => PageResponse.stays_ofValue _
    · intro code same
      cases same

theorem Arrival.stays_page (base : Url) {arrival : Arrival}
    (alive : ∀ code, arrival ≠ .failed (.exit code)) : Stays (arrival.page base) := by
  cases arrival with
  | answered response => exact stays_page_answered base response
  | failed failure =>
      intro code same
      exact alive code (congrArg Arrival.failed (Except.error.inj same))

theorem ApiError.stays_ofResponse (entity : String) (response : Response) :
    Stays (ofResponse entity response) := by
  intro code failed
  have fails := ((explains entity response).fails_iff _).mp failed
  rcases Response.Fails.kinds fails with same | same | same <;> cases same

end CatalogQuery
