import CatalogQuery.Proofs.Pagination.Description
import CatalogQuery.Proofs.Pagination.SingleFlight

/-!
# One mode at a time

An engine never mixes the two modes of pagination.  Its last page is in the mode
of its request, also while that request is only tried, and while pages are
addressed by their numbers the history of cursors is empty.  A page that is
described in another way is refused, and what is refused changes neither the page
nor the history (`keepsMode_run`).

Which failure a description is refused with goes by its tag, and by its other
keys only if the tag is that of the other mode: the mode is compared after the
description was read, so one that cannot be read fails as such
(`other_mode_unread`).
-/

namespace CatalogQuery

namespace PageInfo

/-- A description that carries no tag of a mode. -/
def OutOfMode (mode : PaginationMode) (fields : Fields Value) : Prop :=
  tag? fields ≠ some (.text (tagOf mode))

/-- The failure that a description without a tag of the mode is refused with. -/
inductive Refused (mode : PaginationMode) (fields : Fields Value) : Failure → Prop where
  | untagged (absent : ∀ key ∈ tagKeys, Fields.get? (Text.ofString key) fields = none ∨
      Fields.get? (Text.ofString key) fields = some .null) :
      Refused mode fields (.pagination .missingTag)
  | unknown {tag : Value} (named : tag? fields = some tag)
      (strange : ∀ known, tag ≠ .text (tagOf known)) :
      Refused mode fields (.pagination (.unknownTag tag.inspect))
  | mismatched {info : PageInfo} (read : ofFields fields = .ok info)
      (apart : info.mode ≠ mode) :
      Refused mode fields (.pagination (.tagMismatch mode info.mode))
  /-- The tag is that of the other mode, and the other keys break its rules. -/
  | invalid {received : PaginationMode} {error : ValidationError}
      (named : tag? fields = some (.text (tagOf received))) (apart : received ≠ mode)
      (unread : ofFields fields = .error (.invalid error)) :
      Refused mode fields (.invalid error)

end PageInfo

/-- A response that describes its page otherwise than in a mode. -/
inductive Fetched.OutOfMode (mode : PaginationMode) : Fetched → Prop where
  | typed {page : PageResponse} (apart : page.pageInfo.mode ≠ mode) :
      OutOfMode mode (.page page)
  | described {envelope fields : Fields Value}
      (holds : PageResponse.either? "pageInfo" "page_info" envelope = some (.object fields))
      (outside : PageInfo.OutOfMode mode fields) :
      OutOfMode mode (.envelope (.object envelope))

/-- The failure that such a response is refused with: that of its description, but
if only the mode is wrong, the nodes are checked first. -/
inductive Fetched.Refused (mode : PaginationMode) : Fetched → Failure → Prop where
  | typed {page : PageResponse} (apart : page.pageInfo.mode ≠ mode) :
      Refused mode (.page page) (.pagination (.tagMismatch mode page.pageInfo.mode))
  | described {envelope fields : Fields Value} {failure : Failure}
      (holds : PageResponse.either? "pageInfo" "page_info" envelope = some (.object fields))
      (refused : PageInfo.Refused mode fields failure) :
      Refused mode (.envelope (.object envelope)) failure
  | unlisted {envelope fields : Fields Value} {info : PageInfo} {error : ValidationError}
      (holds : PageResponse.either? "pageInfo" "page_info" envelope = some (.object fields))
      (read : PageInfo.ofFields fields = .ok info)
      (broken : Checked.reported "PageResponse"
        (PageResponse.nodesOf (PageResponse.either? "nodes" "data" envelope)) =
          .error (.invalid error)) :
      Refused mode (.envelope (.object envelope)) (.invalid error)

/-- Traffic of an engine that keeps to one mode. -/
structure Traffic.KeepsMode (traffic : Traffic) : Prop where
  page_in_mode : ∀ info, traffic.engine.pageInfo = some info →
    info.mode = traffic.engine.request.mode
  unlinked : traffic.engine.request.mode = .offset → traffic.engine.cache.entries = []
  /-- A description in the other mode is refused, and the engine stays as it is. -/
  observed : ∀ info : PageInfo, info.mode ≠ traffic.engine.request.mode →
    traffic.engine.call (.observe info) = (traffic.engine,
      .raised (.pagination (.tagMismatch traffic.engine.request.mode info.mode)))
  /-- So is one that has yet to be read and carries another tag, or none. -/
  observed_raw : ∀ fields, PageInfo.OutOfMode traffic.engine.request.mode fields →
    ∃ failure, PageInfo.Refused traffic.engine.request.mode fields failure ∧
      traffic.engine.call (.observeRaw (.object fields)) = (traffic.engine, .raised failure)
  /-- So is a response, and neither the page nor the history changes. -/
  fetched : ∀ place < traffic.outstanding.length, ∀ fetched,
    Fetched.OutOfMode traffic.engine.request.mode fetched →
      ∃ failure, Fetched.Refused traffic.engine.request.mode fetched failure ∧
        traffic.result? place fetched = some (.error failure) ∧
          (traffic.step (.finish place fetched)).engine.pageInfo = traffic.engine.pageInfo ∧
            (traffic.step (.finish place fetched)).engine.cache = traffic.engine.cache

namespace PageInfo

variable {fields : Fields Value} {mode : PaginationMode}

/-- A description without the tag of a mode fails to be read, or is read as one of the
other mode. -/
theorem exists_refused (outside : OutOfMode mode fields) :
    ∃ failure, Refused mode fields failure ∧
      (ofFields fields = .error failure ∨
        ∃ info, ofFields fields = .ok info ∧ info.mode ≠ mode ∧
          failure = .pagination (.tagMismatch mode info.mode)) := by
  cases named : tag? fields with
  | none =>
      have vacant : ∀ key ∈ tagKeys, Vacant (Text.ofString key) fields := by
        simpa [tagKeys] using tag?_eq_none_iff.mp named
      refine ⟨_, .untagged vacant, Or.inl ?_⟩
      simp [ofFields, named]
  | some tag =>
      rcases ofFields_of_tag? named with ⟨received, rfl, read⟩ | ⟨strange, made⟩
      · have apart : received ≠ mode := by
          rintro rfl
          exact outside named
        rcases read with ⟨info, read, rfl⟩ | ⟨error, unread⟩
        · exact ⟨_, .mismatched read apart, Or.inr ⟨info, read, apart, rfl⟩⟩
        · exact ⟨_, .invalid named apart unread, Or.inl unread⟩
      · exact ⟨_, .unknown named strange, Or.inl made⟩

end PageInfo

namespace Engine

variable {engine : Engine}

/-- A history that is empty while pages are addressed by their numbers. -/
def Unlinked (engine : Engine) : Prop :=
  engine.request.mode = .offset → engine.cache.entries = []

theorem rememberNext_of_offset {info : PageInfo} (byNumber : info.mode = .offset)
    (cache : CursorCache) : rememberNext info cache = cache := by
  cases info with
  | offset info => rfl
  | cursor info => cases byNumber

theorem rememberOrigin_of_offset {info : PageInfo} (byNumber : info.mode = .offset)
    (origin : Option Text) (cache : CursorCache) :
    rememberOrigin origin info cache = cache := by
  cases info with
  | offset info => cases origin <;> rfl
  | cursor info => cases byNumber

theorem unlinked_call (coherent : engine.Coherent) (unlinked : engine.Unlinked)
    (made : EngineCall) : (engine.call made).1.Unlinked := by
  have called := called_call coherent made
  generalize engine.call made = result at called
  cases called with
  | unchanged => exact unlinked
  | departed start origin request =>
      intro byNumber
      change request.mode = .offset at byNumber
      simp only [depart, baseFor]
      split
      · rename_i same
        exact unlinked (same ▸ byNumber)
      · rfl
  | restarted => exact fun _ => rfl
  | observed made info same =>
      intro byNumber
      simp only at byNumber ⊢
      rw [rememberNext_of_offset (same.trans byNumber)]
      exact unlinked byNumber

theorem unlinked_land {flight : Flight} (flies : engine.flight = some flight)
    (restores : flight.restore.mode = engine.request.mode) (unlinked : engine.Unlinked)
    (fetched : Outcome PageResponse) : (engine.land fetched).1.Unlinked := by
  rcases land_eq flies fetched with ⟨page, _, same, landed⟩ | ⟨failure, landed⟩
  · rw [landed]
    intro byNumber
    change engine.request.mode = .offset at byNumber
    simp only [arrived, rememberNext_of_offset (same.trans byNumber),
      rememberOrigin_of_offset (same.trans byNumber)]
    exact unlinked byNumber
  · rw [landed]
    intro byNumber
    exact unlinked (restores ▸ byNumber)

theorem call_observe_of_mismatch {info : PageInfo} (apart : info.mode ≠ engine.request.mode) :
    engine.call (.observe info) =
      (engine, .raised (.pagination (.tagMismatch engine.request.mode info.mode))) := by
  simp [call, observeRead, observe, apart]

theorem exists_call_observeRaw {fields : Fields Value}
    (outside : PageInfo.OutOfMode engine.request.mode fields) :
    ∃ failure, PageInfo.Refused engine.request.mode fields failure ∧
      engine.call (.observeRaw (.object fields)) = (engine, .raised failure) := by
  obtain ⟨failure, refused, unread | ⟨info, read, apart, rfl⟩⟩ := PageInfo.exists_refused outside
  · exact ⟨failure, refused, by simp [call, PageInfo.ofValue, unread, observeRead]⟩
  · refine ⟨_, refused, ?_⟩
    simp only [call, PageInfo.ofValue, read]
    exact call_observe_of_mismatch apart

end Engine

/-- A response out of the mode of an engine fails for it. -/
theorem Fetched.OutOfMode.exists_fails {mode : PaginationMode} {fetched : Fetched}
    (outside : fetched.OutOfMode mode) :
    ∃ failure, fetched.Refused mode failure ∧
      (fetched.read = .error failure ∨
        ∃ page, fetched.read = .ok page ∧ page.pageInfo.mode ≠ mode ∧
          failure = .pagination (.tagMismatch mode page.pageInfo.mode)) := by
  cases outside with
  | typed apart => exact ⟨_, .typed apart, Or.inr ⟨_, rfl, apart, rfl⟩⟩
  | @described envelope fields holds outside =>
      obtain ⟨failure, refused, unread | ⟨info, read, apart, rfl⟩⟩ :=
        PageInfo.exists_refused outside
      · refine ⟨failure, .described holds refused, Or.inl ?_⟩
        simp [Fetched.read, PageResponse.ofValue, holds, PageInfo.ofValue, unread, bind,
          Except.bind]
      · cases listed : PageResponse.nodesOf
            (PageResponse.either? "nodes" "data" envelope) with
        | ok nodes =>
            refine ⟨_, .described holds refused, Or.inr ⟨⟨nodes, info⟩, ?_, apart, rfl⟩⟩
            simp [Fetched.read, PageResponse.ofValue, holds, PageInfo.ofValue, read, listed,
              Checked.reported, bind, Except.bind]
        | error issues =>
            refine ⟨_, .unlisted holds read (by rw [listed]; rfl), Or.inl ?_⟩
            simp [Fetched.read, PageResponse.ofValue, holds, PageInfo.ofValue, read, listed,
              Checked.reported, bind, Except.bind]

namespace Traffic

variable {traffic : Traffic}

theorem unlinked_step (orderly : traffic.Orderly) (unlinked : traffic.engine.Unlinked)
    (event : TrafficEvent) : (traffic.step event).engine.Unlinked := by
  cases event with
  | call made => exact Engine.unlinked_call orderly.coherent unlinked made
  | finish place fetched =>
      cases outstanding : traffic.outstanding[place]? with
      | none =>
          rw [step_finish_of_absent outstanding]
          exact unlinked
      | some outing =>
          obtain ⟨_, _, flies, stepped, _⟩ := orderly.finish_eq outstanding fetched
          have restores := orderly.restores (List.mem_of_getElem? outstanding)
          rw [stepped]
          exact Engine.unlinked_land flies restores unlinked fetched.read

theorem unlinked_run (orderly : traffic.Orderly) (unlinked : traffic.engine.Unlinked)
    (events : List TrafficEvent) : (traffic.run events).engine.Unlinked := by
  induction events generalizing traffic with
  | nil => exact unlinked
  | cons event events ih =>
      exact ih (orderly_step orderly event) (unlinked_step orderly unlinked event)

/-- A response out of the mode leaves the page and the history alone. -/
theorem Orderly.exists_refused (orderly : traffic.Orderly) {place : Nat}
    (outstanding : place < traffic.outstanding.length) {fetched : Fetched}
    (outside : fetched.OutOfMode traffic.engine.request.mode) :
    ∃ failure, fetched.Refused traffic.engine.request.mode failure ∧
      traffic.result? place fetched = some (.error failure) ∧
        (traffic.step (.finish place fetched)).engine.pageInfo = traffic.engine.pageInfo ∧
          (traffic.step (.finish place fetched)).engine.cache = traffic.engine.cache := by
  have present := List.getElem?_eq_getElem outstanding
  obtain ⟨_, _, flies, stepped, result⟩ := orderly.finish_eq present fetched
  obtain ⟨failure, refused, fails⟩ := outside.exists_fails
  -- Read or not, the response fails, and a failure only puts the old request back.
  have landed : traffic.engine.land fetched.read =
      (traffic.engine.rolledBack traffic.outstanding[place].flight, .error failure) := by
    rcases fails with unread | ⟨page, read, apart, rfl⟩
    · rw [unread, Engine.land_of_error flies]
    · rw [read, Engine.land_of_mismatch flies apart]
  rw [stepped, result, landed]
  exact ⟨failure, refused, rfl, rfl, rfl⟩

/-- Every run of an engine with an empty history keeps to one mode at a time. -/
theorem keepsMode_run (request : Pagination) (bound : Option Count)
    (events : List TrafficEvent) :
    ((opening request (.empty bound)).run events).KeepsMode := by
  have orderly := orderly_run (orderly_opening request (.empty bound)) events
  have unlinked := unlinked_run (orderly_opening request (.empty bound)) (fun _ => rfl) events
  exact
    { page_in_mode := orderly.coherent
      unlinked := unlinked
      observed := fun _ apart => Engine.call_observe_of_mismatch apart
      observed_raw := fun _ outside => Engine.exists_call_observeRaw outside
      fetched := fun _ outstanding _ outside => orderly.exists_refused outstanding outside }

/-- A description with the tag of the other mode and nothing else fails to be read,
before the modes are compared. -/
theorem other_mode_unread :
    let engine := Engine.start (.offset .first) (.empty none)
    let fields : Fields Value := [("__kind", .text (PageInfo.tagOf .cursor))]
    PageInfo.tag? fields = some (.text (PageInfo.tagOf .cursor)) ∧
      engine.request.mode ≠ .cursor ∧
        ∀ failure, (engine.call (.observeRaw (.object fields))).2 ≠
          .raised (.pagination failure) := by
  refine ⟨rfl, by decide, ?_⟩
  intro failure raised
  cases raised

end Traffic
end CatalogQuery
