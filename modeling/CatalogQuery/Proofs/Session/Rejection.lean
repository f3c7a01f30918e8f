import CatalogQuery.Proofs.Session.Reopening

/-!
# Explaining rejected queries

The error that a response is shown as takes its message from the body only if the query
was rejected.  The body is untrusted, and two things in it are taken as they come: the
location of a rejected part, whose last part has to be there, and the message of a detail,
which has to be a text.  A body without such a fault, readable or not, is explained by a
text, and any other one is not (`explains_unless_at_fault`).  When the parsing of a
response fails, what the session reports is that failure, and not the status.
-/

namespace CatalogQuery

/-- The failure that an operation ended with. -/
def Outcome.failure? {α : Type} : Outcome α → Option Failure
  | .ok _ => none
  | .error failure => some failure

theorem Outcome.failure?_eq_some {α : Type} {outcome : Outcome α} {failure : Failure} :
    outcome.failure? = some failure ↔ outcome = .error failure := by
  cases outcome <;> simp [failure?]

/-- Whether a response says that the query was rejected. -/
def Response.IsRejection (response : Response) : Prop :=
  response.status = 400 ∨ response.status = 422

namespace ApiError

/-! ## Locations -/

/-- A location that is empty, or whose last part can be taken. -/
def HasLastPart (location : Value) : Prop :=
  location.isEmpty = true ∨ (∃ items, location = .list items) ∨ ∃ text, location = .text text

/-- The failure to take the last part of a location that has none: an object has nothing
under the key, and other values have no parts at all. -/
def missedPart : Value → Failure
  | .object _ => .noSuchKey
  | .table _ => .noSuchKey
  | _ => .wrongKind

/-- An item of a detail whose location, if it names one, has a last part. -/
def Placed (item : Value) : Prop :=
  ∀ fields, item = .object fields →
    ∀ location, Fields.get? "loc" fields = some location → HasLastPart location

/-- Items of which one has a location without a last part, with what failure that is for
the first such item. -/
inductive Misplaced : List Value → Failure → Prop where
  | here {fields : Fields Value} {location : Value} {rest : List Value}
      (named : Fields.get? "loc" fields = some location) (lost : ¬HasLastPart location) :
      Misplaced (.object fields :: rest) (missedPart location)
  | later {item : Value} {rest : List Value} {failure : Failure} (placed : Placed item)
      (misplaced : Misplaced rest failure) : Misplaced (item :: rest) failure

theorem exists_lastPart {location : Option Value}
    (all : ∀ given, location = some given → HasLastPart given) :
    ∃ part, lastPart location = .ok part := by
  cases location with
  | none => exact ⟨_, rfl⟩
  | some given =>
      rcases all given rfl with empty | ⟨items, rfl⟩ | ⟨text, rfl⟩
      · exact ⟨"unknown", by simp [lastPart, empty]⟩
      · simp only [lastPart]
        split <;> exact ⟨_, rfl⟩
      · simp only [lastPart]
        split <;> exact ⟨_, rfl⟩

theorem lastPart_of_lost {location : Value} (lost : ¬HasLastPart location) :
    lastPart (some location) = .error (missedPart location) := by
  obtain ⟨filled, unlisted, unwritten⟩ : location.isEmpty = false ∧
      (∀ items, location ≠ .list items) ∧ ∀ text, location ≠ .text text := by
    simpa [HasLastPart] using lost
  simp only [lastPart, filled, Bool.false_eq_true, if_false]
  cases location with
  | list items => exact absurd rfl (unlisted items)
  | text text => exact absurd rfl (unwritten text)
  | _ => rfl

theorem placed_or_misplaced (items : List Value) :
    (∀ item ∈ items, Placed item) ∨ ∃ failure, Misplaced items failure := by
  induction items with
  | nil => exact .inl (by simp)
  | cons item rest ih =>
      by_cases placed : Placed item
      · rcases ih with all | ⟨failure, misplaced⟩
        · exact .inl (List.forall_mem_cons.mpr ⟨placed, all⟩)
        · exact .inr ⟨failure, .later placed misplaced⟩
      · simp only [Placed, Classical.not_forall] at placed
        obtain ⟨fields, rfl, location, named, lost⟩ := placed
        exact .inr ⟨_, .here named lost⟩

/-- The messages of items are found one by one; an item is passed over or adds its own. -/
theorem exists_partMessages_cons {item : Value} (placed : Placed item) :
    ∃ own : List Text, ∀ rest,
      partMessages (item :: rest) = (partMessages rest).map (own ++ ·) := by
  have skipped (rest : List Value) : partMessages rest = (partMessages rest).map ([] ++ ·) := by
    cases partMessages rest <;> rfl
  cases item with
  | object fields =>
      obtain ⟨part, found⟩ := exists_lastPart fun location named => placed fields rfl location named
      refine ⟨[part ++ ": " ++ ((Fields.get? "msg" fields).map Value.display).getD "invalid"],
        fun rest => ?_⟩
      rw [partMessages, partMessage, found]
      cases partMessages rest <;> rfl
  | _ => exact ⟨[], skipped⟩

theorem exists_partMessages {items : List Value} (placed : ∀ item ∈ items, Placed item) :
    ∃ messages, partMessages items = .ok messages := by
  induction items with
  | nil => exact ⟨[], rfl⟩
  | cons item rest ih =>
      obtain ⟨first, others⟩ := List.forall_mem_cons.mp placed
      obtain ⟨messages, read⟩ := ih others
      obtain ⟨own, added⟩ := exists_partMessages_cons first
      exact ⟨own ++ messages, by rw [added, read]; rfl⟩

theorem partMessages_of_misplaced {items : List Value} {failure : Failure}
    (misplaced : Misplaced items failure) : partMessages items = .error failure := by
  induction misplaced with
  | here named lost =>
      rw [partMessages, partMessage, named, lastPart_of_lost lost]
      rfl
  | later placed misplaced ih =>
      obtain ⟨own, added⟩ := exists_partMessages_cons placed
      rw [added, ih]
      rfl

theorem partMessages_eq_error_iff {items : List Value} {failure : Failure} :
    partMessages items = .error failure ↔ Misplaced items failure := by
  refine ⟨fun lost => ?_, partMessages_of_misplaced⟩
  rcases placed_or_misplaced items with placed | ⟨other, misplaced⟩
  · obtain ⟨messages, read⟩ := exists_partMessages placed
    cases lost.symm.trans read
  · cases lost.symm.trans (partMessages_of_misplaced misplaced)
    exact misplaced

/-! ## Details -/

/-- The part of a body that the message is taken from. -/
def detailOf (fields : Fields Value) : Value :=
  (Fields.get? "detail" fields).getD ((Fields.get? "message" fields).getD (.text unexplained))

/-- The failure to make a message of a detail. -/
def DetailFails (detail : Value) (failure : Failure) : Prop :=
  ∃ items, detail = .list items ∧ Misplaced items failure

/-- A detail with a message of its own that is no text. -/
def DetailMumbles (detail : Value) : Prop :=
  ∃ fields message, detail = .object fields ∧ Fields.get? "message" fields = some message ∧
    ∀ text, message ≠ .text text

theorem detailMessage_eq_error_iff {detail : Value} {failure : Failure} :
    detailMessage detail = .error failure ↔ DetailFails detail failure := by
  cases detail with
  | list items =>
      have same : detailMessage (.list items) = .error failure ↔
          partMessages items = .error failure := by
        rw [detailMessage]
        cases partMessages items <;> simp [bind, Except.bind]
      rw [same, partMessages_eq_error_iff]
      simp [DetailFails]
  | _ => simp [detailMessage, DetailFails]

theorem exists_detailMessage_iff {detail : Value} :
    (∃ text, detailMessage detail = .ok (.text text)) ↔
      ¬DetailMumbles detail ∧ ∀ failure, ¬DetailFails detail failure := by
  simp only [← detailMessage_eq_error_iff]
  cases detail with
  | object fields =>
      cases named : Fields.get? "message" fields with
      | none => simp [detailMessage, DetailMumbles, named]
      | some message => cases message <;> simp [detailMessage, DetailMumbles, named]
  | list items =>
      rw [detailMessage]
      cases partMessages items <;> simp [DetailMumbles, bind, Except.bind]
  | _ => simp [detailMessage, DetailMumbles]

end ApiError

/-! ## Responses -/

namespace Response

/-- A response that rejects a query and says why, in a body that is an object. -/
def Details (detail : Value) (response : Response) : Prop :=
  response.IsRejection ∧
    ∃ fields, response.document = .ok (.object fields) ∧ ApiError.detailOf fields = detail

/-- A response whose parsing fails: its body is nested too deeply, or a rejected part has a
location without a last part. -/
def Fails (failure : Failure) (response : Response) : Prop :=
  (response.IsRejection ∧ response.document = .error (.unreadable .tooDeep) ∧
      failure = .unreadable .tooDeep) ∨
    ∃ detail, response.Details detail ∧ ApiError.DetailFails detail failure

/-- A response whose message is no text. -/
def Mumbles (response : Response) : Prop :=
  ∃ detail, response.Details detail ∧ ApiError.DetailMumbles detail

end Response

namespace ApiError

/-- What the parsing of a response comes to. -/
structure Explains (entity : String) (response : Response) : Prop where
  fails_iff : ∀ failure,
    ofResponse entity response = .error failure ↔ response.Fails failure
  explained_iff :
    (∃ error text, ofResponse entity response = .ok error ∧ error.message = .text text) ↔
      ¬response.Mumbles ∧ ∀ failure, ¬response.Fails failure

variable {response : Response}

theorem ofResponse_of_rejection (rejects : response.IsRejection) (entity : String) :
    ofResponse entity response =
      (rejectionMessage response).map fun message => ⟨.validation, message⟩ := by
  unfold ofResponse
  rcases rejects with status | status
  all_goals
    simp only [status]
    cases rejectionMessage response <;> rfl

/-- Any other status is explained by itself. -/
theorem exists_ofResponse (accepts : ¬response.IsRejection) (entity : String) :
    ∃ category text, ofResponse entity response = .ok ⟨category, .text text⟩ := by
  unfold ofResponse
  have accepts : ¬(response.status = 400 ∨ response.status = 422) := accepts
  rw [if_neg accepts]
  split
  · exact ⟨_, _, rfl⟩
  · split
    · exact ⟨_, _, rfl⟩
    · split <;> exact ⟨_, _, rfl⟩

/-- The message of a rejection is that of its detail, if the body has one. -/
theorem rejectionMessage_cases (response : Response) :
    (response.document = .error (.unreadable .tooDeep) ∧
        rejectionMessage response = .error (.unreadable .tooDeep)) ∨
      (∃ fields, response.document = .ok (.object fields) ∧
        rejectionMessage response = detailMessage (detailOf fields)) ∨
      response.document ≠ .error (.unreadable .tooDeep) ∧
        (∀ fields, response.document ≠ .ok (.object fields)) ∧
          rejectionMessage response = .ok (.text unexplained) := by
  unfold rejectionMessage
  split
  · next deep => exact .inl ⟨deep, rfl⟩
  · next fields read =>
    refine .inr (.inl ⟨fields, read, ?_⟩)
    rw [detailOf]
    cases Fields.get? "detail" fields <;> rfl
  · next deep foreign => exact .inr (.inr ⟨deep, foreign, rfl⟩)

theorem explains (entity : String) (response : Response) : Explains entity response := by
  by_cases rejects : response.IsRejection
  · have made := ofResponse_of_rejection rejects entity
    have fails_iff (failure : Failure) : ofResponse entity response = .error failure ↔
        rejectionMessage response = .error failure := by
      rw [made]
      cases rejectionMessage response <;> simp [Except.map]
    have explained_iff :
        (∃ error text, ofResponse entity response = .ok error ∧ error.message = .text text) ↔
          ∃ text, rejectionMessage response = .ok (.text text) := by
      rw [made]
      cases rejectionMessage response <;> simp [Except.map]
    rcases rejectionMessage_cases response with
      ⟨read, said⟩ | ⟨fields, read, said⟩ | ⟨shallow, foreign, said⟩
    · have fails (failure : Failure) :
          response.Fails failure ↔ failure = .unreadable .tooDeep := by
        simp [Response.Fails, Response.Details, rejects, read]
      refine ⟨fun failure => ?_, ?_⟩
      · rw [fails_iff, said, fails, Except.error.injEq, eq_comm]
      · rw [explained_iff, said]
        simp [fails]
    · have details (detail : Value) : response.Details detail ↔ detailOf fields = detail := by
        simp [Response.Details, rejects, read]
      have fails (failure : Failure) :
          response.Fails failure ↔ DetailFails (detailOf fields) failure := by
        simp [Response.Fails, details, read]
      have mumbles : response.Mumbles ↔ DetailMumbles (detailOf fields) := by
        simp [Response.Mumbles, details]
      refine ⟨fun failure => ?_, ?_⟩
      · rw [fails_iff, said, fails, detailMessage_eq_error_iff]
      · rw [explained_iff, said, exists_detailMessage_iff, mumbles]
        simp only [fails]
    · have details (detail : Value) : ¬response.Details detail := by
        simp [Response.Details, foreign]
      refine ⟨fun failure => ?_, ?_⟩
      · rw [fails_iff, said]
        simp [Response.Fails, details, shallow]
      · rw [explained_iff, said]
        simp [Response.Fails, Response.Mumbles, details, shallow]
  · obtain ⟨category, text, made⟩ := exists_ofResponse rejects entity
    refine ⟨fun failure => ?_, ?_⟩
    · simp [made, Response.Fails, Response.Details, rejects]
    · simp [made, Response.Fails, Response.Mumbles, Response.Details, rejects]

end ApiError

/-- What a session reports when the answer to what it asked for is no success. -/
structure Session.Reports (voyage : Voyage) (response : Response) (session : Session) : Prop where
  status_iff :
    (session.arrive voyage (.answered response)).2 = .error (.status response.status) ↔
      ∀ failure, ¬response.Fails failure
  replaced : ∀ failure, response.Fails failure →
    (session.arrive voyage (.answered response)).2 = .error failure
  shown : ∀ error, ApiError.ofResponse session.setup.entity response = .ok error →
    (session.arrive voyage (.answered response)).1.lastError = some error

/-- The failures to parse a response are of three kinds. -/
theorem Response.Fails.kinds {response : Response} {failure : Failure}
    (fails : response.Fails failure) :
    failure = .unreadable .tooDeep ∨ failure = .noSuchKey ∨ failure = .wrongKind := by
  have missed (location : Value) : ApiError.missedPart location = .noSuchKey ∨
      ApiError.missedPart location = .wrongKind := by
    cases location <;> simp [ApiError.missedPart]
  rcases fails with ⟨-, -, rfl⟩ | ⟨_, -, items, -, misplaced⟩
  · exact Or.inl rfl
  · induction misplaced with
    | here named lost => exact Or.inr (missed _)
    | later placed misplaced ih => exact ih

/-- No failure to parse a response is that of its status. -/
theorem Response.Fails.ne_status {response : Response} {failure : Failure}
    (fails : response.Fails failure) (code : Nat) : failure ≠ .status code := by
  rcases fails.kinds with rfl | rfl | rfl <;> exact nofun

namespace Session

variable {session : Session} {voyage : Voyage} {mode : PaginationMode}

theorem setup_withLanded (engine : Engine) : (session.withLanded voyage engine).setup =
    session.setup :=
  (session.continues_withLanded voyage engine).setup_eq

/-- An answer that is no success ends the voyage with what its parsing comes to. -/
theorem arrive_of_unsuccessful (awaits : session.Awaits voyage mode)
    (named : session.setup.base.startsWithName = true) {response : Response}
    (unsuccessful : response.isSuccess = false) :
    ∃ landed : Session, session.arrive voyage (.answered response) =
      match ApiError.ofResponse session.setup.entity response with
      | .ok error => ({ landed with lastError := some error }, .error (.status response.status))
      | .error failure => (landed, .error failure) := by
  obtain ⟨engine, flight, waits, flies, -⟩ := awaits.aloft
  have read : (Arrival.answered response).page session.setup.base =
      .error (.status response.status) := by
    simp [Arrival.page, named, unsuccessful]
  refine ⟨session.withLanded voyage (engine.rolledBack flight), ?_⟩
  simp only [arrive, waits, read, Engine.land_of_error flies, fail, Arrival.shownError,
    setup_withLanded]
  cases ApiError.ofResponse session.setup.entity response <;> rfl

theorem reports (awaits : session.Awaits voyage mode)
    (named : session.setup.base.startsWithName = true) {response : Response}
    (unsuccessful : response.isSuccess = false) : session.Reports voyage response := by
  obtain ⟨landed, arrived⟩ := arrive_of_unsuccessful awaits named unsuccessful
  have parses := (ApiError.explains session.setup.entity response).fails_iff
  cases made : ApiError.ofResponse session.setup.entity response with
  | ok error =>
      rw [made] at arrived
      refine ⟨?_, ?_, ?_⟩
      · simp [arrived, ← parses, made]
      · simp [← parses, made]
      · simp [arrived, made]
  | error failure =>
      rw [made] at arrived
      have fails := (parses failure).mp made
      refine ⟨?_, ?_, ?_⟩
      · simp [arrived, ← parses, made, fails.ne_status]
      · simp [arrived, ← parses, made]
      · simp [made]

end Session

namespace ApiError

/-- For every status and body, the parsing of a response fails only for a body that is
nested too deeply or a location without a last part, and the message is a text unless the
body has something else for it.  A session reports the status of an answer that is no
success, unless its parsing fails. -/
theorem explains_unless_at_fault (response : Response) :
    (∀ entity, Explains entity response) ∧
      ∀ (session : Session) (voyage : Voyage) (mode : PaginationMode),
        session.Awaits voyage mode → session.setup.base.startsWithName = true →
          response.isSuccess = false → session.Reports voyage response :=
  ⟨fun entity => explains entity response, fun _ _ _ awaits named unsuccessful =>
    Session.reports awaits named unsuccessful⟩

/-- A rejection with a body. -/
def rejectionWith (body : String) : Response := ⟨422, body.toList.map Char.toNat⟩

/-- A rejected page size, at its location in the query. -/
def placedRejection : Response :=
  rejectionWith
    "\x7b\"detail\":[\x7b\"loc\":[\"query\",\"page_size\"],\"msg\":\"too small\"\x7d]\x7d"

/-- A rejected page size, at a location that is a number. -/
def strayRejection : Response :=
  rejectionWith "\x7b\"detail\":[\x7b\"loc\":5,\"msg\":\"too small\"\x7d]\x7d"

/-- A rejection whose message is a number. -/
def mumbledRejection : Response := rejectionWith "\x7b\"detail\":\x7b\"message\":5\x7d\x7d"

/-- The list of series, whose first page has been asked for. -/
def awaitingFirst : Session := Session.seriesList.lives [.opens, .begins .refresh]

theorem awaits_awaitingFirst : awaitingFirst.Awaits ⟨0, false⟩ .offset := by
  have engine : (awaitingFirst.engineOf? ⟨0, false⟩).map
      (fun engine => (engine.flight.isSome, engine.request.mode)) = some (true, .offset) := by
    decide +kernel
  obtain ⟨engine, waits, known⟩ := Option.map_eq_some_iff.mp engine
  obtain ⟨flies, mode⟩ := Prod.mk.inj known
  obtain ⟨flight, flies⟩ := Option.isSome_iff_exists.mp flies
  exact ⟨by decide +kernel, engine, flight, waits, flies, mode⟩

/-- The number that an error has for its message. -/
def number? (error : ApiError) : Option Int :=
  match error.message with
  | .int i => some i
  | _ => none

theorem message_of_number? {error : ApiError} {number : Int}
    (numbered : error.number? = some number) : error.message = .int number := by
  unfold number? at numbered
  split at numbered
  · next i said => rw [said, Option.some.inj numbered]
  · cases numbered

theorem placed_rejection_reported :
    awaitingFirst.Awaits ⟨0, false⟩ .offset ∧
      awaitingFirst.setup.base.startsWithName = true ∧ placedRejection.isSuccess = false ∧
      (awaitingFirst.arrive ⟨0, false⟩ (.answered placedRejection)).2 = .error (.status 422) := by
  have named : awaitingFirst.setup.base.startsWithName = true := by decide +kernel
  have unsuccessful : placedRejection.isSuccess = false := by decide
  obtain ⟨explained, reported⟩ := explains_unless_at_fault placedRejection
  have parsed : (ofResponse "series" placedRejection).failure? = none := by decide +kernel
  have sound (failure : Failure) : ¬placedRejection.Fails failure := by
    rw [← (explained "series").fails_iff, ← Outcome.failure?_eq_some, parsed]
    simp
  exact ⟨awaits_awaitingFirst, named, unsuccessful,
    (reported _ _ _ awaits_awaitingFirst named unsuccessful).status_iff.mpr sound⟩

/-- A rejection at a location that is a number is not parsed, and is not reported as a
rejection either; and a message that is a number is passed on as one. -/
theorem stray_rejection_unparsed :
    ofResponse "series" strayRejection = .error .wrongKind ∧
      (awaitingFirst.arrive ⟨0, false⟩ (.answered strayRejection)).2 = .error .wrongKind ∧
      ∃ error, ofResponse "series" mumbledRejection = .ok error ∧ error.message = .int 5 := by
  refine ⟨Outcome.failure?_eq_some.mp (by decide +kernel),
    Outcome.failure?_eq_some.mp (by decide +kernel), ?_⟩
  have said : (ofResponse "series" mumbledRejection).toOption.map number? = some (some 5) := by
    decide +kernel
  obtain ⟨error, made, number⟩ := Outcome.exists_ok_of_map said
  exact ⟨error, made, message_of_number? number⟩

end ApiError
end CatalogQuery
