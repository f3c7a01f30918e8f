import CatalogQuery.Proofs.Pagination.SingleFlight

/-!
# The flags of a pager

The flags of a pager and the requests for the pages around the last one are found
separately, the flags by counting pages or by looking into the history.  Whatever
pages a server describes, with numbers below zero or none in total as well, they
agree while nothing is in flight (`flagsAgree_run`): without a next page a step
forward does nothing, and with one it fetches the page that follows.  Only a
description whose numbers no request can have makes the step fail, before anything
is fetched.
-/

namespace CatalogQuery

namespace OffsetPageInfo

/-- A description after which no page can be asked for: pages have items, and their
numbers start at zero. -/
def OutOfRange (info : OffsetPageInfo) : Prop := info.pageSize < 1 ∨ info.currentPage < -1

/-- What is wrong with the request for the page after such a description. -/
def issues (info : OffsetPageInfo) : List Issue :=
  (if info.currentPage < -1 then [⟨[.field "page"], .belowMinimum⟩] else []) ++
    (if info.pageSize < 1 then [⟨[.field "page_size"], .belowMinimum⟩] else [])

end OffsetPageInfo

/-- The request for the page that follows a described one. -/
inductive PageInfo.Successor (limit : Option Count) : PageInfo → Pagination → Prop where
  | numbered {info : OffsetPageInfo} {page : Nat} {pageSize : Count}
      (follows : (page : Int) = info.currentPage + 1)
      (sized : (pageSize.val : Int) = info.pageSize) :
      Successor limit (.offset info) (.offset ⟨page, pageSize, info.zeroBased⟩)
  | linked {info : CursorPageInfo} {next : Text} (named : info.nextCursor = some next) :
      Successor limit (.cursor info) (.cursor ⟨some next, limit⟩)

namespace Traffic

/-- A call that gives an answer and does nothing else. -/
def Answers (traffic : Traffic) (made : EngineCall) (answer : CallAnswer) : Prop :=
  (traffic.engine.call made).2 = answer ∧ traffic.step (.call made) = traffic

/-- A navigation that starts one fetch, the only one that is outstanding then. -/
def Fetches (traffic : Traffic) (start : Start) (request : Pagination) : Prop :=
  (traffic.engine.call (.navigate start)).2 = .fetching request ∧
    ∃ flight, (traffic.step (.call (.navigate start))).outstanding = [⟨start, request, flight⟩]

/-- Traffic whose navigation does what the flags of its pager say. -/
structure FlagsAgree (traffic : Traffic) : Prop where
  stays_iff : traffic.Answers (.navigate .next) .nothing ↔
    traffic.engine.status.hasNext = false
  /-- A step forward fails only for the numbers of the last page, and says which. -/
  fails_iff : ∀ failure, traffic.Answers (.navigate .next) (.raised failure) ↔
    traffic.engine.status.hasNext = true ∧
      ∃ info, traffic.engine.pageInfo = some (.offset info) ∧ info.OutOfRange ∧
        failure = .invalid ⟨OffsetPagination.model, info.issues⟩
  fetches : traffic.engine.status.hasNext = true →
    (∀ info, traffic.engine.pageInfo = some (.offset info) → ¬ info.OutOfRange) →
      ∃ info request, traffic.engine.pageInfo = some info ∧
        info.Successor traffic.engine.request.limit? request ∧ traffic.Fetches .next request
  /-- The step back to a cursor fails exactly without a previous page. -/
  back : traffic.engine.request.mode = .cursor →
    ∀ page, traffic.engine.pageInfo = some page → ∃ info, page = .cursor info ∧
      (traffic.Answers (.navigate .previous)
          (.raised (.pagination (.noPreviousCursor info.currentCursor))) ↔
        traffic.engine.status.hasPrevious = false) ∧
      (traffic.engine.status.hasPrevious = true →
        ∃ previous, traffic.engine.cache.previous? info.currentCursor = some previous ∧
          traffic.Fetches .previous (.cursor ⟨some previous, traffic.engine.request.limit?⟩))
  underivable_iff :
    traffic.Answers .nextRequest (.raised (.pagination .noNextPage)) ↔
      traffic.engine.pageInfo.isSome = true ∧ traffic.engine.status.hasNext = false

end Traffic

namespace Engine

variable {engine : Engine} {page pageSize : Int} {zeroBased : Bool}

theorem offsetRequest_of_range (numbered : 0 ≤ page) (sized : 1 ≤ pageSize) :
    offsetRequest page pageSize zeroBased =
      .ok (.offset ⟨page.toNat, ⟨pageSize.toNat, by omega⟩, zeroBased⟩) := by
  have count : 1 ≤ pageSize.toNat := by omega
  simp [offsetRequest, OffsetPagination.ofIntegers, Checked.naturalOf, Checked.countOf, numbered,
    count, Checked.inField, Checked.under, Checked.both, Checked.reported, Except.map]

theorem offsetRequest_of_outOfRange {info : OffsetPageInfo} (outside : info.OutOfRange) :
    offsetRequest (info.currentPage + 1) info.pageSize info.zeroBased =
      .error (.invalid ⟨OffsetPagination.model, info.issues⟩) := by
  have natural : 0 ≤ info.currentPage + 1 ↔ ¬ info.currentPage < -1 := by omega
  have count : 1 ≤ info.pageSize.toNat ↔ ¬ info.pageSize < 1 := by omega
  simp only [offsetRequest, OffsetPagination.ofIntegers, Checked.naturalOf, Checked.countOf,
    OffsetPageInfo.issues, natural, count]
  by_cases early : info.currentPage < -1
  · by_cases small : info.pageSize < 1
    · simp only [early, small]
      rfl
    · simp only [early, small]
      rfl
  · have small : info.pageSize < 1 := outside.resolve_right early
    simp only [early, small]
    rfl

/-- What the request for the page after the last one can come to. -/
inductive Derives (engine : Engine) : Outcome Pagination → Prop where
  | unseen (unseen : engine.pageInfo = none) :
      Derives engine (.error (.pagination .nothingObserved))
  | last {info : PageInfo} (seen : engine.pageInfo = some info)
      (last : engine.status.hasNext = false) :
      Derives engine (.error (.pagination .noNextPage))
  | outside {info : OffsetPageInfo} (seen : engine.pageInfo = some (.offset info))
      (more : engine.status.hasNext = true) (outside : info.OutOfRange) :
      Derives engine (.error (.invalid ⟨OffsetPagination.model, info.issues⟩))
  | found {info : PageInfo} {request : Pagination} (seen : engine.pageInfo = some info)
      (more : engine.status.hasNext = true)
      (inside : ∀ numbers, info = .offset numbers → ¬ numbers.OutOfRange)
      (follows : info.Successor engine.request.limit? request) : Derives engine (.ok request)

theorem hasNext_eq {info : PageInfo} (seen : engine.pageInfo = some info) :
    engine.status.hasNext = (info.availability engine.cache).hasNext := by
  simp only [status, availability, seen]

theorem nextRequest_of_offset {info : OffsetPageInfo}
    (seen : engine.pageInfo = some (.offset info)) :
    engine.nextRequest =
      if engine.status.hasNext then
        offsetRequest (info.currentPage + 1) info.pageSize info.zeroBased
      else .error (.pagination .noNextPage) := by
  rw [nextRequest, requirePage_eq_ok.mpr seen]
  rfl

theorem nextRequest_of_cursor {info : CursorPageInfo}
    (seen : engine.pageInfo = some (.cursor info)) :
    engine.nextRequest =
      match info.nextCursor with
      | none => .error (.pagination .noNextPage)
      | some next => .ok (.cursor ⟨some next, engine.request.limit?⟩) := by
  rw [nextRequest, requirePage_eq_ok.mpr seen]
  rfl

/-- Everything that the request for the next page can come to. -/
theorem derives_nextRequest (engine : Engine) : engine.Derives engine.nextRequest := by
  cases seen : engine.pageInfo with
  | none =>
      have derived : engine.nextRequest = .error (.pagination .nothingObserved) := by
        simp [nextRequest, requirePage, seen, bind, Except.bind]
      rw [derived]
      exact .unseen seen
  | some page =>
      cases page with
      | offset info =>
          rw [nextRequest_of_offset seen]
          split
          · next more =>
              by_cases outside : info.OutOfRange
              · rw [offsetRequest_of_outOfRange outside]
                exact .outside seen more outside
              · obtain ⟨sized, numbered⟩ := not_or.mp outside
                rw [offsetRequest_of_range (by omega) (by omega)]
                refine .found seen more ?_ (.numbered ?_ ?_)
                · rintro _ ⟨⟩
                  exact outside
                · omega
                · change ((info.pageSize.toNat : Nat) : Int) = info.pageSize
                  omega
          · next last => exact .last seen (Bool.eq_false_iff.mpr last)
      | cursor info =>
          rw [nextRequest_of_cursor seen]
          have shown : engine.status.hasNext = info.nextCursor.isSome := hasNext_eq seen
          cases named : info.nextCursor with
          | none => exact .last seen (by rw [shown, named]; rfl)
          | some next => exact .found seen (by rw [shown, named]; rfl) (by simp) (.linked named)

theorem loadNext_of_last (last : engine.status.hasNext = false) :
    engine.loadNext = (engine, .none) := by
  have last : engine.availability.hasNext = false := last
  simp [loadNext, last]

theorem loadNext_of_more (lands : engine.flight = none) (more : engine.status.hasNext = true) :
    engine.loadNext = engine.departWith .next engine.currentCursor? engine.nextRequest := by
  have more : engine.availability.hasNext = true := more
  simp [loadNext, inFlight, lands, more]

theorem loadPrevious_of_cursor {info : CursorPageInfo} (lands : engine.flight = none)
    (seen : engine.pageInfo = some (.cursor info)) :
    engine.loadPrevious = engine.departWith .previous none engine.previousRequest := by
  simp [loadPrevious, inFlight, lands, seen]

theorem previousRequest_of_cursor {info : CursorPageInfo}
    (seen : engine.pageInfo = some (.cursor info)) :
    engine.previousRequest =
      match engine.cache.previous? info.currentCursor with
      | none => .error (.pagination (.noPreviousCursor info.currentCursor))
      | some previous => .ok (.cursor ⟨some previous, engine.request.limit?⟩) := by
  rw [previousRequest, requirePage_eq_ok.mpr seen]
  rfl

end Engine

namespace Traffic

variable {traffic : Traffic} {request : Pagination}

/-- A navigation that stays starts no fetch. -/
theorem answers_of_begin (start : Start) (departure : Departure)
    (begins : start.begin traffic.engine = (traffic.engine, departure))
    (grounded : ∀ request, departure ≠ .fetching request) :
    traffic.Answers (.navigate start) departure.answer := by
  have called : traffic.engine.call (.navigate start) = (traffic.engine, departure.answer) := by
    simp only [Engine.call, begins]
  refine ⟨by rw [called], ?_⟩
  cases departure with
  | fetching request => exact absurd rfl (grounded request)
  | none => simp [step, afterCall, called, outing?, Departure.answer]
  | failed failure => simp [step, afterCall, called, outing?, Departure.answer]

theorem fetches_of_begin (start : Start) {navigation : Navigation} {origin : Option Text}
    (alone : traffic.outstanding = [])
    (begins : start.begin traffic.engine = traffic.engine.depart navigation origin request) :
    traffic.Fetches start request := by
  have called : traffic.engine.call (.navigate start) =
      ((traffic.engine.depart navigation origin request).1, .fetching request) := by
    simp only [Engine.call, begins, Engine.depart, Departure.answer]
  refine ⟨by rw [called], ⟨navigation, traffic.engine.request, origin⟩, ?_⟩
  simp [step, afterCall, called, outing?, alone, Engine.depart]

theorem Answers.eq {made : EngineCall} {answer other : CallAnswer}
    (answers : traffic.Answers made answer) (also : traffic.Answers made other) :
    answer = other := answers.1.symm.trans also.1

theorem Fetches.not_answers {start : Start} {answer : CallAnswer}
    (fetches : traffic.Fetches start request) (alone : traffic.outstanding = []) :
    ¬ traffic.Answers (.navigate start) answer := by
  rintro ⟨-, unchanged⟩
  obtain ⟨-, flight, started⟩ := fetches
  rw [unchanged, alone] at started
  cases started

/-- A step forward does what the request for the next page comes to. -/
theorem next_of_nextRequest (lands : traffic.engine.flight = none)
    (more : traffic.engine.status.hasNext = true) (alone : traffic.outstanding = []) :
    (∀ failure, traffic.engine.nextRequest = .error failure →
        traffic.Answers (.navigate .next) (.raised failure)) ∧
      ∀ request, traffic.engine.nextRequest = .ok request → traffic.Fetches .next request := by
  have begins := Engine.loadNext_of_more lands more
  constructor
  · intro failure derived
    rw [derived] at begins
    exact answers_of_begin .next (.failed failure) begins (by simp)
  · intro request derived
    rw [derived] at begins
    exact fetches_of_begin .next alone begins

theorem next_of_last (last : traffic.engine.status.hasNext = false) :
    traffic.Answers (.navigate .next) .nothing :=
  answers_of_begin .next .none (Engine.loadNext_of_last last) (by simp)

/-- What a step forward can come to. -/
inductive Forward (traffic : Traffic) : Prop where
  | stays (last : traffic.engine.status.hasNext = false)
      (answers : traffic.Answers (.navigate .next) .nothing)
  | fails {info : OffsetPageInfo} (more : traffic.engine.status.hasNext = true)
      (seen : traffic.engine.pageInfo = some (.offset info)) (outside : info.OutOfRange)
      (answers : traffic.Answers (.navigate .next)
        (.raised (.invalid ⟨OffsetPagination.model, info.issues⟩)))
  | fetches {info : PageInfo} {request : Pagination}
      (more : traffic.engine.status.hasNext = true) (seen : traffic.engine.pageInfo = some info)
      (inside : ∀ numbers, info = .offset numbers → ¬ numbers.OutOfRange)
      (follows : info.Successor traffic.engine.request.limit? request)
      (fetches : traffic.Fetches .next request)

theorem Orderly.forward (orderly : traffic.Orderly) (lands : traffic.engine.flight = none) :
    traffic.Forward := by
  have alone := orderly.outstanding_eq_nil lands
  cases flag : traffic.engine.status.hasNext with
  | false => exact .stays flag (next_of_last flag)
  | true =>
      obtain ⟨fails, fetches⟩ := next_of_nextRequest lands flag alone
      have derives := traffic.engine.derives_nextRequest
      generalize traffic.engine.nextRequest = derived at fails fetches derives
      cases derives with
      | unseen unseen =>
          -- Around no page there are none.
          simp [Engine.status, Engine.availability, unseen] at flag
      | last seen last =>
          rw [flag] at last
          cases last
      | outside seen more outside => exact .fails more seen outside (fails _ rfl)
      | found seen more inside follows =>
          exact .fetches more seen inside follows (fetches _ rfl)

theorem Orderly.answers_nothing_iff (orderly : traffic.Orderly)
    (lands : traffic.engine.flight = none) :
    traffic.Answers (.navigate .next) .nothing ↔ traffic.engine.status.hasNext = false := by
  refine ⟨fun stays => ?_, next_of_last⟩
  cases orderly.forward lands with
  | stays last => exact last
  | fails more seen outside answers => cases stays.eq answers
  | fetches more seen inside follows fetches =>
      exact absurd stays (fetches.not_answers (orderly.outstanding_eq_nil lands))

theorem Orderly.answers_raised_iff (orderly : traffic.Orderly)
    (lands : traffic.engine.flight = none) (failure : Failure) :
    traffic.Answers (.navigate .next) (.raised failure) ↔
      traffic.engine.status.hasNext = true ∧
        ∃ info, traffic.engine.pageInfo = some (.offset info) ∧ info.OutOfRange ∧
          failure = .invalid ⟨OffsetPagination.model, info.issues⟩ := by
  constructor
  · intro raises
    cases orderly.forward lands with
    | stays last answers => cases raises.eq answers
    | fails more seen outside answers =>
        cases raises.eq answers
        exact ⟨more, _, seen, outside, rfl⟩
    | fetches more seen inside follows fetches =>
        exact absurd raises (fetches.not_answers (orderly.outstanding_eq_nil lands))
  · rintro ⟨more, info, seen, outside, rfl⟩
    cases orderly.forward lands with
    | stays last =>
        rw [more] at last
        cases last
    | fails _ found _ answers =>
        cases seen.symm.trans found
        exact answers
    | fetches _ found inside =>
        cases seen.symm.trans found
        exact absurd outside (inside info rfl)

/-- With a page by cursor, the step back goes by the history as the flag does. -/
theorem Orderly.back (orderly : traffic.Orderly) (lands : traffic.engine.flight = none)
    {info : CursorPageInfo} (seen : traffic.engine.pageInfo = some (.cursor info)) :
    (traffic.Answers (.navigate .previous)
        (.raised (.pagination (.noPreviousCursor info.currentCursor))) ↔
      traffic.engine.status.hasPrevious = false) ∧
    (traffic.engine.status.hasPrevious = true →
      ∃ previous, traffic.engine.cache.previous? info.currentCursor = some previous ∧
        traffic.Fetches .previous (.cursor ⟨some previous, traffic.engine.request.limit?⟩)) := by
  have alone := orderly.outstanding_eq_nil lands
  have shown : traffic.engine.status.hasPrevious =
      (traffic.engine.cache.previous? info.currentCursor).isSome := by
    simp only [Engine.status, Engine.availability, seen, PageInfo.availability]
  have begins := Engine.loadPrevious_of_cursor lands seen
  rw [Engine.previousRequest_of_cursor seen] at begins
  cases known : traffic.engine.cache.previous? info.currentCursor with
  | none =>
      simp only [known] at begins
      have answers := answers_of_begin .previous
        (.failed (.pagination (.noPreviousCursor info.currentCursor))) begins (by simp)
      rw [shown, known]
      exact ⟨iff_of_true answers rfl, nofun⟩
  | some previous =>
      simp only [known] at begins
      have fetches := fetches_of_begin .previous alone begins
      rw [shown, known]
      exact ⟨iff_of_false (fetches.not_answers alone) nofun, fun _ => ⟨previous, rfl, fetches⟩⟩

theorem answers_nextRequest_iff :
    traffic.Answers .nextRequest (.raised (.pagination .noNextPage)) ↔
      traffic.engine.pageInfo.isSome = true ∧ traffic.engine.status.hasNext = false := by
  have unchanged : traffic.step (.call .nextRequest) = traffic := by
    simp [step, afterCall, Engine.call, outing?]
  have derives := traffic.engine.derives_nextRequest
  simp only [Answers, unchanged, and_true, Engine.call]
  generalize traffic.engine.nextRequest = derived at derives
  cases derives with
  | unseen unseen => simp [CallAnswer.ofRequest, unseen]
  | last seen last => simp [CallAnswer.ofRequest, seen, last]
  | outside seen more => simp [CallAnswer.ofRequest, more]
  | found seen more => simp [CallAnswer.ofRequest, more]

/-- Whenever nothing is in flight, the flags of the pager agree with what navigation
does. -/
theorem flagsAgree_run (request : Pagination) (cache : CursorCache) (events : List TrafficEvent)
    (idle : ((opening request cache).run events).engine.state = .idle) :
    ((opening request cache).run events).FlagsAgree := by
  have orderly := orderly_run (orderly_opening request cache) events
  generalize (opening request cache).run events = traffic at idle orderly
  have lands := Engine.state_eq_idle_iff.mp idle
  refine ⟨orderly.answers_nothing_iff lands, orderly.answers_raised_iff lands, ?_, ?_,
    answers_nextRequest_iff⟩
  · intro more inside
    cases orderly.forward lands with
    | stays last =>
        rw [more] at last
        cases last
    | fails more seen outside => exact absurd outside (inside _ seen)
    | fetches more seen _ follows fetches => exact ⟨_, _, seen, follows, fetches⟩
  · intro byCursor page seen
    have mode := orderly.coherent page seen
    rw [byCursor] at mode
    cases page with
    | offset info => cases mode
    | cursor info => exact ⟨info, rfl, orderly.back lands seen⟩

/-- There are pages after the one with the number minus two, but the next one cannot be
asked for. -/
theorem flagsAgree_below_first :
    let below : PageInfo := .offset ⟨-2, 0, 20, 0, true⟩
    let traffic := (opening (.offset .first) (.empty none)).run [.call (.observe below)]
    traffic.engine.state = .idle ∧ traffic.FlagsAgree ∧
      traffic.engine.status.hasNext = true ∧
        traffic.Answers (.navigate .next)
          (.raised (.invalid ⟨OffsetPagination.model, [⟨[.field "page"], .belowMinimum⟩]⟩)) := by
  refine ⟨rfl, flagsAgree_run _ _ _ rfl, by decide, ?_⟩
  exact ((flagsAgree_run _ _ [.call (.observe (.offset ⟨-2, 0, 20, 0, true⟩))] rfl).fails_iff _).mpr
    ⟨by decide, _, rfl, Or.inr (by decide), rfl⟩

end Traffic
end CatalogQuery
