import CatalogQuery.Proofs.Command.Search
import CatalogQuery.Proofs.Command.Staying
import CatalogQuery.Proofs.Pagination.PagerFlags
import CatalogQuery.Proofs.Session.Place

/-!
# The pages of a run

A run asks for one page after the other.  What it does with an arrival depends on three
things only (`RunStep.Comes`): whether a page in its mode came, how many pages it has loaded,
and whether the description of the page names a next one.  From this follows, by induction
on what arrives, that a run sends no more requests than it is to load pages, prints every
page that it loads, and never asks for a page after one that has no next page
(`Run.pages_finish`).
-/

namespace CatalogQuery

open Outcome

/-- Whether there is a page after a described one. -/
def PageInfo.hasNext : PageInfo → Bool
  | offset info =>
      (if info.zeroBased then info.currentPage + 1 else info.currentPage) < info.totalPages
  | cursor info => info.nextCursor.isSome

/-- What is printed of the nodes of a page. -/
def Run.printedNodes (nodes : List Value) : String := Json.indented (.list nodes) ++ "\n"

/-- The page that came of a request, if one in the right mode came. -/
def Arrival.loaded? (base : Url) (mode : PaginationMode) (arrival : Arrival) :
    Option PageResponse :=
  match arrival.page base with
  | .ok page => if page.pageInfo.mode = mode then some page else none
  | .error _ => none

theorem Arrival.mode_of_loaded {base : Url} {mode : PaginationMode} {arrival : Arrival}
    {page : PageResponse} (loaded : arrival.loaded? base mode = some page) :
    page.pageInfo.mode = mode := by
  unfold loaded? at loaded
  split at loaded
  · split at loaded
    · next same =>
        cases loaded
        exact same
    · cases loaded
  · cases loaded

/-- The page after a page is asked for in the mode of that page. -/
theorem PageInfo.Successor.mode_eq {limit : Option Count} {info : PageInfo} {next : Pagination}
    (follows : info.Successor limit next) : next.mode = info.mode := by
  cases follows <;> rfl

theorem PageInfo.hasNext_availability (info : PageInfo) (cache : CursorCache) :
    (info.availability cache).hasNext = info.hasNext := by
  cases info <;> rfl

/-! ## What a run prints -/

theorem Report.output_dropped (entity : Entity) (dropped : List QueryOrder) (report : Report) :
    (dropped.foldl (Report.recordDropped entity) report).output = report.output := by
  induction dropped generalizing report with
  | nil => rfl
  | cons first rest ih => exact ih _

namespace Run

theorem output_printPage (page : PageResponse) (run : Run) :
    (run.printPage page).report.output = run.report.output ++ Run.printedNodes page.nodes :=
  String.append_assoc

theorem exists_fail_eq (failure : Failure) (run : Run) :
    ∃ report : Report, run.fail failure = .ended report failure ∧
      report.output = run.report.output := by
  unfold fail
  split <;> exact ⟨_, rfl, rfl⟩

end Run

/-! ## Requests for a page -/

/-- What a navigation to a page of a search comes to: a request for the page, or a failure
that does not end the command. -/
inductive Session.AsksFor (parts : SessionParts) (pinned : SearchBody) (goal : Pagination) :
    Started → Prop where
  | sent {session : Session} {dropped : List QueryOrder} {commits : Bool} {request : Request}
      (made : Request.ofAsk parts.setup.base parts.setup.token
        (.search (pinned.withQuery goal)) = .ok request)
      (holds : session.Holds parts) :
      AsksFor parts pinned goal ⟨session, dropped, .sending ⟨parts.generation, commits⟩ request⟩
  | unmade {session : Session} {dropped : List QueryOrder} {failure : Failure}
      (stays : ∀ code, failure ≠ .exit code) :
      AsksFor parts pinned goal ⟨session, dropped, .ended (.error failure)⟩

namespace Session

variable {session : Session} {parts : SessionParts}

/-- A navigation that failed does not end the command, unless what arrived does. -/
theorem stays_fail (session : Session) (arrival : Arrival) {failure : Failure}
    (stays : ∀ code, failure ≠ .exit code) : Stays (session.fail arrival failure).2 := by
  have shown : Stays (arrival.shownError session.setup.entity failure) := by
    unfold Arrival.shownError
    split
    · exact (ApiError.stays_ofResponse _ _).map _
    · exact nofun
    · exact nofun
  have failed : Stays (.error failure : Outcome (Option PageResponse)) :=
    fun code same => stays code (Except.error.inj same)
  unfold fail
  split
  · exact failed
  · exact failed
  · next other made =>
      rw [made] at shown
      exact shown.error

namespace Holds

theorem stays_arrive (holds : session.Holds parts) {voyage : Voyage}
    (current : voyage.generation = parts.generation) {arrival : Arrival} {landed : Engine}
    {failure : Failure}
    (lands : parts.engine.land (arrival.page parts.setup.base) = (landed, .error failure))
    (stays : ∀ code, failure ≠ .exit code) : Stays (session.arrive voyage arrival).2 := by
  rw [← holds.setup_eq] at lands
  simp only [arrive, holds.engineOf?_eq current, lands]
  exact stays_fail _ arrival stays

theorem asksFor_navigate (holds : session.Holds parts)
    (searches : parts.store.state.mode = .body) {pinned : SearchBody}
    (compiled : parts.body = some pinned) {start : Engine → Engine × Departure}
    {departed : Engine} {goal : Pagination}
    (departs : start parts.engine = (departed, .fetching goal)) {flight : Flight}
    (flies : departed.flight = some flight) (commits : Bool) :
    Session.AsksFor { parts with engine := departed } pinned goal
      (session.navigate commits start) := by
  have aloft := holds.withEngine departed
  obtain ⟨view, shown, opened, _, stored⟩ := holds.exists_view
  have asked : (session.withEngine departed).ask view goal =
      (session.withEngine departed, [], .search (pinned.withQuery goal)) := by
    simp [ask, stored, searches, aloft.body_eq, compiled]
  simp only [navigate, requireView_of_view shown, holds.requireEngine_eq, departs, asked,
    aloft.setup_eq, opened]
  cases made : Request.ofAsk parts.setup.base parts.setup.token
      (.search (pinned.withQuery goal)) with
  | ok request => exact .sent made aloft
  | error failure =>
      have unsent := Request.stays_ofAsk_search parts.setup.base parts.setup.token
        (pinned.withQuery goal)
      have lands : departed.land ((Arrival.failed failure).page parts.setup.base) =
          (departed.rolledBack flight, .error failure) := Engine.land_of_error flies failure
      let voyage : Voyage := ⟨parts.generation, commits⟩
      have current : voyage.generation = parts.generation := rfl
      obtain ⟨_, reported, answer⟩ := aloft.arrive_of_error current lands
      have stays := aloft.stays_arrive current lands fun code same =>
        unsent code (by rw [made, same])
      rw [answer] at stays
      simp only [voyage] at answer
      simp only [answer]
      exact .unmade fun code same => stays code (by rw [same])

theorem navigate_of_failed (holds : session.Holds parts)
    {start : Engine → Engine × Departure} {failure : Failure}
    (fails : start parts.engine = (parts.engine, .failed failure)) (commits : Bool) :
    session.navigate commits start = ⟨session, [], .ended (.error failure)⟩ := by
  obtain ⟨view, shown, _, _, _⟩ := holds.exists_view
  simp only [navigate, requireView_of_view shown, holds.requireEngine_eq, fails]

end Holds
end Session

/-! ## Steps -/

/-- A run that is to load a number of pages and waits for one of them. -/
structure Run.Awaits (setup : SessionSetup) (pinned : SearchBody) (pages : Int)
    (goal : Pagination) (run : Run) (voyage : Voyage) (request : Request) : Prop where
  exists_flight : ∃ (parts : SessionParts) (flight : Flight), run.session.Holds parts ∧
    parts.Searches setup pinned ∧ parts.engine.flight = some flight ∧
      parts.engine.request = goal ∧ voyage.generation = parts.generation
  silent : run.session.Silent
  given : run.arguments.pages.get? = some pages
  made : Request.ofAsk setup.base setup.token (.search (pinned.withQuery goal)) = .ok request

/-- A step of a run after some pages were printed: it waits for another page, or it has
failed. -/
inductive RunStep.Departs (setup : SessionSetup) (pinned : SearchBody) (pages : Int)
    (goal : Pagination) (fetched : Nat) (output : String) : RunStep → Prop where
  | waits {run : Run} {voyage : Voyage} {request : Request}
      (awaits : run.Awaits setup pinned pages goal voyage request) (counted : run.fetched = fetched)
      (printed : run.report.output = output) :
      Departs setup pinned pages goal fetched output (.waiting run voyage request)
  | fails {report : Report} {failure : Failure} (printed : report.output = output)
      (stays : ∀ code, failure ≠ .exit code) :
      Departs setup pinned pages goal fetched output (.ended report failure)

/-- What comes of a request in a run that has printed some pages. -/
inductive RunStep.Comes (setup : SessionSetup) (pinned : SearchBody) (pages : Int)
    (goal : Pagination) (fetched : Nat) (output : String) (arrival : Arrival) :
    RunStep → Prop where
  /-- No page in the right mode came. -/
  | lost {report : Report} {failure : Failure}
      (lost : arrival.loaded? setup.base goal.mode = none) (printed : report.output = output)
      (stays : (∀ code, arrival ≠ .failed (.exit code)) → ∀ code, failure ≠ .exit code) :
      Comes setup pinned pages goal fetched output arrival (.ended report failure)
  /-- All pages were loaded. -/
  | done {page : PageResponse} {report : Report}
      (loaded : arrival.loaded? setup.base goal.mode = some page)
      (enough : pages ≤ fetched + 1 ∨ page.pageInfo.hasNext = false)
      (printed : report.output = output ++ Run.printedNodes page.nodes) :
      Comes setup pinned pages goal fetched output arrival (.ended report (.exit 0))
  /-- There is a next page, but its number is none that a request can have. -/
  | stuck {page : PageResponse} {report : Report} {failure : Failure}
      (loaded : arrival.loaded? setup.base goal.mode = some page)
      (printed : report.output = output ++ Run.printedNodes page.nodes)
      (stays : ∀ code, failure ≠ .exit code) :
      Comes setup pinned pages goal fetched output arrival (.ended report failure)
  | onward {page : PageResponse} {next : Pagination} {step : RunStep}
      (loaded : arrival.loaded? setup.base goal.mode = some page)
      (more : (fetched : Int) + 1 < pages) (hasNext : page.pageInfo.hasNext = true)
      (follows : page.pageInfo.Successor goal.limit? next)
      (departs : step.Departs setup pinned pages next (fetched + 1)
        (output ++ Run.printedNodes page.nodes)) :
      Comes setup pinned pages goal fetched output arrival step

namespace Run

variable {setup : SessionSetup} {pinned : SearchBody} {pages : Int} {goal : Pagination}

theorem exists_follow_of_failed (after : PageResponse → Run → RunStep) (session : Session)
    (dropped : List QueryOrder) (failure : Failure) (run : Run) :
    ∃ report : Report,
      follow after ⟨session, dropped, .ended (.error failure)⟩ run = .ended report failure ∧
        report.output = run.report.output := by
  obtain ⟨report, failed, printed⟩ := exists_fail_eq failure
    { run with
      session
      report := dropped.foldl (Report.recordDropped run.arguments.entity) run.report }
  exact ⟨report, failed, printed.trans (Report.output_dropped _ _ _)⟩

theorem departs_follow {parts : SessionParts} {flight : Flight} {started : Started}
    (searches : parts.Searches setup pinned) (flies : parts.engine.flight = some flight)
    (asked : parts.engine.request = goal) (asks : Session.AsksFor parts pinned goal started)
    (silent : started.session.Silent) (after : PageResponse → Run → RunStep) {run : Run}
    (given : run.arguments.pages.get? = some pages) :
    (follow after started run).Departs setup pinned pages goal run.fetched
      run.report.output := by
  cases asks with
  | sent made holds =>
      rw [searches.setup_eq] at made
      exact .waits ⟨⟨parts, flight, holds, searches, flies, asked, rfl⟩, silent, given, made⟩ rfl
        (Report.output_dropped _ _ _)
  | @unmade session dropped failure stays =>
      obtain ⟨report, failed, printed⟩ := exists_follow_of_failed after session dropped failure run
      rw [failed]
      exact .fails printed stays

theorem goesOn_eq {run : Run} {parts : SessionParts} (holds : run.session.Holds parts)
    {info : PageInfo} (seen : parts.engine.pageInfo = some info) (pages : Int) :
    run.goesOn pages = (decide ((run.fetched : Int) < pages) && info.hasNext) := by
  have flag : parts.engine.status.hasNext = info.hasNext := by
    rw [Engine.hasNext_eq seen, info.hasNext_availability]
  simp [goesOn, Session.status, holds.requireEngine_eq, flag, bind, Except.bind]

/-- After a page with a next one that page is asked for, unless its number is none that a
request can have. -/
theorem departs_loadNext {run : Run} {parts : SessionParts} {info : PageInfo}
    (holds : run.session.Holds parts) (silent : run.session.Silent)
    (searches : parts.Searches setup pinned) (grounded : parts.engine.flight = none)
    (seen : parts.engine.pageInfo = some info) (hasNext : info.hasNext = true)
    (given : run.arguments.pages.get? = some pages) :
    let step := follow (fun _ run => run.succeed) run.session.loadNext run
    (∃ report failure, step = .ended report failure ∧ report.output = run.report.output ∧
        ∀ code, failure ≠ .exit code) ∨
      ∃ next, info.Successor parts.engine.request.limit? next ∧
        step.Departs setup pinned pages next run.fetched run.report.output := by
  intro step
  have flag : parts.engine.status.hasNext = true := by
    rw [Engine.hasNext_eq seen, info.hasNext_availability, hasNext]
  have begins := Engine.loadNext_of_more grounded flag
  have derives := parts.engine.derives_nextRequest
  generalize parts.engine.nextRequest = derived at begins derives
  cases derives with
  | unseen unseen =>
      rw [seen] at unseen
      cases unseen
  | last _ last =>
      rw [flag] at last
      cases last
  | @outside described =>
      let failure : Failure := .invalid ⟨OffsetPagination.model, described.issues⟩
      have fails : run.session.loadNext = ⟨run.session, [], .ended (.error failure)⟩ :=
        holds.navigate_of_failed begins true
      obtain ⟨report, failed, same⟩ :=
        exists_follow_of_failed (fun _ run => run.succeed) run.session [] failure run
      have stays (code : Nat) : failure ≠ .exit code := Failure.noConfusion
      exact Or.inl ⟨report, failure, by simp only [step, fails, failed], same, stays⟩
  | found known _ _ follows =>
      obtain rfl := Option.some.inj (known.symm.trans seen)
      have after_silent : run.session.loadNext.session.Silent :=
        silent.of_continues (Session.continues_begin holds.showsOnly (.turn .next))
      have asks := holds.asksFor_navigate searches.mode_eq searches.body_eq begins rfl true
      exact Or.inr ⟨_, follows, departs_follow (searches.moved _ searches.mode_eq) rfl rfl asks
        after_silent (fun _ run => run.succeed) given⟩

theorem comes_afterPage {run : Run} {parts : SessionParts} {page : PageResponse}
    {arrival : Arrival} (holds : run.session.Holds parts) (silent : run.session.Silent)
    (searches : parts.Searches setup pinned) (grounded : parts.engine.flight = none)
    (asked : parts.engine.request = goal) (seen : parts.engine.pageInfo = some page.pageInfo)
    (given : run.arguments.pages.get? = some pages)
    (loaded : arrival.loaded? setup.base goal.mode = some page) :
    (run.afterPage page).Comes setup pinned pages goal run.fetched run.report.output arrival := by
  have output := run.output_printPage page
  have counted : (run.printPage page).fetched = run.fetched + 1 := rfl
  have held : (run.printPage page).session.Holds parts := holds
  have still : (run.printPage page).session.Silent := silent
  have told : (run.printPage page).arguments.pages.get? = some pages := given
  simp only [afterPage]
  generalize run.printPage page = printed at output counted held still told
  simp only [told, goesOn_eq held seen]
  split
  · next goes =>
      obtain ⟨more, hasNext⟩ : (printed.fetched : Int) < pages ∧ page.pageInfo.hasNext = true := by
        simpa using goes
      rcases departs_loadNext held still searches grounded seen hasNext told with
        ⟨report, failure, ended, same, stays⟩ | ⟨next, follows, departs⟩
      · rw [ended]
        exact .stuck loaded (same.trans output) stays
      · rw [counted, output] at departs
        rw [asked] at follows
        exact .onward loaded (by omega) hasNext follows departs
  · next stops =>
      refine .done loaded ?_ output
      by_cases more : (printed.fetched : Int) < pages
      · exact Or.inr (by simpa [more] using stops)
      · exact Or.inl (by omega)

theorem comes_lost {run : Run} {parts : SessionParts} {voyage : Voyage} {arrival : Arrival}
    {landed : Engine} {failure : Failure} (holds : run.session.Holds parts)
    (current : voyage.generation = parts.generation)
    (lands : parts.engine.land (arrival.page parts.setup.base) = (landed, .error failure))
    (lost : arrival.loaded? setup.base goal.mode = none)
    (stays : (∀ code, arrival ≠ .failed (.exit code)) → ∀ code, failure ≠ .exit code) :
    (run.resume voyage arrival).Comes setup pinned pages goal run.fetched run.report.output
      arrival := by
  obtain ⟨-, reported, answer⟩ := holds.arrive_of_error current lands
  obtain ⟨report, failed, printed⟩ :=
    exists_fail_eq reported { run with session := (run.session.arrive voyage arrival).1 }
  simp only [resume, answer, failed]
  refine .lost lost printed fun alive code same => ?_
  have arrives := holds.stays_arrive current lands (stays alive)
  exact arrives code (by rw [answer, same])

/-- What comes of a request decides how the run goes on. -/
theorem comes_resume {run : Run} {voyage : Voyage} {request : Request}
    (awaits : run.Awaits setup pinned pages goal voyage request) (arrival : Arrival) :
    (run.resume voyage arrival).Comes setup pinned pages goal run.fetched run.report.output
      arrival := by
  obtain ⟨⟨parts, flight, holds, searches, flies, asked, current⟩, silent, given, made⟩ := awaits
  have base := congrArg SessionSetup.base searches.setup_eq
  cases arrived : arrival.page parts.setup.base with
  | error failure =>
      refine comes_lost holds current (by rw [arrived, Engine.land_of_error flies]) ?_ ?_
      · rw [← base, Arrival.loaded?, arrived]
      · intro alive code same
        exact Arrival.stays_page parts.setup.base alive code (by rw [arrived, same])
  | ok page =>
      have loaded : arrival.loaded? setup.base goal.mode =
          if page.pageInfo.mode = goal.mode then some page else none := by
        rw [← base, Arrival.loaded?, arrived]
      rw [← asked] at loaded
      by_cases same : page.pageInfo.mode = parts.engine.request.mode
      · have lands : parts.engine.land (arrival.page parts.setup.base) =
            (parts.engine.arrived flight page.pageInfo, .ok page) := by
          rw [arrived, Engine.land_of_page flies same]
        obtain ⟨answer, after_silent, store, after, goes_on⟩ :=
          silent.arrives holds searches current lands
        rw [if_pos same, asked] at loaded
        let moved : Run := { run with session := (run.session.arrive voyage arrival).1 }
        have proceeds : (moved.afterPage page).Comes setup pinned pages goal moved.fetched
            moved.report.output arrival :=
          comes_afterPage after after_silent goes_on rfl asked rfl given loaded
        simp only [resume, answer]
        exact proceeds
      · rw [if_neg same, asked] at loaded
        exact comes_lost holds current (by rw [arrived, Engine.land_of_mismatch flies same])
          loaded fun _ _ same => by cases same

/-! ## Runs -/

/-- The page that was loaded at a place. -/
def loadedAt (loads : Arrival → Option PageResponse) (arrivals : List Arrival) (place : Nat) :
    Option PageResponse :=
  arrivals[place]?.bind loads

/-- The pages that were loaded with the requests that were sent. -/
def loadedPages (loads : Arrival → Option PageResponse) (arrivals : List Arrival)
    (finished : Finished) : List PageResponse :=
  (arrivals.take finished.requests.length).filterMap loads

/-- What a run that waits for a page comes to, with the number of pages that it is yet to
load and what it has printed before. -/
structure Pages (loads : Arrival → Option PageResponse) (remaining : Int) (output : String)
    (arrivals : List Arrival) (finished : Finished) : Prop where
  bounded : (finished.requests.length : Int) ≤ max 1 remaining
  printed : finished.report.output =
    output ++
      String.join ((loadedPages loads arrivals finished).map fun page => printedNodes page.nodes)
  /-- After each request but the last a page was loaded, and one with a next page. -/
  onward : ∀ place, place + 1 < finished.requests.length →
    ∃ page, loadedAt loads arrivals place = some page ∧ page.pageInfo.hasNext = true
  /-- Without an error, and if no exit arrived in the place of an answer, a run ends when there
  is nothing left to load. -/
  complete : finished.result = .exit 0 → (∀ code, Arrival.failed (.exit code) ∉ arrivals) →
    ∃ last page, finished.requests.length = last + 1 ∧
      loadedAt loads arrivals last = some page ∧
        (remaining ≤ last + 1 ∨ page.pageInfo.hasNext = false)

namespace Pages

variable {loads : Arrival → Option PageResponse} {remaining : Int} {output : String}
  {arrivals : List Arrival} {report : Report} {result : Failure}

/-- A run that has failed sends nothing more. -/
theorem of_failed (printed : report.output = output) (stays : ∀ code, result ≠ .exit code) :
    Pages loads remaining output arrivals ⟨report, result, []⟩ where
  bounded := by
    change (0 : Int) ≤ max 1 remaining
    omega
  printed := by simp [loadedPages, printed]
  onward place more := by simp at more
  complete ends _ := absurd ends (stays 0)

/-- A run that ends with what comes of one request. -/
theorem of_single (request : Request)
    (printed : report.output = output ++
      String.join ((loadedAt loads arrivals 0).toList.map fun page => printedNodes page.nodes))
    (complete : result = .exit 0 → (∀ code, Arrival.failed (.exit code) ∉ arrivals) →
      ∃ page, loadedAt loads arrivals 0 = some page ∧
        (remaining ≤ 1 ∨ page.pageInfo.hasNext = false)) :
    Pages loads remaining output arrivals ⟨report, result, [request]⟩ where
  bounded := Int.le_max_left 1 remaining
  printed := by
    have loaded : loadedPages loads arrivals ⟨report, result, [request]⟩ =
        (loadedAt loads arrivals 0).toList := by
      cases arrivals with
      | nil => rfl
      | cons arrival rest =>
          cases arrived : loads arrival <;> simp [loadedPages, loadedAt, arrived]
    rw [loaded, printed]
  onward place more := by simp at more
  complete ends alive := by
    obtain ⟨page, loaded, enough⟩ := complete ends alive
    exact ⟨0, page, rfl, loaded, by simpa using enough⟩

/-- A page with a next one comes before the pages of the rest of a run. -/
theorem cons {arrival : Arrival} {page : PageResponse} {finished : Finished} (request : Request)
    (loaded : loads arrival = some page) (more : 1 < remaining)
    (hasNext : page.pageInfo.hasNext = true)
    (pages : Pages loads (remaining - 1) (output ++ printedNodes page.nodes) arrivals finished) :
    Pages loads remaining output (arrival :: arrivals)
      { finished with requests := request :: finished.requests } where
  bounded := by
    have bounded := pages.bounded
    simp only [List.length_cons]
    omega
  printed := by
    have first : loadedPages loads (arrival :: arrivals)
        { finished with requests := request :: finished.requests } =
          page :: loadedPages loads arrivals finished := by
      simp [loadedPages, loaded]
    rw [pages.printed, first, List.map_cons, String.join_cons, String.append_assoc]
  onward place within := by
    cases place with
    | zero => exact ⟨page, loaded, hasNext⟩
    | succ place => exact pages.onward place (by simpa using within)
  complete ends alive := by
    obtain ⟨last, page, counted, loaded, enough⟩ := pages.complete ends fun code member =>
      alive code (List.mem_cons_of_mem _ member)
    refine ⟨last + 1, page, by simp [counted], loaded, enough.imp_left fun few => ?_⟩
    omega

end Pages

/-- Where a run is after what arrived. -/
def advance : List Arrival → RunStep → RunStep
  | arrival :: rest, .waiting run voyage _ => advance rest (run.resume voyage arrival)
  | _, step => step

theorem finish_ended (arrivals : List Arrival) (report : Report) (result : Failure) :
    finish arrivals (.ended report result) = ⟨report, result, []⟩ := by
  rw [finish]

/-- A run all of whose requests were answered has ended. -/
theorem advance_of_answered {arrivals : List Arrival} {step : RunStep}
    (answered : (finish arrivals step).requests.length ≤ arrivals.length) :
    advance arrivals step =
      .ended (finish arrivals step).report (finish arrivals step).result := by
  induction arrivals generalizing step with
  | nil =>
      cases step with
      | ended report result => rfl
      | waiting run voyage request =>
          rw [finish] at answered
          cases after : run.resume voyage (.failed (.network (.broken .connect))) <;>
            simp [after] at answered
  | cons arrival rest ih =>
      cases step with
      | ended report result => rfl
      | waiting run voyage request =>
          rw [finish] at answered ⊢
          exact ih (Nat.le_of_succ_le_succ answered)

/-- A run that waits for a page loads no more than it is to, prints what it loads, and ends
after the first page without a next one. -/
theorem pages_finish {fetched : Nat} {output : String} {step : RunStep}
    (departs : step.Departs setup pinned pages goal fetched output) (arrivals : List Arrival) :
    Pages (Arrival.loaded? setup.base goal.mode) (pages - fetched) output arrivals
      (finish arrivals step) := by
  induction arrivals generalizing step goal fetched output with
  | nil =>
      cases departs with
      | fails printed stays => exact .of_failed printed stays
      | @waits run voyage request awaits counted printed =>
          have comes := comes_resume awaits (.failed (.network (.broken .connect)))
          rw [finish]
          generalize run.resume voyage (.failed (.network (.broken .connect))) = step at comes
          -- Nothing arrives any more, so no page was loaded.
          cases comes with
          | lost lost same stays =>
              have alive (code : Nat) : Arrival.failed (.network (.broken .connect)) ≠
                  .failed (.exit code) := by
                intro same
                cases same
              refine .of_single request ?_ fun ends _ => absurd ends (stays alive 0)
              rw [same, printed]
              simp [loadedAt]
          | done loaded => cases loaded
          | stuck loaded => cases loaded
          | onward loaded => cases loaded
  | cons arrival rest ih =>
      cases departs with
      | fails printed stays => exact .of_failed printed stays
      | @waits run voyage request awaits counted printed =>
          have comes := comes_resume awaits arrival
          rw [counted, printed] at comes
          rw [finish]
          generalize run.resume voyage arrival = step at comes
          have here : loadedAt (Arrival.loaded? setup.base goal.mode) (arrival :: rest) 0 =
              arrival.loaded? setup.base goal.mode := rfl
          cases comes with
          | lost lost printed stays =>
              rw [finish_ended]
              refine .of_single request ?_ fun ends alive => ?_
              · rw [printed, here, lost]
                simp
              · exact absurd ends <|
                  stays (fun code same => alive code (same ▸ List.mem_cons_self)) 0
          | @done page _ loaded enough printed =>
              rw [finish_ended]
              refine .of_single request ?_ fun _ _ => ⟨page, here.trans loaded, ?_⟩
              · rw [printed, here, loaded]
                simp
              · exact enough.imp_left fun few => by omega
          | @stuck page _ _ loaded printed stays =>
              rw [finish_ended]
              refine .of_single request ?_ fun ends _ => absurd ends (stays 0)
              rw [printed, here, loaded]
              simp
          | @onward page next step loaded more hasNext follows departs =>
              have mode : next.mode = goal.mode :=
                follows.mode_eq.trans (Arrival.mode_of_loaded loaded)
              have rest_pages := ih departs
              rw [mode] at rest_pages
              refine .cons request loaded (by omega) hasNext ?_
              have counts : pages - ((fetched + 1 : Nat) : Int) = pages - fetched - 1 := by omega
              rwa [← counts]

end Run

end CatalogQuery
