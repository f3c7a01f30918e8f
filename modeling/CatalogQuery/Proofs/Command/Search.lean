import CatalogQuery.Command.Run
import CatalogQuery.Proofs.Session.Continuation
import CatalogQuery.Proofs.Session.PinnedBody
import CatalogQuery.Proofs.Session.Replay

/-!
# The search of a run

A run reads its filter once, and what goes into the store of its session are the groups of
the filter.  All requests of a run then search for what these groups and the orders are
compiled to (`RunStep.Sends`), and the word that joins the groups is read and checked, but
has no part in anything that a run sends, prints or reports (`joiner_never_sent`).
-/

namespace CatalogQuery

namespace Run

/-- A run that was given another text for its filter. -/
def withFilterText (text : OptionValue String) (run : Run) : Run :=
  { run with arguments := { run.arguments with filterJson := text } }

/-- A run whose session has just been opened. -/
def opened (settings : Settings) (arguments : Arguments) : Outcome Run := do
  let pagination ← firstPage settings arguments
  let session ← openSession settings arguments pagination
  let report := Report.empty.record .debug "services.list_view"
    ("Opened " ++ arguments.entity.name ++ " list view (body mode)")
  .ok ⟨arguments, session, 0, report⟩

/-- The first step of a run for a filter. -/
def search (filter : Option SmartFilter) (run : Run) : RunStep :=
  match run.withSearch filter with
  | .error failure => run.fail failure
  | .ok run => follow afterPage run.session.refresh run

/-- The first step of a run whose filter was read. -/
def begin (settings : Settings) (arguments : Arguments) (filter : Option SmartFilter) : RunStep :=
  match opened settings arguments with
  | .error failure => .ended .empty failure
  | .ok run => run.search filter

end Run

/-- A step of a run that was given another text for its filter. -/
def RunStep.withFilterText (text : OptionValue String) : RunStep → RunStep
  | ended report result => ended report result
  | waiting run voyage request => waiting (run.withFilterText text) voyage request

namespace Run

variable (text : OptionValue String)

theorem follow_withFilterText {after : PageResponse → Run → RunStep}
    (carries : ∀ page run, after page (run.withFilterText text) =
      (after page run).withFilterText text) (started : Started) (run : Run) :
    follow after started (run.withFilterText text) =
      (follow after started run).withFilterText text := by
  unfold follow
  cases started.progress with
  | sending voyage request => rfl
  | ended answer =>
      cases answer with
      | error failure => rfl
      | ok page =>
          cases page with
          | none => rfl
          | some page =>
              exact carries page
                { run with
                  session := started.session
                  report :=
                    started.dropped.foldl (Report.recordDropped run.arguments.entity) run.report }

theorem afterPage_withFilterText (page : PageResponse) (run : Run) :
    (run.withFilterText text).afterPage page = (run.afterPage page).withFilterText text := by
  have printed : (run.withFilterText text).printPage page =
      (run.printPage page).withFilterText text := rfl
  simp only [afterPage, printed]
  generalize run.printPage page = run
  cases given : run.arguments.pages.get? with
  | none =>
      have unread : (run.withFilterText text).arguments.pages.get? = none := given
      rw [unread]
      rfl
  | some pages =>
      have read : (run.withFilterText text).arguments.pages.get? = some pages := given
      have goes : (run.withFilterText text).goesOn pages = run.goesOn pages := rfl
      simp only [read, goes]
      split
      · exact follow_withFilterText text (fun _ _ => rfl) _ run
      · rfl

theorem resume_withFilterText (voyage : Voyage) (arrival : Arrival) (run : Run) :
    (run.withFilterText text).resume voyage arrival =
      (run.resume voyage arrival).withFilterText text := by
  simp only [resume]
  have same : (run.withFilterText text).session = run.session := rfl
  rw [same]
  cases (run.session.arrive voyage arrival).2 with
  | error failure => rfl
  | ok page =>
      cases page with
      | none => rfl
      | some page =>
          exact afterPage_withFilterText text page
            { run with session := (run.session.arrive voyage arrival).1 }

/-- What a run comes to is found without a look at the text of its filter. -/
theorem finish_withFilterText (arrivals : List Arrival) (step : RunStep) :
    finish arrivals (step.withFilterText text) = finish arrivals step := by
  induction arrivals generalizing step with
  | nil =>
      cases step with
      | ended report result => rfl
      | waiting run voyage request =>
          change finish [] (.waiting (run.withFilterText text) voyage request) = _
          rw [finish, finish, resume_withFilterText]
          cases run.resume voyage (.failed (.network (.broken .connect))) <;> rfl
  | cons arrival rest ih =>
      cases step with
      | ended report result => rfl
      | waiting run voyage request =>
          change finish (arrival :: rest) (.waiting (run.withFilterText text) voyage request) = _
          rw [finish, finish, resume_withFilterText, ih]

theorem search_withFilterText (filter : Option SmartFilter) (run : Run) :
    (run.withFilterText text).search filter = (run.search filter).withFilterText text := by
  have sought : (run.withFilterText text).withSearch filter =
      (run.withSearch filter).map (withFilterText text) := by
    have ordered : orderingOf (run.withFilterText text).arguments = orderingOf run.arguments := rfl
    have same : (run.withFilterText text).session = run.session := rfl
    simp only [withSearch, ordered, same]
    cases orderingOf run.arguments with
    | error failure => rfl
    | ok ordering =>
        simp only [bind, Except.bind]
        generalize run.session.updateStore _ = updated
        obtain ⟨session, patched⟩ := updated
        cases patched <;> rfl
  unfold search
  rw [sought]
  cases run.withSearch filter with
  | error failure => rfl
  | ok run => exact follow_withFilterText text (afterPage_withFilterText text) _ run

theorem setUp_eq {settings : Settings} {arguments : Arguments} {filter : Option SmartFilter}
    (read : filterOf arguments = .ok filter) :
    setUp settings arguments = (opened settings arguments).map (·, filter) := by
  simp only [setUp, read, opened]
  cases firstPage settings arguments with
  | error failure => rfl
  | ok pagination =>
      simp only [bind, Except.bind]
      cases openSession settings arguments pagination <;> rfl

theorem startWith_eq {settings : Settings} {arguments : Arguments} {filter : Option SmartFilter}
    (read : filterOf arguments = .ok filter) :
    startWith settings arguments = begin settings arguments filter := by
  rw [startWith, setUp_eq read, begin]
  cases opened settings arguments <;> rfl

theorem opened_withFilterText (settings : Settings) (arguments : Arguments) :
    opened settings { arguments with filterJson := text } =
      (opened settings arguments).map (withFilterText text) := by
  have paged : firstPage settings { arguments with filterJson := text } =
      firstPage settings arguments := rfl
  have opens (pagination : Pagination) :
      openSession settings { arguments with filterJson := text } pagination =
        openSession settings arguments pagination := rfl
  simp only [opened, paged, opens]
  cases firstPage settings arguments with
  | error failure => rfl
  | ok pagination =>
      simp only [bind, Except.bind]
      cases openSession settings arguments pagination <;> rfl

theorem finish_startWith {settings : Settings} {arguments : Arguments}
    {filter : Option SmartFilter}
    (read : filterOf { arguments with filterJson := text } = .ok filter)
    (arrivals : List Arrival) :
    finish arrivals (startWith settings { arguments with filterJson := text }) =
      finish arrivals (begin settings arguments filter) := by
  rw [startWith_eq read, begin, begin, opened_withFilterText]
  cases opened settings arguments with
  | error failure => rfl
  | ok run =>
      simp only [Except.map]
      rw [search_withFilterText, finish_withFilterText]

theorem search_congr {filter other : SmartFilter} (same : filter.groups = other.groups)
    (run : Run) : run.search (some filter) = run.search (some other) := by
  simp only [search, withSearch, Option.map_some, same]

end Run

/-- A session none of whose stores has listeners. -/
def Session.Silent (session : Session) : Prop :=
  ∀ view ∈ session.view, view.store.listeners = []

namespace Session

variable {session : Session}

theorem Silent.quiet (silent : session.Silent) : session.Quiet := by
  intro view shown listener member
  simp [silent view shown] at member

theorem Silent.of_continues {after : Session} {opening : Nat} (silent : session.Silent)
    (continues : session.Continues opening after) : after.Silent := by
  have turned (store : Store) (pages : List Pagination) (bare : store.listeners = []) :
      (store.turned pages).listeners = [] := by
    induction pages generalizing store with
    | nil => exact bare
    | cons page rest ih => exact ih _ (Store.listeners_apply bare (.setPagination page))
  intro view shown
  obtain ⟨old, there, same⟩ := continues.exists_before shown
  obtain ⟨pages, store⟩ := same.turned
  rw [store]
  exact turned old.store pages (silent old there)

theorem Holds.showsOnly {parts : SessionParts} (holds : session.Holds parts) :
    session.ShowsOnly parts.generation := by
  obtain ⟨view, shown, opened, -, -⟩ := holds.exists_view
  intro other also
  rw [← opened, Option.some.inj (shown.symm.trans (Option.mem_def.mp also))]

end Session

/-- A session that is open in body mode, with a compiled search. -/
structure SessionParts.Searches (setup : SessionSetup) (pinned : SearchBody)
    (parts : SessionParts) : Prop where
  setup_eq : parts.setup = setup
  body_eq : parts.body = some pinned
  mode_eq : parts.store.state.mode = .body

theorem SessionParts.Searches.moved {setup : SessionSetup} {pinned : SearchBody}
    {parts : SessionParts} (searches : parts.Searches setup pinned) (engine : Engine)
    {store : Store} (mode : store.state.mode = .body) :
    Searches setup pinned { parts with engine, store } :=
  ⟨searches.setup_eq, searches.body_eq, mode⟩

/-- A page that arrives leaves the session silent, and in its search. -/
theorem Session.Silent.arrives {session : Session} {parts : SessionParts} {setup : SessionSetup}
    {pinned : SearchBody} (silent : session.Silent) (holds : session.Holds parts)
    (searches : parts.Searches setup pinned) {voyage : Voyage}
    (current : voyage.generation = parts.generation) {arrival : Arrival} {landed : Engine}
    {page : PageResponse}
    (lands : parts.engine.land (arrival.page parts.setup.base) = (landed, .ok page)) :
    (session.arrive voyage arrival).2 = .ok (some page) ∧
      (session.arrive voyage arrival).1.Silent ∧
        ∃ store : Store,
          (session.arrive voyage arrival).1.Holds { parts with engine := landed, store } ∧
            SessionParts.Searches setup pinned { parts with engine := landed, store } := by
  obtain ⟨store, after, answer, state⟩ :=
    holds.arrive_of_page (holds.quiet_iff.mp silent.quiet) current lands
  have mode : store.state.mode = .body := by
    rw [state]
    split
    · rw [Store.mode_withPagination, searches.mode_eq]
    · exact searches.mode_eq
  exact ⟨answer, silent.of_continues (session.continues_arrive voyage arrival), store, after,
    searches.moved landed mode⟩

/-- A step that has ended a run, or has sent a compiled search for some page. -/
inductive RunStep.Sends (setup : SessionSetup) (pinned : SearchBody) : RunStep → Prop where
  | ended (report : Report) (result : Failure) : Sends setup pinned (.ended report result)
  | waiting {run : Run} {voyage : Voyage} {request : Request} {parts : SessionParts}
      {flight : Flight} {page : Pagination} (holds : run.session.Holds parts)
      (silent : run.session.Silent) (searches : parts.Searches setup pinned)
      (flies : parts.engine.flight = some flight) (current : voyage.generation = parts.generation)
      (made : Request.ofAsk setup.base setup.token (.search (pinned.withQuery page)) =
        .ok request) :
      Sends setup pinned (.waiting run voyage request)

namespace Run

variable {setup : SessionSetup} {pinned : SearchBody}

theorem sends_follow {parts : SessionParts} {flight : Flight} {page : Pagination}
    {commits : Bool} {started : Started} (searches : parts.Searches setup pinned)
    (flies : parts.engine.flight = some flight)
    (navigates : Session.Navigates parts pinned flight page commits started)
    (silent : started.session.Silent) (dropped : List QueryOrder)
    (after : PageResponse → Run → RunStep) (run : Run) :
    (follow after { started with dropped } run).Sends setup pinned := by
  cases navigates with
  | sends request made holds =>
      rw [searches.setup_eq] at made
      exact .waiting holds silent searches flies rfl made
  | refused failure holds => exact .ended _ _

theorem sends_afterPage {run : Run} {parts : SessionParts} (holds : run.session.Holds parts)
    (silent : run.session.Silent) (searches : parts.Searches setup pinned)
    (page : PageResponse) : (run.afterPage page).Sends setup pinned := by
  have printed : (run.printPage page).session = run.session := rfl
  rw [← printed] at holds silent
  simp only [afterPage]
  generalize run.printPage page = run at holds silent
  cases run.arguments.pages.get? with
  | none => exact .ended _ _
  | some pages =>
      simp only
      split
      · have after_silent : run.session.loadNext.session.Silent :=
          silent.of_continues (Session.continues_begin holds.showsOnly (.turn .next))
        have starts := PageTurn.next.starts_start parts.engine
        generalize begun : PageTurn.next.start parts.engine = result at starts
        cases starts with
        | stays departure nothing =>
            obtain ⟨answer, stays⟩ := holds.navigate_of_stays begun nothing true
            have loads : run.session.loadNext = ⟨run.session, [], .ended answer⟩ := stays
            rw [loads]
            rcases answer with failure | _ | page <;> exact .ended _ _
        | leaves origin request grounded derived =>
            have navigates :=
              holds.navigates_navigate searches.mode_eq searches.body_eq begun rfl true
            exact
              sends_follow (searches.moved _ searches.mode_eq) rfl navigates after_silent _ _ run
      · exact .ended _ _

/-- What comes of a request leads to another one for the same search, or to the end. -/
theorem sends_resume {run : Run} {voyage : Voyage} {request : Request}
    (sends : (RunStep.waiting run voyage request).Sends setup pinned) (arrival : Arrival) :
    (run.resume voyage arrival).Sends setup pinned := by
  cases sends with
  | @waiting _ _ _ parts flight _ holds silent searches flies current made =>
      simp only [resume]
      rcases Engine.land_eq flies (arrival.page parts.setup.base) with
        ⟨page, _, _, lands⟩ | ⟨failure, lands⟩
      · obtain ⟨answer, after_silent, store, after, goes_on⟩ :=
          silent.arrives holds searches current lands
        rw [answer]
        exact sends_afterPage after after_silent goes_on page
      · obtain ⟨-, reported, answer⟩ := holds.arrive_of_error current lands
        rw [answer]
        exact .ended _ _

/-- All requests of a run are for one search. -/
theorem request_of_sends {step : RunStep} (sends : step.Sends setup pinned)
    (arrivals : List Arrival) :
    ∀ request ∈ (finish arrivals step).requests, ∃ page : Pagination,
      Request.ofAsk setup.base setup.token (.search (pinned.withQuery page)) = .ok request := by
  induction arrivals generalizing step with
  | nil =>
      cases sends with
      | ended report result => simp [finish]
      | @waiting run voyage request _ _ page _ _ _ _ _ made =>
          -- The last request is not answered, so nothing is sent after it.
          have only : (finish [] (.waiting run voyage request)).requests = [request] := by
            rw [finish]
            cases run.resume voyage (.failed (.network (.broken .connect))) <;> rfl
          intro sent member
          rw [only, List.mem_singleton] at member
          exact member ▸ ⟨page, made⟩
  | cons arrival rest ih =>
      cases sends with
      | ended report result => simp [finish]
      | @waiting run voyage request _ _ page holds silent searches flies current made =>
          have goes_on :=
            sends_resume (.waiting holds silent searches flies current made) arrival
          exact List.forall_mem_cons.mpr ⟨⟨page, made⟩, ih goes_on⟩

end Run

theorem Session.selected_openView {before opened : Session}
    (opens : before.openView = (opened, .ok ())) :
    ∃ view, opened.view = some view ∧ opened.setup = before.setup ∧
      Store.checkMode before.setup.mode = .ok view.store.state.mode ∧
        Checked.word Entity.named (.text before.setup.entity) =
          .ok view.store.state.body.entity := by
  unfold openView at opens
  split at opens
  · cases opens
  · rename_i store made
    obtain ⟨created, creates, paged⟩ := Outcome.bind_eq_ok.mp made
    obtain ⟨mode, entity⟩ := Store.selected_of_create creates
    have kept : store.state.mode = created.state.mode ∧
        store.state.body.entity = created.state.body.entity := by
      split at paged
      · cases paged
        exact ⟨rfl, rfl⟩
      · cases paged
        exact ⟨Store.mode_withPagination _ _,
          congrArg StoreContent.entity (StoreState.content_withPagination _ _)⟩
    split at opens
    · cases opens
      refine ⟨_, rfl, rfl, ?_, ?_⟩
      · exact mode.trans (congrArg Except.ok kept.1.symm)
      · exact entity.trans (congrArg Except.ok kept.2.symm)
    · cases opens

namespace Run

variable {settings : Settings} {arguments : Arguments}

/-- What a run is opened with. -/
theorem exists_openView_of_opened {run : Run} (opens : opened settings arguments = .ok run) :
    ∃ (page : Pagination) (base : Url) (closed : Session),
      firstPage settings arguments = .ok page ∧ settings.base = .ok base ∧
        closed.setup = ⟨arguments.entity.name, .text StoreMode.body.word, some page, none, [],
          tokenOf settings arguments, base⟩ ∧
        closed.openView = (run.session, .ok ()) ∧
          run.arguments = arguments ∧ run.fetched = 0 ∧ run.report.output = "" := by
  obtain ⟨page, paged, opens⟩ := Outcome.bind_eq_ok.mp opens
  obtain ⟨session, made, opens⟩ := Outcome.bind_eq_ok.mp opens
  cases opens
  obtain ⟨base, based, made⟩ := Outcome.bind_eq_ok.mp made
  obtain ⟨closed, creates, made⟩ := Outcome.bind_eq_ok.mp made
  rcases begins : closed.openView with ⟨after, answer⟩
  rw [begins] at made
  obtain ⟨_, rfl, made⟩ := Outcome.bind_eq_ok.mp made
  cases made
  obtain ⟨bound, _, creates⟩ := Outcome.bind_eq_ok.mp creates
  cases creates
  exact ⟨page, base, _, paged, based, rfl, begins, rfl, rfl, rfl⟩

theorem holds_opened {run : Run} (opens : opened settings arguments = .ok run) :
    ∃ parts : SessionParts, run.session.Holds parts ∧ run.session.Silent ∧
      run.arguments = arguments ∧ settings.base = .ok parts.setup.base ∧
        parts.setup.token = tokenOf settings arguments ∧ parts.store.state.mode = .body ∧
          parts.store.state.body.entity = arguments.entity ∧ parts.engine.flight = none := by
  obtain ⟨page, base, closed, _, based, made, begins, given, _, _⟩ :=
    exists_openView_of_opened opens
  obtain ⟨view, shown, setup, mode, entity⟩ := Session.selected_openView begins
  obtain ⟨parts, holds, same, stored, grounded, -⟩ := Session.holds_openView begins shown
  have silent : run.session.Silent := by
    intro other also
    rw [← Option.some.inj (shown.symm.trans also)]
    exact Session.listeners_openView begins shown
  have named : Checked.word Entity.named (.text arguments.entity.name) = .ok arguments.entity := by
    cases arguments.entity <;> rfl
  rw [made] at mode entity
  refine ⟨parts, holds, silent, given, ?_, ?_, ?_, ?_, grounded⟩
  · rw [same, setup, made]
    exact based
  · rw [same, setup, made]
  · rw [stored]
    exact (Except.ok.inj mode).symm
  · rw [stored]
    exact (Except.ok.inj (named.symm.trans entity)).symm

/-- What a run searches for: the groups of its filter and the orders, compiled for its
entity. -/
def searchBody (arguments : Arguments) (groups : List FilterGroup)
    (orders : Option (List QueryOrder)) (page : Pagination) : SearchBody :=
  (SearchBody.compile arguments.entity arguments.entity.orderGuard
    ⟨page, groups, orders.getD []⟩).body

theorem withQuery_compile {arguments : Arguments} {groups : List FilterGroup}
    {orders : Option (List QueryOrder)} {store : Store}
    (listed : store.state.body.entity = arguments.entity)
    (filters : store.state.body.filters = some groups)
    (ordering : store.state.body.ordering = orders) (page : Pagination) :
    (store.compile none).body.withQuery page = searchBody arguments groups orders page := by
  simp only [Store.compile, BodyState.query, listed, filters, ordering]
  rfl

theorem exists_withSearch_eq {run : Run} {parts : SessionParts}
    (holds : run.session.Holds parts) (silent : run.session.Silent)
    {orders : Option (List QueryOrder)} (ordered : orderingOf run.arguments = .ok orders)
    (filter : Option SmartFilter) :
    ∃ written : Store,
      written.state =
        { parts.store.state with
          body := { parts.store.state.body with
            filters := filter.map (·.groups), ordering := orders } } ∧
      run.withSearch filter = .ok { run with session := run.session.withStore written } ∧
      (run.session.withStore written).Silent := by
  let write : StoreWrite := .setBodyQuery (filter.map (·.groups)) orders
  obtain ⟨written, replaced, state⟩ := Store.replace_of_quiet (holds.quiet_iff.mp silent.quiet)
    { parts.store.state with
      body := { parts.store.state.body with
        filters := filter.map (·.groups), ordering := orders } }
  have updated : run.session.updateStore
      (Store.setBodyQuery (filter.map (·.groups)) orders) =
        (run.session.withStore written, .ok ()) := by
    rw [holds.updateStore_eq, Store.setBodyQuery, replaced]
  refine ⟨written, state, ?_, fun view shown => ?_⟩
  · simp only [withSearch, ordered, bind, Except.bind, updated]
  · obtain ⟨old, _, rfl⟩ := Option.map_eq_some_iff.mp (Option.mem_def.mp shown)
    obtain ⟨current, there, _, _, stored⟩ := holds.exists_view
    have before : parts.store.listeners = [] := stored ▸ silent current there
    have after := Store.listeners_apply before write
    rw [StoreWrite.apply, Store.setBodyQuery, replaced] at after
    exact after

/-- The first step of a run sends what the groups are compiled to. -/
theorem sends_search {run : Run} {parts : SessionParts} (holds : run.session.Holds parts)
    (silent : run.session.Silent) (mode : parts.store.state.mode = .body)
    (entity : parts.store.state.body.entity = run.arguments.entity)
    (grounded : parts.engine.flight = none) {orders : Option (List QueryOrder)}
    (ordered : orderingOf run.arguments = .ok orders) (filter : SmartFilter) :
    ∃ pinned : SearchBody, (run.search (some filter)).Sends parts.setup pinned ∧
      ∀ page, pinned.withQuery page = searchBody run.arguments filter.groups orders page := by
  obtain ⟨written, state, ready, still⟩ := exists_withSearch_eq holds silent ordered (some filter)
  have held := holds.withStore written
  have drives : written.state.mode = .body := by rw [state, mode]
  obtain ⟨store, started, dropped, paged, begun, navigates⟩ :=
    held.navigates_refresh (held.quiet_iff.mp still.quiet) drives grounded
  have after_silent : started.session.Silent := by
    have continues := Session.continues_begin held.showsOnly .refresh
    rw [SessionCall.begin, begun] at continues
    exact still.of_continues continues
  -- The refresh has changed the page of the store only.
  have kept : store.state.content = written.state.content := by
    rw [paged]
    exact StoreState.content_withPagination _ _
  rw [state] at kept
  refine ⟨(store.compile none).body, ?_, fun page => withQuery_compile ?_ ?_ ?_ page⟩
  · simp only [search, ready, begun]
    refine sends_follow ⟨rfl, rfl, ?_⟩ rfl navigates after_silent dropped afterPage _
    rw [paged, Store.mode_withPagination, drives]
  · exact (congrArg StoreContent.entity kept).trans entity
  · exact congrArg StoreContent.bodyFilters kept
  · exact congrArg StoreContent.bodyOrdering kept

/-- Runs for filters with the same groups come to the same. -/
theorem finish_congr (settings : Settings) (arguments : Arguments)
    {text other : OptionValue String} {filter same : SmartFilter}
    (read : filterOf { arguments with filterJson := text } = .ok (some filter))
    (also : filterOf { arguments with filterJson := other } = .ok (some same))
    (groups : filter.groups = same.groups) (arrivals : List Arrival) :
    finish arrivals (startWith settings { arguments with filterJson := other }) =
      finish arrivals (startWith settings { arguments with filterJson := text }) := by
  have joined : begin settings arguments (some same) = begin settings arguments (some filter) := by
    simp only [begin, search_congr groups]
  rw [finish_startWith other also, finish_startWith text read, joined]

/-- A run for a filter sends what the groups are compiled to, page after page.  How the
groups are to be joined is lost: runs for filters with the same groups cannot be told apart
by what they send, print and report. -/
theorem joiner_never_sent (settings : Settings) (arguments : Arguments)
    {text other : OptionValue String} {filter same : SmartFilter}
    (read : filterOf { arguments with filterJson := text } = .ok (some filter))
    (also : filterOf { arguments with filterJson := other } = .ok (some same))
    (groups : filter.groups = same.groups) (arrivals : List Arrival) :
    let finished := finish arrivals (startWith settings { arguments with filterJson := text })
    finish arrivals (startWith settings { arguments with filterJson := other }) = finished ∧
      ∀ request ∈ finished.requests, ∃ base orders page, settings.base = .ok base ∧
        orderingOf arguments = .ok orders ∧
          Request.ofAsk base (tokenOf settings arguments)
            (.search (searchBody arguments filter.groups orders page)) = .ok request := by
  intro finished
  have begins : finished = finish arrivals (begin settings arguments (some filter)) :=
    finish_startWith text read arrivals
  refine ⟨finish_congr settings arguments read also groups arrivals, ?_⟩
  rw [begins, begin]
  cases opens : opened settings arguments with
  | error failure => simp [finish]
  | ok run =>
      obtain ⟨parts, holds, silent, given, base, token, mode, entity, grounded⟩ :=
        holds_opened opens
      rw [← given] at entity ⊢
      cases ordered : orderingOf run.arguments with
      | error failure =>
          have unordered : run.withSearch (some filter) = .error failure := by
            simp only [withSearch, ordered]
            rfl
          simp [search, unordered, fail, finish]
      | ok orders =>
          obtain ⟨pinned, sends, compiled⟩ :=
            sends_search holds silent mode entity grounded ordered filter
          intro request member
          obtain ⟨page, made⟩ := request_of_sends sends arrivals request member
          rw [compiled, token] at made
          exact ⟨_, orders, page, base, rfl, given ▸ made⟩

/-- The settings of an empty environment. -/
def plainSettings : Settings :=
  ⟨"http://localhost:10801", Binary64.ofInt 30, "", 20, 40, none, "INFO"⟩

/-- A run for media with a filter of two groups. -/
def joinedBy (joiner : FilterJoiner) : Arguments where
  entity := .media
  filterJson := .given <|
    "\x7b\"groups\":[\x7b\"and\":[\x7b\"name\":\"a\"\x7d]\x7d," ++
      "\x7b\"or\":[\x7b\"name\":\"b\"\x7d]\x7d],\"joiner\":\"" ++ joiner.word ++ "\"\x7d"
  orderBy := []
  pageSize := .absent
  cursorMode := false
  limit := .absent
  pages := .absent
  token := .absent

def twoGroups : List FilterGroup :=
  [⟨.and, [.text .name (.equals "a")]⟩, ⟨.or, [.text .name (.equals "b")]⟩]

theorem filterOf_joinedBy (joiner : FilterJoiner) :
    filterOf (joinedBy joiner) = .ok (some ⟨twoGroups, joiner⟩) := by
  have found : (filterOf (joinedBy joiner)).toOption = some (some ⟨twoGroups, joiner⟩) := by
    cases joiner <;> decide +kernel
  cases read : filterOf (joinedBy joiner) with
  | error failure =>
      rw [read] at found
      cases found
  | ok filter =>
      rw [read] at found
      exact congrArg Except.ok (Option.some.inj found)

theorem single_search :
    (finish [] (startWith plainSettings (joinedBy .and))).requests.map (·.body.isSome) =
      [true] := by
  decide +kernel

theorem groups_sent_without_joiner :
    filterOf (joinedBy .and) = .ok (some ⟨twoGroups, .and⟩) ∧
      filterOf (joinedBy .or) = .ok (some ⟨twoGroups, .or⟩) ∧
      ∃ request, (finish [] (startWith plainSettings (joinedBy .or))).requests = [request] ∧
        ∃ base orders page, Request.ofAsk base (tokenOf plainSettings (joinedBy .and))
          (.search (searchBody (joinedBy .and) twoGroups orders page)) = .ok request := by
  have other : filterOf { joinedBy .and with filterJson := (joinedBy .or).filterJson } =
      .ok (some ⟨twoGroups, .or⟩) := filterOf_joinedBy .or
  obtain ⟨same, searches⟩ :=
    joiner_never_sent plainSettings (joinedBy .and) (filterOf_joinedBy .and) other rfl []
  obtain ⟨request, sent, -⟩ := List.map_eq_singleton_iff.mp single_search
  have member : request ∈ (finish [] (startWith plainSettings (joinedBy .and))).requests := by
    rw [sent]
    exact List.mem_singleton_self request
  obtain ⟨base, orders, page, -, -, made⟩ := searches request member
  refine ⟨filterOf_joinedBy .and, filterOf_joinedBy .or, request, ?_, base, orders, page, made⟩
  exact (congrArg Finished.requests same).trans sent

/-- Two groups that are kept for media are sent in one and the same body, whether one of
them is to hold or both. -/
theorem joiner_lost :
    ∃ filter other, filterOf (joinedBy .and) = .ok (some filter) ∧
      filterOf (joinedBy .or) = .ok (some other) ∧ filter.groups = other.groups ∧
      filter.joiner = .and ∧ other.joiner = .or ∧
      (filter.groups.filterMap (FilterGroup.narrow? .media)).length = 2 ∧
      (finish [] (startWith plainSettings (joinedBy .and))).requests.map (·.body.isSome) = [true] ∧
      ∀ arrivals, (finish arrivals (startWith plainSettings (joinedBy .or))).requests =
        (finish arrivals (startWith plainSettings (joinedBy .and))).requests := by
  refine ⟨_, _, filterOf_joinedBy .and, filterOf_joinedBy .or, rfl, rfl, rfl, by decide,
    single_search, fun arrivals => ?_⟩
  have other : filterOf { joinedBy .and with filterJson := (joinedBy .or).filterJson } =
      .ok (some ⟨twoGroups, .or⟩) := filterOf_joinedBy .or
  exact congrArg Finished.requests
    (finish_congr plainSettings (joinedBy .and) (filterOf_joinedBy .and) other rfl arrivals)

end Run
end CatalogQuery
