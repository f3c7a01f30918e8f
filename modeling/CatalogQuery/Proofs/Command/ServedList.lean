import CatalogQuery.Proofs.Command.Paging
import CatalogQuery.Proofs.Pagination.NumberedWalk
import CatalogQuery.Proofs.Pagination.CursorChain
import CatalogQuery.Proofs.Search.Compilation

/-!
# Runs through a list

A server that keeps a list of pages gives the page that is asked for, with a description
that says whether it is the last one (`PageList.Gives`).  Nothing is said of requests that ask
for no page of the list, and any request may fail.  A run asks for the first page first and
then for what the description of a page says comes next, so the pages that it loads are the
pages of the list in their order (`Run.gives_finish`).
-/

namespace CatalogQuery

/-- The part of a request for a search that says which page is asked for. -/
def Request.query? (request : Request) : Option Value :=
  request.body.bind (Value.field? "query")

/-- A list of pages, numbered from one or chained by cursors. -/
inductive PageList where
  | numbered (contents : List (List Value)) (nonempty : contents ≠ [])
  | chained (chain : CursorChain) (content : chain.Place → List Value)

namespace PageList

/-- The nodes of the pages. -/
def contents : PageList → List (List Value)
  | numbered contents _ => contents
  | chained _ content => List.ofFn content

def mode : PageList → PaginationMode
  | numbered .. => .offset
  | chained .. => .cursor

/-- The page at an index as it is given for a request that asks for it. -/
inductive Gives : PageList → Nat → Pagination → PageResponse → Prop where
  | numbered {contents : List (List Value)} {nonempty : contents ≠ []} {index : Nat}
      {nodes : List Value} (there : contents[index]? = some nodes) (size : Count)
      (pageOffset : Int) :
      Gives (.numbered contents nonempty) index (.offset ⟨index + 1, size, false⟩)
        ⟨nodes, .offset ⟨index + 1, contents.length, size.val, pageOffset, false⟩⟩
  | chained {chain : CursorChain} {content : chain.Place → List Value} {place : chain.Place}
      {limit : Option Count} {request : Pagination} (asks : chain.Asks limit place request) :
      Gives (.chained chain content) place request ⟨content place, .cursor (chain.info place)⟩

/-- A request that asks for the page at an index. -/
def Asks (list : PageList) (index : Nat) (request : Pagination) : Prop :=
  ∃ page, list.Gives index request page

/-- Whatever request asked for a page of the list, if a page came of it, it is that page. -/
def Serves (list : PageList) (loads : Arrival → Option PageResponse) (requests : List Request)
    (arrivals : List Arrival) : Prop :=
  ∀ place request goal index page, requests[place]? = some request →
    request.query? = some goal.toWire → list.Asks index goal →
      Run.loadedAt loads arrivals place = some page → list.Gives index goal page

variable {list : PageList} {index : Nat} {goal next : Pagination} {page : PageResponse}
  {loads : Arrival → Option PageResponse} {requests : List Request} {arrivals : List Arrival}

theorem Gives.content_eq (gives : list.Gives index goal page) :
    list.contents[index]? = some page.nodes := by
  cases gives with
  | numbered there => exact there
  | chained asks => simp [contents]

theorem Gives.hasNext_eq (gives : list.Gives index goal page) :
    page.pageInfo.hasNext = decide (index + 1 < list.contents.length) := by
  cases gives with
  | @numbered contents _ _ _ there size pageOffset =>
      refine decide_eq_decide.mpr ?_
      simp only [Bool.false_eq_true, if_false, PageList.contents]
      omega
  | @chained chain content place _ _ asks =>
      have next := chain.isSome_next? place
      simp only [PageInfo.hasNext, CursorChain.nextCursor_info, Option.isSome_map, next, contents,
        List.length_ofFn]

/-- After a page the next page of the list is asked for. -/
theorem Gives.asks_successor (gives : list.Gives index goal page)
    (follows : page.pageInfo.Successor goal.limit? next)
    (hasNext : page.pageInfo.hasNext = true) : list.Asks (index + 1) next := by
  rw [gives.hasNext_eq, decide_eq_true_eq] at hasNext
  cases gives with
  | @numbered contents nonempty _ _ there size pageOffset =>
      cases follows with
      | @numbered _ number pageSize numbered sized =>
          obtain rfl : number = index + 1 + 1 := by
            have : (number : Int) = index + 1 + 1 := numbered
            omega
          exact ⟨_, .numbered (List.getElem?_eq_getElem hasNext) pageSize 0⟩
  | @chained chain content place limit request asks =>
      cases follows with
      | linked named =>
          obtain ⟨cursor, rfl⟩ := asks.exists_cursor
          rw [CursorChain.nextCursor_info] at named
          obtain ⟨target, leads, rfl⟩ := Option.map_eq_some_iff.mp named
          rw [← CursorChain.val_of_next? leads]
          exact ⟨_, .chained (.inl rfl)⟩

theorem Serves.head {arrival : Arrival} {request : Request}
    (serves : list.Serves loads (request :: requests) (arrival :: arrivals))
    (asked : request.query? = some goal.toWire) (asks : list.Asks index goal)
    (loaded : loads arrival = some page) : list.Gives index goal page :=
  serves 0 request goal index page rfl asked asks loaded

theorem Serves.tail {arrival : Arrival} {request : Request}
    (serves : list.Serves loads (request :: requests) (arrival :: arrivals)) :
    list.Serves loads requests arrivals :=
  fun place => serves (place + 1)

end PageList

theorem Request.documentOf_eq_ok {value document : Value}
    (written : documentOf value = .ok document) : document = value := by
  unfold documentOf at written
  split at written
  · cases written
  · split at written
    · cases written
    · exact (Except.ok.inj written).symm

theorem Request.query?_of_ofAsk {base : Url} {token : Text} {body : SearchBody}
    {request : Request} (made : ofAsk base token (.search body) = .ok request) :
    request.query? = some body.query.toWire := by
  obtain ⟨url, _, made⟩ := Outcome.bind_eq_ok.mp made
  obtain ⟨_, _, made⟩ := Outcome.bind_eq_ok.mp made
  obtain ⟨_, _, made⟩ := Outcome.bind_eq_ok.mp made
  obtain ⟨sent, written, made⟩ := Outcome.bind_eq_ok.mp made
  obtain ⟨_, _, made⟩ := Outcome.bind_eq_ok.mp made
  cases made
  obtain ⟨document, passed, kept⟩ := Outcome.map_eq_ok.mp written
  rw [← kept, documentOf_eq_ok passed]
  exact body.field?_toWire.2.2.1

namespace Run

variable {setup : SessionSetup} {pinned : SearchBody} {pages : Int} {goal : Pagination}

/-- The pages that a run loads from a list are the pages of the list in their order. -/
theorem gives_finish {list : PageList} {mode : PaginationMode} {index fetched : Nat}
    {output : String} {step : RunStep} {arrivals : List Arrival} (same : goal.mode = mode)
    (departs : step.Departs setup pinned pages goal fetched output) (asks : list.Asks index goal)
    (serves : list.Serves (Arrival.loaded? setup.base mode) (finish arrivals step).requests
      arrivals) (place : Nat) (page : PageResponse)
    (sent : place < (finish arrivals step).requests.length)
    (loaded : loadedAt (Arrival.loaded? setup.base mode) arrivals place = some page) :
    ∃ request, list.Gives (index + place) request page := by
  induction arrivals generalizing step goal fetched output index place with
  | nil => cases loaded
  | cons arrival rest ih =>
      cases departs with
      | fails printed stays =>
          rw [finish_ended] at sent
          cases sent
      | @waits run voyage request awaits counted printed =>
          have comes := comes_resume awaits arrival
          have asked : request.query? = some goal.toWire := Request.query?_of_ofAsk awaits.made
          rw [finish] at serves sent
          cases place with
          | zero => exact ⟨goal, serves.head asked asks loaded⟩
          | succ place =>
              generalize run.resume voyage arrival = step at comes serves sent
              have within := Nat.lt_of_succ_lt_succ sent
              cases comes with
              | lost _ | done _ | stuck _ =>
                  rw [finish_ended] at within
                  cases within
              | @onward before next _ here more hasNext follows departs =>
                  rw [same] at here
                  have given := serves.head asked asks here
                  have onward := ih (follows.mode_eq.trans (Arrival.mode_of_loaded here)) departs
                    (given.asks_successor follows hasNext) serves.tail place within loaded
                  rwa [Nat.add_right_comm, Nat.add_assoc] at onward

end Run

/-! ## The first step -/

theorem Session.AsksFor.withDropped {parts : SessionParts} {pinned : SearchBody}
    {goal : Pagination} {started : Started} (asks : AsksFor parts pinned goal started)
    (dropped : List QueryOrder) : AsksFor parts pinned goal { started with dropped } := by
  cases asks with
  | sent made holds => exact .sent made holds
  | unmade stays => exact .unmade stays

/-- The mode in which a run asks for pages. -/
def Arguments.mode (arguments : Arguments) : PaginationMode :=
  if arguments.cursorMode then .cursor else .offset

namespace Run

variable {pages : Int}

theorem firstPage_eq_ok {settings : Settings} {arguments : Arguments} {page : Pagination}
    (paged : firstPage settings arguments = .ok page) :
    (arguments.cursorMode = true ∧ ∃ limit, page = .cursor ⟨none, limit⟩) ∨
      (arguments.cursorMode = false ∧ ∃ size, page = .offset ⟨1, size, false⟩) := by
  unfold firstPage at paged
  split at paged
  · next cursors =>
      obtain ⟨⟨cursor, limit⟩, checked, rfl⟩ := Outcome.map_eq_ok.mp paged
      obtain ⟨⟨_, _⟩, parts, made⟩ := Outcome.map_eq_ok.mp (Checked.reported_eq_ok.mp checked)
      cases made
      obtain ⟨absent, -⟩ := Checked.both_eq_ok.mp parts
      obtain rfl : none = cursor := Except.ok.inj absent
      exact Or.inl ⟨cursors, limit, rfl⟩
  · next numbers =>
      obtain ⟨⟨number, size, _⟩, checked, rfl⟩ := Outcome.map_eq_ok.mp paged
      obtain ⟨⟨_, _⟩, parts, made⟩ := Outcome.map_eq_ok.mp (Checked.reported_eq_ok.mp checked)
      cases made
      obtain ⟨one, -⟩ := Checked.both_eq_ok.mp parts
      obtain rfl : 1 = number := Except.ok.inj one
      exact Or.inr ⟨by simpa using numbers, size, rfl⟩

theorem mode_firstPage {settings : Settings} {arguments : Arguments} {page : Pagination}
    (paged : firstPage settings arguments = .ok page) : page.mode = arguments.mode := by
  rcases firstPage_eq_ok paged with ⟨cursors, limit, rfl⟩ | ⟨numbers, size, rfl⟩
  · simp [Arguments.mode, cursors, Pagination.mode]
  · simp [Arguments.mode, numbers, Pagination.mode]

theorem paged_of_opened {settings : Settings} {arguments : Arguments} {run : Run}
    {parts : SessionParts} (opens : opened settings arguments = .ok run)
    (holds : run.session.Holds parts) :
    firstPage settings arguments = .ok parts.store.state.pagination := by
  obtain ⟨page, _, closed, paged, _, made, begins, _⟩ := exists_openView_of_opened opens
  obtain ⟨opening, found, stored, held, moored⟩ := Session.exists_moored_openView begins
  obtain same : parts.store = found.store :=
    Option.some.inj (holds.store_eq.symm.trans held.store_eq)
  rw [Session.openingPage, made] at stored
  rw [paged, same, moored.pagination_eq]
  exact stored

/-- The first step of a run asks for the first page of its store. -/
theorem departs_search {run : Run} {parts : SessionParts} (holds : run.session.Holds parts)
    (silent : run.session.Silent) (mode : parts.store.state.mode = .body)
    (grounded : parts.engine.flight = none) {orders : Option (List QueryOrder)}
    (ordered : orderingOf run.arguments = .ok orders)
    (given : run.arguments.pages.get? = some pages) (filter : Option SmartFilter) :
    ∃ pinned, (run.search filter).Departs parts.setup pinned pages
      parts.store.state.pagination.rewind run.fetched run.report.output := by
  obtain ⟨written, state, ready, still⟩ := exists_withSearch_eq holds silent ordered filter
  have held := holds.withStore written
  have drives : written.state.mode = .body := by rw [state, mode]
  have paged : written.state.pagination = parts.store.state.pagination := by
    simp only [state, StoreState.pagination, mode]
  obtain ⟨store, _, body, dropped, rewound, compiles, prepared, begins⟩ :=
    held.exists_refresh_eq (held.quiet_iff.mp still.quiet) grounded
  have seeks : store.state.mode = .body := by rw [rewound, Store.mode_withPagination, drives]
  have departs := Engine.refetch_restart grounded written.state.pagination.rewind
  have asks := prepared.asksFor_navigate seeks (compiles seeks) departs rfl false
  have after_silent : (run.session.withStore written).refresh.session.Silent :=
    still.of_continues (Session.continues_begin held.showsOnly .refresh)
  refine ⟨(store.compile none).body, ?_⟩
  simp only [search, ready]
  rw [begins] at after_silent ⊢
  rw [← paged]
  exact departs_follow ⟨rfl, compiles seeks, seeks⟩ rfl rfl (asks.withDropped _) after_silent
    afterPage given

/-- A run ends before it asks for anything, or asks for its first page. -/
theorem starts_run (settings : Settings) {arguments : Arguments}
    (given : arguments.pages = .given pages) :
    (∃ report failure, startWith settings arguments = .ended report failure ∧
        report.output = "" ∧ ∀ code, failure ≠ .exit code) ∨
      ∃ setup pinned page, settings.base = .ok setup.base ∧
        firstPage settings arguments = .ok page ∧
          (startWith settings arguments).Departs setup pinned pages page 0 "" := by
  have unready := stays_setUp settings arguments
  cases made : setUp settings arguments with
  | error failure =>
      rw [made] at unready
      exact Or.inl ⟨.empty, failure, by simp only [startWith, made], rfl,
        fun code same => unready code (congrArg Except.error same)⟩
  | ok ready =>
      obtain ⟨filter, read, -⟩ := Outcome.bind_eq_ok.mp made
      rw [setUp_eq read] at made
      obtain ⟨run, opens, rfl⟩ := Outcome.map_eq_ok.mp made
      obtain ⟨parts, holds, silent, same, base, token, mode, entity, grounded⟩ :=
        holds_opened opens
      obtain ⟨_, _, _, _, _, _, _, _, unfetched, unprinted⟩ := exists_openView_of_opened opens
      have paged := paged_of_opened opens holds
      have unordered := stays_orderingOf run.arguments
      simp only [startWith_eq read, begin, opens]
      cases ordered : orderingOf run.arguments with
      | error failure =>
          obtain ⟨report, failed, printed⟩ := exists_fail_eq failure run
          rw [ordered] at unordered
          refine Or.inl ⟨report, failure, ?_, printed.trans unprinted,
            fun code same => unordered code (congrArg Except.error same)⟩
          simp only [search, withSearch, ordered, bind, Except.bind, failed]
      | ok orders =>
          have asked : run.arguments.pages.get? = some pages := by
            rw [same, given]
            rfl
          obtain ⟨pinned, departs⟩ :=
            departs_search holds silent mode grounded ordered asked filter
          have first : parts.store.state.pagination.rewind = parts.store.state.pagination := by
            rcases firstPage_eq_ok paged with ⟨-, limit, page⟩ | ⟨-, size, page⟩ <;>
              rw [page] <;> rfl
          rw [first, unfetched, unprinted] at departs
          exact Or.inr ⟨_, pinned, _, base, paged, departs⟩

/-! ## The pages that are printed -/

/-- The page that a run loads with what arrived. -/
def loads (settings : Settings) (arguments : Arguments) (arrival : Arrival) :
    Option PageResponse :=
  match settings.base with
  | .ok base => arrival.loaded? base arguments.mode
  | .error _ => none

theorem asks_firstPage {settings : Settings} {arguments : Arguments} {page : Pagination}
    (paged : firstPage settings arguments = .ok page) {list : PageList}
    (same : list.mode = arguments.mode) : list.Asks 0 page := by
  rcases firstPage_eq_ok paged with ⟨cursors, limit, rfl⟩ | ⟨numbers, size, rfl⟩
  · cases list with
    | numbered contents nonempty => simp [PageList.mode, Arguments.mode, cursors] at same
    | chained chain content =>
        have asks : chain.Asks limit chain.first (.cursor ⟨none, limit⟩) := .inr ⟨rfl, rfl⟩
        exact ⟨_, .chained asks⟩
  · cases list with
    | numbered contents nonempty =>
        have there := List.getElem?_eq_getElem (List.length_pos_iff.mpr nonempty)
        exact ⟨_, .numbered there size 0⟩
    | chained chain content => simp [PageList.mode, Arguments.mode, numbers] at same

theorem nodes_of_loaded {loads : Arrival → Option PageResponse} {arrivals : List Arrival}
    {contents : List (List Value)} (count : Nat)
    (loaded : ∀ place, place < count → ∃ page, loadedAt loads arrivals place = some page ∧
      contents[place]? = some page.nodes) :
    ((arrivals.take count).filterMap loads).map (·.nodes) = contents.take count := by
  induction count with
  | zero => rfl
  | succ count ih =>
      obtain ⟨page, came, content⟩ := loaded count (Nat.lt_succ_self count)
      obtain ⟨arrival, there, read⟩ := Option.bind_eq_some_iff.mp came
      rw [List.take_add_one, List.take_add_one, List.filterMap_append, List.map_append,
        ih fun place earlier => loaded place (Nat.lt_succ_of_lt earlier), there, content]
      simp [read]

/-- A run without errors that loaded pages of a list in their order loaded as many as it was
to, or all. -/
theorem Pages.prints_list {loads : Arrival → Option PageResponse} {remaining : Int}
    {arrivals : List Arrival} {finished : Finished} {list : PageList}
    (pages : Pages loads remaining "" arrivals finished)
    (gives : ∀ place page, place < finished.requests.length →
      loadedAt loads arrivals place = some page → ∃ request, list.Gives place request page)
    (ends : finished.result = .exit 0) (alive : ∀ code, Arrival.failed (.exit code) ∉ arrivals) :
    (finished.requests.length : Int) = min (max 1 remaining) list.contents.length ∧
      finished.report.output =
        String.join ((list.contents.take finished.requests.length).map printedNodes) := by
  obtain ⟨last, page, counted, loaded, enough⟩ := pages.complete ends alive
  obtain ⟨_, given⟩ := gives last page (by omega) loaded
  have within : last < list.contents.length := (List.getElem?_eq_some_iff.mp given.content_eq).1
  constructor
  · have bounded := pages.bounded
    rw [given.hasNext_eq, decide_eq_false_iff_not] at enough
    omega
  · have each (place : Nat) (sent : place < finished.requests.length) :
        ∃ page, loadedAt loads arrivals place = some page ∧
          list.contents[place]? = some page.nodes := by
      obtain ⟨page, came⟩ : ∃ page, loadedAt loads arrivals place = some page := by
        rcases Nat.lt_or_ge (place + 1) finished.requests.length with before | final
        · obtain ⟨page, came, -⟩ := pages.onward place before
          exact ⟨page, came⟩
        · obtain rfl : place = last := by omega
          exact ⟨page, loaded⟩
      obtain ⟨_, given⟩ := gives place page sent came
      exact ⟨page, came, given.content_eq⟩
    rw [pages.printed, ← nodes_of_loaded _ each, List.map_map]
    exact String.empty_append

/-- A run prints what it loads, and what it loads from a list are the pages of the list. -/
theorem pages_startWith (settings : Settings) {arguments : Arguments}
    (given : arguments.pages = .given pages) (arrivals : List Arrival) :
    let finished := finish arrivals (startWith settings arguments)
    Pages (loads settings arguments) pages "" arrivals finished ∧
      ∀ list : PageList, list.mode = arguments.mode →
        list.Serves (loads settings arguments) finished.requests arrivals →
          ∀ place page, place < finished.requests.length →
            loadedAt (loads settings arguments) arrivals place = some page →
              ∃ request, list.Gives place request page := by
  intro finished
  rcases starts_run settings given with
    ⟨report, failure, ended, printed, stays⟩ | ⟨setup, pinned, page, base, paged, departs⟩
  · have nothing : finished = ⟨report, failure, []⟩ := by
      simp only [finished, ended, finish_ended]
    rw [nothing]
    exact ⟨.of_failed printed stays, fun _ _ _ _ _ sent => by cases sent⟩
  · have mode : page.mode = arguments.mode := mode_firstPage paged
    have loading : loads settings arguments = Arrival.loaded? setup.base arguments.mode := by
      funext arrival
      simp only [loads, base]
    have fetched := pages_finish departs arrivals
    rw [mode, ← loading] at fetched
    refine ⟨by simpa using fetched, fun list same serves place page sent came => ?_⟩
    rw [loading] at serves came
    have given := gives_finish mode departs (asks_firstPage paged same) serves place page sent came
    rwa [Nat.zero_add] at given

/-- However many pages a run is to load, it sends no more requests than pages, and at least
one request is allowed; it prints every page that it loads, in the order in which they were
asked for, and asks for another page only after one that has a next page.  It has ended as soon
as it was answered so often.  From a list of pages, if nothing fails, it prints the first pages,
as many as it is to load or as there are. -/
theorem pages_fetched (settings : Settings) (arguments : Arguments) (pages : Int)
    (arrivals : List Arrival) :
    let asked := { arguments with pages := .given pages }
    let first := startWith settings asked
    let finished := finish arrivals first
    Pages (loads settings asked) pages "" arrivals finished ∧
      (max 1 pages ≤ arrivals.length →
        advance arrivals first = .ended finished.report finished.result) ∧
      ∀ list : PageList, list.mode = asked.mode →
        list.Serves (loads settings asked) finished.requests arrivals →
          finished.result = .exit 0 → (∀ code, Arrival.failed (.exit code) ∉ arrivals) →
            (finished.requests.length : Int) = min (max 1 pages) list.contents.length ∧
              finished.report.output =
                String.join ((list.contents.take finished.requests.length).map printedNodes) := by
  intro asked first finished
  have given : asked.pages = .given pages := rfl
  obtain ⟨fetched, gives⟩ := pages_startWith settings given arrivals
  have bounded : ((finish arrivals first).requests.length : Int) ≤ max 1 pages := fetched.bounded
  exact ⟨fetched, fun answered => advance_of_answered (by omega), fun list same serves =>
    fetched.prints_list (gives list same serves)⟩

/-- A run for three pages of all media, one on each. -/
def threePages : Arguments where
  entity := .media
  filterJson := .absent
  orderBy := []
  pageSize := .given 1
  cursorMode := false
  limit := .absent
  pages := .given 3
  token := .absent

/-- The response with a page of two, on which its number stands. -/
def pageOfTwo (page : Int) : Response :=
  ⟨200,
    (["\x7b\"data\":[", toString page, "],", "\"pageInfo\":\x7b", "\"__kind\":",
      "\"OffsetPaginationInfo\",", "\"currentPage\":", toString page, ",\"totalPages\":2",
      ",\"pageSize\":1", ",\"pageOffset\":0", ",\"zeroBased\":false\x7d\x7d"].flatMap
        String.toList).map Char.toNat⟩

def pagesOfTwo : List Arrival := [1, 2, 3].map fun page => .answered (pageOfTwo page)

/-- The list of the two pages. -/
def twoPages : PageList := .numbered [[.int 1], [.int 2]] (by simp)

/-- The number and the size of the page that a request asks for. -/
def numberAndSize? (request : Request) : Option (Int × Int) :=
  match request.query? with
  | some (.object [(_, .int number), (_, .int size)]) => some (number, size)
  | _ => none

/-- Whether a page is the one of two with a number. -/
def isOfTwo (number : Int) : PageResponse → Bool
  | ⟨[.int node], .offset info⟩ => node = number && info = ⟨number, 2, 1, 0, false⟩
  | _ => false

theorem eq_of_isOfTwo {number : Int} {page : PageResponse} (same : isOfTwo number page = true) :
    page = ⟨[.int number], .offset ⟨number, 2, 1, 0, false⟩⟩ := by
  unfold isOfTwo at same
  split at same
  · obtain ⟨rfl, rfl⟩ : _ = number ∧ _ = _ := by simpa using same
    rfl
  · cases same

theorem asked_of_two :
    let finished := finish pagesOfTwo (startWith plainSettings threePages)
    finished.result = .exit 0 ∧
      finished.requests.map numberAndSize? = [some (1, 1), some (2, 1)] := by
  decide +kernel

theorem loadedAt_pagesOfTwo {place : Nat} (within : place < 2) :
    loadedAt (loads plainSettings threePages) pagesOfTwo place =
      some ⟨[.int (place + 1)], .offset ⟨place + 1, 2, 1, 0, false⟩⟩ := by
  have read : (loadedAt (loads plainSettings threePages) pagesOfTwo place).any
      (isOfTwo (place + 1)) = true := by
    match place with
    | 0 => decide +kernel
    | 1 => decide +kernel
  cases came : loadedAt (loads plainSettings threePages) pagesOfTwo place with
  | none =>
      rw [came] at read
      cases read
  | some page =>
      rw [came] at read
      exact congrArg some (eq_of_isOfTwo read)

theorem serves_twoPages : twoPages.Serves (loads plainSettings threePages)
    (finish pagesOfTwo (startWith plainSettings threePages)).requests pagesOfTwo := by
  intro place request goal index page sent asked asks loaded
  obtain ⟨due, gives⟩ := asks
  cases gives with
  | @numbered _ _ _ nodes there size pageOffset =>
      have numbers : numberAndSize? request = some ((index : Int) + 1, (size.val : Int)) := by
        rw [numberAndSize?, asked]
        rfl
      have listed := congrArg (·[place]?) asked_of_two.2
      simp only [List.getElem?_map, sent, Option.map_some, numbers] at listed
      obtain ⟨within, same, single⟩ : place < 2 ∧ index = place ∧ (size.val : Int) = 1 := by
        match place with
        | 0 =>
            have first : (index : Int) + 1 = 1 ∧ (size.val : Int) = 1 := by simpa using listed
            omega
        | 1 =>
            have second : (index : Int) + 1 = 2 ∧ (size.val : Int) = 1 := by simpa using listed
            omega
        | _ + 2 => simp at listed
      subst same
      cases (loadedAt_pagesOfTwo within).symm.trans loaded
      have content : [[Value.int 1], [.int 2]][index]? = some [.int (index + 1)] := by
        match index with
        | 0 => rfl
        | 1 => rfl
      have given : twoPages.Gives index (.offset ⟨index + 1, size, false⟩) _ :=
        .numbered content size 0
      rw [single] at given
      exact given

/-- A run for three pages prints the two that there are. -/
theorem two_pages_printed :
    let finished := finish pagesOfTwo (startWith plainSettings threePages)
    twoPages.Serves (loads plainSettings threePages) finished.requests pagesOfTwo ∧
      finished.result = .exit 0 ∧ finished.requests.length = 2 ∧
        finished.report.output = printedNodes [.int 1] ++ printedNodes [.int 2] := by
  intro finished
  have alive (code : Nat) : Arrival.failed (.exit code) ∉ pagesOfTwo := by simp [pagesOfTwo]
  obtain ⟨-, -, lists⟩ := pages_fetched plainSettings threePages 3 pagesOfTwo
  obtain ⟨counted, printed⟩ := lists twoPages rfl serves_twoPages asked_of_two.1 alive
  have two : finished.requests.length = 2 := by
    have least : min (max 1 3) (twoPages.contents.length : Int) = 2 := rfl
    rw [least] at counted
    exact Int.ofNat.inj counted
  refine ⟨serves_twoPages, asked_of_two.1, two, printed.trans ?_⟩
  change String.join ((twoPages.contents.take finished.requests.length).map printedNodes) = _
  rw [two]
  rfl

end Run
end CatalogQuery
