import CatalogQuery.Command.Arguments
import CatalogQuery.Command.Log
import CatalogQuery.Json.Writer
import CatalogQuery.Session

/-!
# Running the command

The command pages through a search and prints the nodes of every page.  It runs
in steps: each step either ends the run or waits for the response to a request.
After a page the run ends when enough pages were loaded or there is no next
page.
-/

namespace CatalogQuery

/-- What a run has reported. -/
structure Report where
  output : String
  log : List LogRecord

/-- A run of the command that has not ended. -/
structure Run where
  arguments : Arguments
  session : Session
  /-- The number of pages that were loaded. -/
  fetched : Nat
  report : Report

/-- What a step of a run comes to. -/
inductive RunStep where
  /-- The run has ended. -/
  | ended (report : Report) (result : Failure)
  /-- The run waits for a response. -/
  | waiting (run : Run) (voyage : Voyage) (request : Request)

namespace Report

/-- Nothing yet. -/
def empty : Report := ⟨"", []⟩

/-- A report with one more record. -/
def record (level : LogLevel) (logger : String) (message : Text) (report : Report) : Report :=
  { report with log := report.log ++ [⟨level, logger, message⟩] }

/-- A report with one more line of output. -/
def printLine (line : String) (report : Report) : Report :=
  { report with output := report.output ++ line ++ "\n" }

/-- A report of an order that was dropped. -/
def recordDropped (entity : Entity) (report : Report) (order : QueryOrder) : Report :=
  (report.record .debug "services.compiler"
    ("Dropping order_by field not sortable here: " ++ order.orderBy)).record
      .warning "query_client"
      ("Ignoring sort field '" ++ order.orderBy ++ "': not sortable for " ++ entity.name)

end Report

namespace Run

/-- The message of the last error that is shown. -/
def errorMessage (session : Session) : Text :=
  match session.lastError with
  | some error => error.message.display
  | none => ""

/-- Whether a failure is one that is shown. -/
def isShown : Failure → Bool
  | .status _ => true
  | .network _ => true
  | _ => false

/-- End a run with a failure. -/
def fail (failure : Failure) (run : Run) : RunStep :=
  let report :=
    if isShown failure then
      run.report.record .warning "services.list_view"
        ("Loading " ++ run.arguments.entity.name ++ " failed: " ++ errorMessage run.session)
    else run.report
  .ended report failure

/-- Print a page. -/
def printPage (page : PageResponse) (run : Run) : Run :=
  let fetched := run.fetched + 1
  let report := run.report.record .info "query_client"
    ("Page " ++ toString fetched ++ ": " ++ toString page.nodes.length ++ " " ++
      run.arguments.entity.name)
  { run with fetched, report := report.printLine (Json.indented (.list page.nodes)) }

/-- Whether a run that is to load a number of pages goes on after a page. -/
def goesOn (pages : Int) (run : Run) : Bool :=
  decide ((run.fetched : Int) < pages) &&
    match run.session.status with
    | .ok status => status.hasNext
    | .error _ => false

/-- The end of a run without failure. -/
def succeed (run : Run) : RunStep := .ended run.report (.exit 0)

/-- Go on with a navigation that was started; `after` is what follows a page
that is there at once. -/
def follow (after : PageResponse → Run → RunStep) (started : Started) (run : Run) : RunStep :=
  let run :=
    { run with
      session := started.session
      report := started.dropped.foldl (Report.recordDropped run.arguments.entity) run.report }
  match started.progress with
  | .sending voyage request => .waiting run voyage request
  | .ended (.ok none) => run.succeed
  | .ended (.ok (some page)) => after page run
  | .ended (.error failure) => run.fail failure

/-- What follows a page that was loaded. -/
def afterPage (page : PageResponse) (run : Run) : RunStep :=
  let run := run.printPage page
  match run.arguments.pages.get? with
  | none => run.fail .wrongKind
  | some pages =>
      if run.goesOn pages then follow (fun _ run => run.succeed) run.session.loadNext run
      else run.succeed

/-- Go on with what came of a request. -/
def resume (voyage : Voyage) (arrival : Arrival) (run : Run) : RunStep :=
  let (session, answer) := run.session.arrive voyage arrival
  let run := { run with session }
  match answer with
  | .ok (some page) => run.afterPage page
  | .ok none => run.succeed
  | .error failure => run.fail failure

/-- The filter that the arguments give, if there is one. -/
def filterOf (arguments : Arguments) : Outcome (Option SmartFilter) :=
  match arguments.filterJson.get? with
  | none => .ok none
  | some text =>
      if text.isEmpty then .ok none
      else
        match Json.read text with
        | .ok value => (SmartFilter.ofWire value).map some
        | .error error => .error (.unreadable error)

/-- The value of a limit: where the separator stood for one it is an empty list,
which is no limit. -/
def limitValue : OptionValue Int → Value
  | .absent => .null
  | .blank => .list []
  | .given i => .int i

/-- The first page that the arguments ask for. -/
def firstPage (settings : Settings) (arguments : Arguments) : Outcome Pagination :=
  if arguments.cursorMode then
    (Checked.reported CursorPagination.model <|
      CursorPagination.check
        [("limit", limitValue arguments.limit)]).map .cursor
  else
    let given := arguments.pageSize.get?.getD 0
    let pageSize := if given = 0 then settings.defaultPageSize else given
    (Checked.reported OffsetPagination.model <|
      OffsetPagination.ofIntegers 1 pageSize false).map .offset

/-- The token to send: a given one, unless it is empty, or that of the
settings. -/
def tokenOf (settings : Settings) (arguments : Arguments) : Text :=
  match arguments.token.get? with
  | some token => if token.isEmpty then settings.apiToken else token
  | none => settings.apiToken

/-- The open session of a run. -/
def openSession (settings : Settings) (arguments : Arguments) (pagination : Pagination) :
    Outcome Session := do
  let base ← settings.base
  let session ← Session.create (.ok settings)
    { entity := arguments.entity.name
      mode := .text StoreMode.body.word
      pagination := some pagination
      body := none
      url := []
      token := tokenOf settings arguments
      base }
    none
  let (session, opened) := session.openView
  opened
  .ok session

/-- A run whose session has just been opened, and the filter of the search. -/
def setUp (settings : Settings) (arguments : Arguments) :
    Outcome (Run × Option SmartFilter) := do
  let filter ← filterOf arguments
  let pagination ← firstPage settings arguments
  let session ← openSession settings arguments pagination
  let report := Report.empty.record .debug "services.list_view"
    ("Opened " ++ arguments.entity.name ++ " list view (body mode)")
  .ok (⟨arguments, session, 0, report⟩, filter)

/-- The orders that the arguments ask for; every one must be there. -/
def orderingOf (arguments : Arguments) : Outcome (Option (List QueryOrder)) :=
  (Checked.reported BodyState.model <| Checked.inField "ordering" <|
    Checked.items (fun order => match order with
      | some order => .ok order
      | none => Checked.fail .notModel) 0 arguments.orderBy).map filled?

/-- A run with the search that it is for in the store of its session. -/
def withSearch (filter : Option SmartFilter) (run : Run) : Outcome Run := do
  let ordering ← orderingOf run.arguments
  let (session, patched) :=
    run.session.updateStore (Store.setBodyQuery (filter.map (·.groups)) ordering)
  patched
  .ok { run with session }

/-- Start a run with settings that are known. -/
def startWith (settings : Settings) (arguments : Arguments) : RunStep :=
  match setUp settings arguments with
  | .error failure => .ended .empty failure
  | .ok (run, filter) =>
      match run.withSearch filter with
      | .error failure => run.fail failure
      | .ok run => follow afterPage run.session.refresh run

/-- The level that the settings ask for. -/
def levelOf (settings : Settings) : Outcome LogLevel :=
  match settings.logLevel.string?.bind LogLevel.ofName? with
  | some level => .ok level
  | none => .error .unknownLogLevel

/-- The settings, the level of the log and the arguments of a run. -/
def prepare (environment : List (String × String)) (texts : List String) :
    Outcome (Settings × LogLevel × Arguments) := do
  let settings ← Settings.ofEnvironment environment
  let level ← levelOf settings
  let arguments ← Arguments.ofTexts texts
  .ok (settings, level, arguments)

/-- Start a run in an environment.  The level decides which records of the
report are shown in the end. -/
def start (environment : List (String × String)) (texts : List String) :
    LogLevel × RunStep :=
  match prepare environment texts with
  | .ok (settings, level, arguments) => (level, startWith settings arguments)
  | .error failure => (.all, .ended .empty failure)

/-- A finished run: its report, what it came to, and the requests that were
sent. -/
structure Finished where
  report : Report
  result : Failure
  requests : List Request

/-- Run to the end with responses that are given out one after the other; when
there are none left the server cannot be reached. -/
def finish (arrivals : List Arrival) (step : RunStep) : Finished :=
  match step with
  | .ended report result => ⟨report, result, []⟩
  | .waiting run voyage request =>
      match arrivals with
      | arrival :: rest =>
          let finished := finish rest (run.resume voyage arrival)
          { finished with requests := request :: finished.requests }
      | [] =>
          match run.resume voyage (.failed (.network (.broken .connect))) with
          | .ended report result => ⟨report, result, [request]⟩
          | .waiting run _ _ => ⟨run.report, .network (.broken .connect), [request]⟩

end Run
end CatalogQuery
