import Noticeboard.CommandLine.Request
import Noticeboard.Journal.Filter
import Noticeboard.Json.Printer
import Noticeboard.Service.Command
import Noticeboard.Settings.Load
import Noticeboard.Store.Site

/-!
# The command line

A run reads its arguments and settings, opens the database and makes one call.  The answer is
printed as an object that tells whether the call succeeded, and the exit code tells the same.
-/

namespace Noticeboard.CommandLine

/-- What a run of the program finds. -/
structure Surroundings where
  settingsFile : Option String := none
  environment : List (String × String) := []
  site : Store.Site := {}
  now : Time.Instant
  ids : Store.FreshIds

/-- What a run of the program leaves. -/
structure Report where
  exit : UInt32
  output : String := ""
  /-- The entries that are kept. -/
  journal : List Journal.Entry := []
  logFile : Option String := none
  /-- What is said to the user besides the answer. -/
  notices : List String := []
  site : Store.Site

variable {τ : Type}

def versionText : String :=
  "classifieds 0.1.0\n"

def helpText : String :=
  "Classified-ads search and popularity scoring\n\n" ++
    "Usage: classifieds [--skip-migrate] <COMMAND>\n\n" ++
    "Commands: migrate, search-categories, search-ads, list-categories, create-category\n"

/-- A stop before any work. -/
def Stop.report (site : Store.Site) : Stop → Report
  | .misuse => { exit := 2, notices := [helpText], site }
  | .help => { exit := 0, output := helpText, site }
  | .version => { exit := 0, output := versionText, site }

/-- The rows of a table, which may never have been made. -/
def rowsOf (prepared : Bool) (table : String) (rows : Store.Action τ α) : Store.Action τ α :=
  if prepared then rows else Store.Action.fail (.database (.noTable table))

def searchRequest (query : Option String) (page : UInt32) : SearchRequest :=
  { query := query.map Json.str, pageNo := some (Json.whole page.toNat) }

/-- The call that a request makes. -/
def Request.perform (settings : EngineSettings) (prepared : Bool) :
    Request → Store.Action τ Reply
  | .migrate => return .done
  | .searchCategories query page =>
    (Service.searching settings .searchCategories categoryFields (searchRequest query page)
      (rowsOf prepared "categories" Store.listCategories)).replying .categoryPage
  | .searchAdvertisements query page =>
    (Service.searching settings .searchAdvertisements advertisementFields
      (searchRequest query page)
      (rowsOf prepared "advertisements" Store.activeAdvertisements)).replying .advertisementPage
  | .listCategories page =>
    (Service.listing settings .listCategories page
      (rowsOf prepared "categories" Store.listCategories)).replying .categoryPage
  | .createCategory name description user =>
    (Service.createCategory (.user user) ⟨name, description⟩).replying .category

/-- The printed form of an answer. -/
def envelope : Except Failure Reply → Json
  | .ok reply => Json.object [("status", .str "ok"), ("data", reply.toJson)]
  | .error failure =>
    Json.object
      ([("status", .str "error"), ("error", .str failure.kind.code),
        ("message", .str failure.message)] ++
        (failure.field.map fun field => ("field", Json.str field)).toList)

def outputOf (request : Request) (answer : Except Failure Reply) : String :=
  match request with
  | .migrate => "Migrations completed successfully.\n"
  | _ => (envelope answer).pretty ++ "\n"

/-- The filter of the environment, if there is one that can be read, or that of the settings. -/
def filterOf (settings : Settings) (environment : List (String × String)) :
    Except Journal.Directive.Fault Journal.Filter :=
  match (environment.lookup "RUST_LOG").map Journal.Filter.read with
  | none | some (.error .unreadable) => Journal.Filter.readLeniently settings.logLevel
  | some filter => filter

/-- Opens the database and makes the call that the arguments ask for. -/
def call (given : Arguments) (settings : Settings) (around : Surroundings)
    (filter : Journal.Filter) : Report :=
  let prepare := given.request = .migrate || !given.skipMigrate
  match Store.Connection.ofAddress around.site settings.databaseUrl prepare with
  | .error failure =>
    { exit := 1
      logFile := settings.logFile
      notices := ["Error: " ++ failure.message]
      site := around.site }
  | .ok (connection, opened) =>
    let (answer, connection, journal) :=
      connection.run (.ofSettings settings.engine) around.now around.ids
        (given.request.perform settings.engine connection.isPrepared)
    { exit := if answer.isOk then 0 else 1
      output := outputOf given.request answer
      journal := (opened :: journal).filter filter.keeps
      logFile := settings.logFile
      site := connection.close around.site }

/-- Carries out what the arguments ask for.  A filter that is torn stops the run before anything
is opened. -/
def carryOut (given : Arguments) (settings : Settings) (around : Surroundings) : Report :=
  match filterOf settings around.environment with
  | .ok filter => call given settings around filter
  | .error fault => { exit := 101, notices := [fault.message], site := around.site }

/-- A run of the program.  Settings that cannot be read give way to the standard ones. -/
def run (arguments : List String) (around : Surroundings) : Report :=
  match Arguments.read arguments with
  | .error stop => stop.report around.site
  | .ok given =>
    match Settings.load around.settingsFile around.environment with
    | .ok settings => carryOut given settings around
    | .error failure =>
      let report := carryOut given .standard around
      { report with
        notices := ("Config error (using defaults): " ++ failure.message) :: report.notices }

end Noticeboard.CommandLine
