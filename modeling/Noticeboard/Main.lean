import Noticeboard.CommandLine
import Noticeboard.Json.Reader
import Noticeboard.Store.Snapshot
import Noticeboard.Time.Epoch
import Std.Time.DateTime.Timestamp

/-!
# The program

Reads the surroundings of a run from the system, leaves the run to `CommandLine.run`, and writes
what it reports.
-/

namespace Noticeboard.Main

def readIfThere (path : String) : IO (Option String) := do
  try
    return some (← IO.FS.readFile path)
  catch _ =>
    return none

/-- The variables of the process, each written as a name, an equals sign and a value. -/
def readVariables : IO (List (String × String)) := do
  let bytes ← try IO.FS.readBinFile "/proc/self/environ" catch _ => pure ByteArray.empty
  let entries := (bytes.toList.map UInt8.toNat).splitOn 0
  return entries.filterMap fun entry =>
    let text := (Text.Utf8.decodeLossy entry).toList
    match text.dropWhile (· != '=') with
    | _ :: value => some (String.ofList (text.takeWhile (· != '=')), String.ofList value)
    | [] => none

def clock : IO Time.Instant := do
  let now ← Std.Time.Timestamp.now
  return .sinceEpoch now.toSecondsSinceUnixEpoch.val.toNat now.val.nano.val.toNat

/-- An id of random bytes, grouped and marked as such ids are. -/
def freshId : IO String := do
  let bytes := (← IO.getRandomBytes 16).toList.map UInt8.toNat
  let marked := (List.range bytes.length).zip bytes |>.map fun (i, byte) =>
    if i = 6 then 0x40 + byte % 16 else if i = 8 then 0x80 + byte % 64 else byte
  let digits := marked.flatMap fun byte => (Text.hexDigits (0x100 + byte)).toList.drop 1
  let group (start size : Nat) := String.ofList ((digits.drop start).take size)
  return String.intercalate "-" [group 0 8, group 8 4, group 12 4, group 16 4, group 20 12]

def freshIds : IO Store.FreshIds := do
  return ⟨← freshId, ← freshId, ← freshId, ← freshId, ← freshId⟩

def pathText (path : Store.Path) : String :=
  String.intercalate "/" path

def isDirectory (path : Store.Path) : IO Bool := do
  try
    let _ ← IO.FS.realPath (pathText (path ++ ["."]))
    return true
  catch _ =>
    return false

/-- The database file that the settings name, if there is a directory for it. -/
def readSite (settings : Settings) : IO Store.Site := do
  match Address.Location.ofAddress settings.databaseUrl with
  | .ok (.file place) =>
    let path := (Store.Path.ofName? (fun _ => false) place.name).getD []
    let directories ← [path, path.up].filterM isDirectory
    match ← readIfThere (pathText path) with
    | none => return { directories }
    | some text =>
      match (Json.parse? text).map Store.Database.ofJson with
      | some (.ok database) => return { files := [(path, database)], directories }
      | _ => throw (IO.userError "file is not a database")
  | _ => return {}

def writeSite (site : Store.Site) : IO Unit :=
  site.files.forM fun (path, database) =>
    IO.FS.writeFile (pathText path) (database.toJson.compact ++ "\n")

/-- Writes notices and journal to standard error, and appends the journal to the log file if that
can be opened. -/
def writeJournal (report : CommandLine.Report) : IO Unit := do
  let lines := String.join (report.journal.map fun entry => entry.toJson.compact ++ "\n")
  report.notices.forM IO.eprintln
  (← IO.getStderr).putStr lines
  if let some path := report.logFile then
    try
      (← IO.FS.Handle.mk path .append).putStr lines
    catch _ =>
      return

def run (arguments : List String) : IO UInt32 := do
  let settingsFile ← readIfThere Settings.fileName
  let environment ← readVariables
  let settings := ((Settings.load settingsFile environment).toOption).getD .standard
  let site ← readSite settings
  let report := CommandLine.run arguments
    { settingsFile, environment, site, now := ← clock, ids := ← freshIds }
  writeSite report.site
  writeJournal report
  (← IO.getStdout).putStr report.output
  return report.exit

end Noticeboard.Main

def main (arguments : List String) : IO UInt32 := do
  try
    Noticeboard.Main.run arguments
  catch problem =>
    (← IO.getStderr).putStrLn (toString problem)
    return 1
