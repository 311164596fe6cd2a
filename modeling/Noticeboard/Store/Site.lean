import Noticeboard.Address.Location
import Noticeboard.Reply
import Noticeboard.Store.Action

/-!
# Databases at hand

A site has database files, found by their paths, and perhaps a server.  Opening an address gives a
connection; a run over it changes the database, and closing it puts the database back in its place.
Tables are made when a file is opened for the first time, and on a server when that is asked for.
-/

namespace Noticeboard.Store

/-- The names on the way to a file; an absolute path begins with an empty one, and steps out of
the present directory stand in front. -/
abbrev Path := List String

namespace Path

/-- The directory that a path is in. -/
def up (path : Path) : Path :=
  match path.getLast? with
  | none => [".."]
  | some ".." => path ++ [".."]
  | some "" => path
  | some _ => path.dropLast

/-- The names of directories and files have at most this many bytes. -/
def nameLimit : Nat := 255

/-- Follows the steps of a name, as far as files allow: nothing is inside of a file. -/
def follow (isFile : Path → Bool) (path : Path) (step : String) : Option Path :=
  if step = "" ∨ step = "." then some path
  else if step = ".." then some path.up
  else if isFile path || nameLimit < step.utf8ByteSize then none
  else some (path ++ [step])

/-- The path of a name that does not go through files. -/
def ofName? (isFile : Path → Bool) (name : String) : Option Path :=
  let start : Path := if name.toList.head? = some '/' then [""] else []
  ((name.toList.splitOn '/').map String.ofList).foldlM (follow isFile) start

/-- A file needs room in its name for that of its journal, which is longer by eight. -/
def hasRoom (path : Path) : Bool :=
  (path.getLastD "").utf8ByteSize + 8 ≤ nameLimit

end Path

/-- A database server and whether its tables were made. -/
structure Server where
  prepared : Bool := false
  database : Database Time.Instant := .empty

structure Site where
  files : List (Path × Database String) := []
  directories : List Path := [[], [""]]
  server : Option Server := none

/-- Where the database of a connection is. -/
inductive Connection where
  | own (database : Database String)
  | file (path : Path) (readOnly : Bool) (database : Database String)
  | server (server : Server)

namespace Connection

/-- The file system layers. -/
def layers : List String :=
  ["unix", "unix-none", "unix-dotfile", "unix-excl", "memdb"]

/-- The layers that do not guard a file against others. -/
def isUnlocked (place : Address.FilePlace) : Bool :=
  place.unlocked || place.layer == some "unix-none" || place.layer == some "unix-dotfile"

def isOwn (place : Address.FilePlace) : Bool :=
  place.inMemory || place.name.isEmpty || place.layer == some "memdb"

def cannotOpen (code : Nat) (reason : String) : Failure :=
  let fault := DatabaseFault.other ("(code: " ++ toString code ++ ") " ++ reason)
  .unreachable fault.message

/-- Opens a file.  One that is missing is made if that may be done; one that is there was made under
guard and needs it, and is not complete if nobody may change it. -/
def openFile (site : Site) (place : Address.FilePlace) : Except Failure Connection := do
  if let some layer := place.layer then
    if !layers.contains layer then throw (cannotOpen 1 ("no such vfs: " ++ layer))
  let readOnly := place.access == .read
  let unfinished := Failure.migration (.stopped .readOnly)
  if isOwn place then
    if readOnly then throw unfinished
    return .own .empty
  let missing := cannotOpen 14 "unable to open database file"
  let isFile (path : Path) : Bool := (site.files.lookup path).isSome
  match Path.ofName? isFile place.name with
  | none => throw missing
  | some path =>
    if site.directories.contains path || !site.directories.contains path.up || !path.hasRoom then
      throw missing
    match site.files.lookup path with
    | some database =>
      if isUnlocked place then throw missing
      if place.frozen then throw unfinished
      return .file path readOnly database
    | none =>
      if place.access != .create then throw missing
      if place.frozen then throw unfinished
      return .file path false .empty

/-- Opens the database at an address, with tables if `prepare` asks for them, and notes it. -/
def ofAddress (site : Site) (address : String) (prepare : Bool) :
    Except Failure (Connection × Journal.Entry) := do
  match ← Address.Location.ofAddress address with
  | .memory => return (.own .empty, .opened .memory)
  | .file place => return (← openFile site place, .opened (.file address))
  | .server listener =>
    match site.server with
    | some host =>
      return (.server { host with prepared := host.prepared || prepare }, .opened .server)
    | none => throw (.unreachable (Address.Server.silence listener))

/-- Puts the database back. -/
def close (connection : Connection) (site : Site) : Site :=
  match connection with
  | .own _ => site
  | .file path _ database =>
    { site with files := (path, database) :: site.files.filter fun file => file.1 != path }
  | .server host => { site with server := some host }

/-- Whether the tables were made. -/
def isPrepared : Connection → Bool
  | .own _ | .file _ _ _ => true
  | .server host => host.prepared

/-- Nothing new is written to a file that is only read, nor where there are no tables. -/
def triggers : Connection → Triggers
  | .file _ true _ => [.refuse .insertCategory .readOnly]
  | .server ⟨false, _⟩ => [.refuse .insertCategory (.noTable "categories")]
  | _ => []

/-- Runs an action over a connection. -/
def run (connection : Connection) (weights : ScoreWeights) (now : Time.Instant) (ids : FreshIds)
    (action : {τ : Type} → Action τ α) :
    Except Failure α × Connection × List Journal.Entry :=
  let triggers := connection.triggers
  match connection with
  | .own database =>
    let outcome := action ⟨.embedded, triggers, weights, now, ids⟩ database
    (outcome.answer, .own outcome.database, outcome.journal)
  | .file path readOnly database =>
    let outcome := action ⟨.embedded, triggers, weights, now, ids⟩ database
    (outcome.answer, .file path readOnly outcome.database, outcome.journal)
  | .server host =>
    let outcome := action ⟨.server, triggers, weights, now, ids⟩ host.database
    (outcome.answer, .server { host with database := outcome.database }, outcome.journal)

end Connection
end Noticeboard.Store
