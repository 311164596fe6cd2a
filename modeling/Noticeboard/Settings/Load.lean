import Noticeboard.Settings.Engine
import Noticeboard.Settings.Environment

/-!
# Loading the settings

Every setting has a standard value.  A settings file overrides it, and the environment overrides
the file.
-/

namespace Noticeboard

structure Settings where
  logLevel : String := "info"
  logFile : Option String := none
  databaseUrl : String := "sqlite://classifieds.db"
  engine : EngineSettings := .standard

namespace Settings

def standard : Settings := {}

/-- The name of the settings file. -/
def fileName : String := "classifieds.toml"

/-- What the names of variables with settings begin with. -/
def variableHeading : String := "CLASSIFIEDS_"

/-- A setting that is not what it should be. -/
structure Mismatch where
  found : Tree
  wanted : String
  outOfRange : Bool

/-- A mismatch and the keys that lead to it. -/
abbrev Located := Mismatch × List String

def placeText (source : Source) (path : List String) : String :=
  match source with
  | .file =>
    " for key " ++ Text.quoted (String.intercalate "." ("default" :: path)) ++ " in " ++ fileName ++
      " TOML file"
  | .environment =>
    " for key " ++
      Text.quoted (String.intercalate "." (path.map fun key =>
        String.ofList (key.toList.map Char.toUpper))) ++
      " in `" ++ variableHeading ++ "` environment variable(s)"

def Located.message (located : Located) : String :=
  let (mismatch, path) := located
  (if mismatch.outOfRange then "invalid value " else "invalid type: found ") ++
    mismatch.found.describe ++ ", expected " ++ mismatch.wanted ++
    placeText mismatch.found.source path

namespace Tree

def wrong (wanted : String) (found : Tree) : Mismatch :=
  ⟨found, wanted, false⟩

def outside (wanted : String) (found : Tree) : Mismatch :=
  ⟨found, wanted, true⟩

def readText : Tree → Except Mismatch String
  | .text _ value => .ok value
  | found => .error (found.wrong "a string")

def readInt64 : Tree → Except Mismatch Int64
  | .signed _ n => .ok (Int64.ofInt n)
  | .unsigned source n =>
    if Decimal.isInt64 n then .ok (Int64.ofInt n)
    else .error ((Tree.unsigned source n).outside "i64")
  | found => .error (found.wrong "i64")

def readSize : Tree → Except Mismatch UInt64
  | .signed source n =>
    if 0 ≤ n then .ok (UInt64.ofNat n.toNat) else .error ((Tree.signed source n).outside "usize")
  | .unsigned _ n => .ok (UInt64.ofNat n)
  | found => .error (found.wrong "usize")

def readFloat : Tree → Except Mismatch Float
  | .signed _ n => .ok (Float.ofInt n)
  | .unsigned _ n => .ok (Float.ofNat n)
  | .real _ x => .ok x
  | found => .error (found.wrong "f64")

end Tree

/-- Reads a member of a table, or takes its standard value. -/
def readMember (members : List (String × Tree)) (key : String) (standard : α)
    (read : Tree → Except Mismatch α) : Except Located α :=
  match members.lookup key with
  | some tree => (read tree).mapError fun mismatch => (mismatch, [key])
  | none => .ok standard

def readEngineTable (members : List (String × Tree)) : Except Located EngineSettings := do
  let base := EngineSettings.standard
  let commentWeight ← readMember members "comment_weight" base.commentWeight Tree.readInt64
  let likeWeight ← readMember members "like_weight" base.likeWeight Tree.readInt64
  let matchThreshold ← readMember members "match_threshold" base.matchThreshold Tree.readFloat
  let pageSize ← readMember members "page_size" base.pageSize Tree.readSize
  let saveWeight ← readMember members "save_weight" base.saveWeight Tree.readInt64
  return { commentWeight, likeWeight, saveWeight, matchThreshold, pageSize }

/-- Reads engine settings given as a list, whose items are found by their place. -/
def readEngineList (items : List Tree) : Except Located EngineSettings := do
  let base := EngineSettings.standard
  let members := (List.range items.length).zip items |>.map fun item => (toString item.1, item.2)
  let commentWeight ← readMember members "0" base.commentWeight Tree.readInt64
  let likeWeight ← readMember members "1" base.likeWeight Tree.readInt64
  let saveWeight ← readMember members "2" base.saveWeight Tree.readInt64
  let matchThreshold ← readMember members "3" base.matchThreshold Tree.readFloat
  let pageSize ← readMember members "4" base.pageSize Tree.readSize
  return { commentWeight, likeWeight, saveWeight, matchThreshold, pageSize }

def within (key : String) (result : Except Located α) : Except Located α :=
  result.mapError fun located => (located.1, key :: located.2)

def readEngine (members : List (String × Tree)) : Except Located EngineSettings :=
  match members.lookup "engine" with
  | none => .ok .standard
  | some (.table _ inner) => within "engine" (readEngineTable inner)
  | some (.list _ items) => within "engine" (readEngineList items)
  | some found => .error (found.wrong "struct EngineConfig", ["engine"])

/-- Reads the settings in the order of their keys. -/
def ofMembers (members : List (String × Tree)) : Except Located Settings := do
  let base := Settings.standard
  let databaseUrl ← readMember members "database_url" base.databaseUrl Tree.readText
  let engine ← readEngine members
  let logFile ← readMember members "log_file" none fun tree => (tree.readText).map some
  let logLevel ← readMember members "log_level" base.logLevel Tree.readText
  return { logLevel, logFile, databaseUrl, engine }

/-- The members given by a file, if there is one, and by the environment. -/
def gather (file : Option String) (environment : List (String × String)) :
    Except Failure (List (String × Tree)) :=
  let given := Environment.read variableHeading environment
  let laidOver (below : List (String × Tree)) : List (String × Tree) :=
    match given.laidOver (.table .file below) with
    | .table _ members => members
    | _ => []
  match file with
  | none => .ok (laidOver [])
  | some text =>
    match Toml.parse? text with
    | some members => .ok (laidOver (Tree.ofTomlMembers members))
    | none => .error (.unreadableSettings "TOML parse error")

/-- Loads the settings and checks them. -/
def load (file : Option String) (environment : List (String × String)) :
    Except Failure Settings := do
  let members ← gather file environment
  let settings ← (ofMembers members).mapError fun located =>
    .unreadableSettings (Located.message located)
  settings.engine.check
  return settings

end Settings
end Noticeboard
