import Noticeboard.CommandLine.Grammar
import Noticeboard.Decimal.Reading

/-!
# What the command line asks for
-/

namespace Noticeboard.CommandLine

inductive Request where
  | migrate
  | searchCategories (query : Option String) (page : UInt32)
  | searchAdvertisements (query : Option String) (page : UInt32)
  | listCategories (page : UInt32)
  | createCategory (name : String) (description : Option String) (user : String)
  deriving Repr, DecidableEq

/-- All arguments of the program. -/
structure Arguments where
  skipMigrate : Bool := false
  request : Request
  deriving Repr, DecidableEq

/-- Reads a page number of 32 bits; whether there is such a page is asked later. -/
def readPage? (text : String) : Option UInt32 :=
  let inRange (n : Int) : Bool := decide (0 ≤ n) && decide (n < 0x100000000)
  ((Decimal.readInt? text.toList).filter inRange).map fun n => UInt32.ofNat n.toNat

namespace Request

def pageOption : String × (String → Bool) :=
  ("page", fun text => (readPage? text).isSome)

def textOption (name : String) : String × (String → Bool) :=
  (name, fun _ => true)

/-- What each command takes. -/
def grammar? : String → Option Grammar
  | "migrate" => some {}
  | "search-categories" | "search-ads" => some { options := [pageOption], places := 1 }
  | "list-categories" => some { options := [pageOption] }
  | "create-category" =>
    some { options := [textOption "description", textOption "user"], places := 1 }
  | _ => none

def pageOf (given : Given) : UInt32 :=
  ((given.options.lookup "page").bind readPage?).getD 1

def ofGiven? (command : String) (given : Given) : Option Request :=
  match command, given.places with
  | "migrate", [] => some .migrate
  | "search-categories", places => some (.searchCategories places.head? (pageOf given))
  | "search-ads", places => some (.searchAdvertisements places.head? (pageOf given))
  | "list-categories", [] => some (.listCategories (pageOf given))
  | "create-category", [name] =>
    some (.createCategory name (given.options.lookup "description")
      ((given.options.lookup "user").getD "cli"))
  | _, _ => none

def read (command : String) (arguments : List String) : Except Stop Request :=
  match grammar? command with
  | none => .error .misuse
  | some grammar => do
    match ofGiven? command (← grammar.read arguments) with
    | some request => return request
    | none => throw .misuse

end Request

namespace Arguments

/-- Help may be asked for in general or about one command. -/
def helpOn (arguments : List String) : Stop :=
  match arguments with
  | [] | ["help"] => .help
  | [command] => if (Request.grammar? command).isSome then .help else .misuse
  | _ => .misuse

def readFrom (skipMigrate : Bool) : List String → Except Stop Arguments
  | [] => .error .misuse
  | text :: following =>
    match Argument.ofText text with
    | .plain "help" => .error (helpOn following)
    | .plain command => do return { skipMigrate, request := ← Request.read command following }
    | .long "skip-migrate" none =>
      if skipMigrate then .error .misuse else readFrom true following
    | .long "help" none | .short 'h' => .error .help
    | .long "version" none | .short 'V' => .error .version
    | _ => .error .misuse

/-- Reads the arguments of the program. -/
def read (arguments : List String) : Except Stop Arguments :=
  readFrom false arguments

end Arguments
end Noticeboard.CommandLine
