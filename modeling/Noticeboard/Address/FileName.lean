import Noticeboard.Address.Form
import Noticeboard.Failure

/-!
# Names of database files

A name may itself be written with options: behind `file:` stand an optional authority, a path, and
options behind a question mark, all with percent signs.  The options may only ask for less access
than there is.  A name without letters is that of a database of its own, and so is one special
name.
-/

namespace Noticeboard.Address

/-- How a database may be used, from the least to the most. -/
inductive Access where
  | read
  | write
  | create
  deriving Repr, DecidableEq

def Access.rank : Access → Nat
  | .read => 0
  | .write => 1
  | .create => 2

/-- A database file and how it is opened. -/
structure FilePlace where
  /-- A place without a name is a database of its own. -/
  name : String
  inMemory : Bool := false
  access : Access := .create
  /-- The file is taken to change no more. -/
  frozen : Bool := false
  /-- The file is not guarded against others. -/
  unlocked : Bool := false
  /-- The file system layer asked for. -/
  layer : Option String := none
  deriving Repr, DecidableEq

/-- Why a name is that of no database. -/
inductive NameFault where
  | holdsNull
  | foreign (authority : String)
  | noMode (kind value : String)
  | refused (value : String)
  deriving Repr, DecidableEq

def NameFault.message : NameFault → String
  | .holdsNull =>
    "error communicating with database: filename passed to SQLite must not contain nul bytes"
  | .foreign authority =>
    (DatabaseFault.other ("(code: 1) invalid uri authority: " ++ authority)).message
  | .noMode kind value =>
    (DatabaseFault.other ("(code: 1) no such " ++ kind ++ " mode: " ++ value)).message
  | .refused value =>
    (DatabaseFault.other ("(code: 3) access mode not allowed: " ++ value)).message

namespace FileName

/-- The name that stands for a database in memory. -/
def memoryName : String := ":memory:"

/-- Decodes percent signs; a null byte ends the part of the name that it is in. -/
def decodePart (bytes : List Nat) : String :=
  Text.Utf8.decodeLossy ((percentDecode bytes).takeWhile (· != 0))

/-- Cuts an option at its first equals sign; one without a name is none. -/
def readOption? (bytes : List Nat) : Option (String × String) :=
  let isSign (byte : Nat) : Bool := byte == 0x3D
  let name := decodePart (bytes.takeWhile (!isSign ·))
  if name.isEmpty then none
  else some (name, decodePart ((bytes.dropWhile (!isSign ·)).drop 1))

/-- Skips the authority of a name, which has to be empty or this machine. -/
def skipAuthority (bytes : List Nat) : Except NameFault (List Nat) :=
  match bytes with
  | 0x2F :: 0x2F :: rest =>
    let authority := Text.Utf8.decodeLossy (rest.takeWhile (· != 0x2F))
    if authority = "" ∨ authority = "localhost" then .ok (rest.dropWhile (· != 0x2F))
    else .error (.foreign authority)
  | bytes => .ok bytes

def accessOf? : String → Option Access
  | "ro" => some .read
  | "rw" => some .write
  | "rwc" => some .create
  | _ => none

/-- Asks for an access.  Of a file only what is already granted can be asked. -/
def setMode (place : FilePlace) (value : String) : Except NameFault FilePlace :=
  match accessOf? value with
  | some access =>
    if place.inMemory || access.rank ≤ place.access.rank then
      .ok { place with inMemory := false, access }
    else .error (.refused value)
  | none =>
    if value = "memory" then .ok { place with inMemory := true, access := .create }
    else .error (.noMode "access" value)

def setOption (place : FilePlace) (option : String × String) : Except NameFault FilePlace :=
  let (name, value) := option
  match name with
  | "vfs" => .ok { place with layer := some value }
  | "mode" => setMode place value
  | "cache" =>
    if value = "shared" ∨ value = "private" then .ok place else .error (.noMode "cache" value)
  | _ => .ok place

/-- A number other than zero, or one of three words. -/
def isYes (value : String) : Bool :=
  match Decimal.takeDigits value.toList with
  | ([], _) => ["on", "yes", "true"].contains (String.ofList (value.toList.map Char.toLower))
  | (digits, _) => Decimal.valueOfDigits digits % 256 != 0

/-- Reads what stands behind `file:` in the name of a place. -/
def readWritten (place : FilePlace) (bytes : List Nat) : Except NameFault FilePlace := do
  let bytes := (← skipAuthority bytes).takeWhile (· != 0x23)
  let path := bytes.takeWhile (· != 0x3F)
  let options := (((bytes.dropWhile (· != 0x3F)).drop 1).splitOn 0x26).filterMap readOption?
  let place ← options.foldlM setOption { place with name := decodePart path }
  return { place with
    frozen := (options.lookup "immutable").any isYes
    unlocked := (options.lookup "nolock").any isYes }

def heading : String := "file:"

/-- Reads the options in the name of a place.  They count only where the address around it has no
such option; there the name is passed on as it is, up to a null character, and blanks in the name of
a layer become plus signs. -/
def resolve (place : FilePlace) : Except NameFault FilePlace := do
  let beforeNull (text : String) : List Char := text.toList.takeWhile (· != '\x00')
  let place : FilePlace ←
    if place.frozen || place.layer.isSome then
      let name := String.ofList (beforeNull place.name)
      let layer := place.layer.map fun layer =>
        String.ofList ((beforeNull layer).map fun c => if c = ' ' then '+' else c)
      pure { place with name, layer }
    else if place.name.toList.contains '\x00' then throw .holdsNull
    else if heading.toList.isPrefixOf place.name.toList then
      readWritten place ((Text.Utf8.encode place.name).drop heading.utf8ByteSize)
    else pure place
  return { place with inMemory := place.inMemory || place.name == memoryName }

end FileName
end Noticeboard.Address
