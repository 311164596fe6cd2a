import Noticeboard.Address.FileName
import Noticeboard.Address.Server

/-!
# Where a database is

A location is a database in memory, a database file with the ways it is to be opened, or a server.
Only the text of an address decides which.
-/

namespace Noticeboard.Address

inductive Location where
  | memory
  | file (place : FilePlace)
  | server (listener : Listener)
  deriving Repr, DecidableEq

/-- What is wrong in the address of a file. -/
inductive FileFault where
  | notText (fault : Text.Utf8.Fault)
  | unknownValue (key value : String)
  | unknownKey (key : String)
  deriving Repr, DecidableEq

def FileFault.message (fault : FileFault) : String :=
  "error with configuration: " ++ match fault with
    | .notText fault => fault.message
    | .unknownValue key value => "unknown value " ++ Text.quoted value ++ " for `" ++ key ++ "`"
    | .unknownKey key => "unknown query parameter `" ++ key ++ "` while parsing connection URL"

namespace FilePlace

/-- Removes a heading as often as it stands in front; `heading` is not empty. -/
def dropHeadings (heading : List Char) : Nat → List Char → List Char
  | 0, text => text
  | fuel + 1, text =>
    if heading.isPrefixOf text then dropHeadings heading fuel (text.drop heading.length) else text

def setOption (place : FilePlace) (option : String × String) : Except FileFault FilePlace :=
  let (key, value) := option
  match key, value with
  | "mode", "ro" => .ok { place with access := .read }
  | "mode", "rw" | "mode", "rwc" => .ok place
  | "mode", "memory" => .ok { place with inMemory := true }
  | "cache", "private" | "cache", "shared" => .ok place
  | "immutable", "true" | "immutable", "1" => .ok { place with frozen := true }
  | "immutable", "false" | "immutable", "0" => .ok { place with frozen := false }
  | "vfs", layer => .ok { place with layer := some layer }
  | _, _ =>
    if ["mode", "cache", "immutable"].contains key then .error (.unknownValue key value)
    else .error (.unknownKey key)

/-- Reads the address of a file: its name up to a question mark, then options. -/
def ofAddress (address : String) : Except FileFault FilePlace := do
  let text := address.toList
  let bare := dropHeadings "sqlite:".toList text.length
    (dropHeadings "sqlite://".toList text.length text)
  let name := String.ofList (bare.takeWhile (· != '?'))
  let options := formFields (String.ofList ((bare.dropWhile (· != '?')).drop 1))
  let place : FilePlace ←
    if name = FileName.memoryName then pure { name, inMemory := true }
    else match Text.Utf8.decode (percentDecode (Text.Utf8.encode name)) with
      | .ok name => pure { name }
      | .error fault => throw (.notText fault)
  options.foldlM setOption place

end FilePlace

namespace Location

/-- Reads the address of a database. -/
def ofAddress (address : String) : Except Failure Location := do
  if address = "sqlite::memory:" then return .memory
  if "sqlite:".toList.isPrefixOf address.toList then
    let place ← (FilePlace.ofAddress address).mapError fun fault =>
      .badLocation address fault.message
    return .file (← (FileName.resolve place).mapError fun fault => .unreachable fault.message)
  let listener ← (Server.ofAddress address).mapError fun fault => .unreachable fault.message
  return .server listener

end Location
end Noticeboard.Address
