import Noticeboard.Address.Url
import Noticeboard.Text.Quoted

/-!
# Addresses of servers

The host and the port of an address say where a server listens, and some of its fields say so
again; a place in the file system, once given, counts more than any host.  A few of the fields have
values that are checked, and user, password and path have to be texts.
-/

namespace Noticeboard.Address

/-- Why a text is not a number of a field. -/
inductive NumberFault where
  | empty
  | badDigit
  | tooLarge
  deriving Repr, DecidableEq

def NumberFault.message : NumberFault → String
  | .empty => "cannot parse integer from empty string"
  | .badDigit => "invalid digit found in string"
  | .tooLarge => "number too large to fit in target type"

inductive ServerFault where
  | url (fault : UrlFault)
  | notText (fault : Text.Utf8.Fault)
  | badNumber (fault : NumberFault)
  | badHostNumber
  | badMode (value : String)
  deriving Repr, DecidableEq

def ServerFault.detail : ServerFault → String
  | .url fault => fault.message
  | .notText fault => fault.message
  | .badNumber fault => fault.message
  | .badHostNumber => "invalid IP address syntax"
  | .badMode value =>
    "error with configuration: unknown value " ++ Text.quoted value ++ " for `ssl_mode`"

def ServerFault.message (fault : ServerFault) : String :=
  "error with configuration: " ++ fault.detail

/-- Where a server listens: at a host, or at a place in the file system. -/
inductive Listener where
  | network (host : String)
  | socket (path : String)
  deriving Repr, DecidableEq

namespace Server

/-- A place and a port, from which the listener follows. -/
structure Target where
  listener : Listener
  port : Nat

/-- The port of a server unless another is given. -/
def standardPort : Nat := 5432

/-- Puts a host for the one before it, unless that is a place in the file system. -/
def Target.atHost (target : Target) (host : String) : Target :=
  match target.listener with
  | .network _ => { target with listener := .network host }
  | .socket _ => target

def Target.atPlace (target : Target) (path : String) : Target :=
  { target with listener := .socket path }

/-- The listener, whose place in the file system has a file for each port. -/
def Target.final (target : Target) : Listener :=
  match target.listener with
  | .network host => .network host
  | .socket path => .socket (path ++ "/.s.PGSQL." ++ toString target.port)

/-- Reads digits from the left until one is wrong or the number leaves its bounds. -/
def readDigits (limit value : Nat) : List Char → Except NumberFault Nat
  | [] => .ok value
  | c :: rest =>
    let next := 10 * value + Decimal.digitValue c
    if !Decimal.isDigit c then .error .badDigit
    else if limit < next then .error .tooLarge
    else readDigits limit next rest

def readNumber (limit : Nat) (value : String) : Except NumberFault Nat :=
  match value.toList with
  | [] => .error .empty
  | '+' :: c :: rest => readDigits limit 0 (c :: rest)
  | text => readDigits limit 0 text

def modes : List String :=
  ["disable", "allow", "prefer", "require", "verify-ca", "verify-full"]

def readField (target : Target) (field : String × String) : Except ServerFault Target :=
  let (name, value) := field
  match name with
  | "sslmode" | "ssl-mode" =>
    if modes.contains (String.ofList (value.toList.map Char.toLower)) then .ok target
    else .error (.badMode value)
  | "statement-cache-capacity" =>
    ((readNumber 0xFFFFFFFFFFFFFFFF value).mapError .badNumber).map fun _ => target
  | "port" =>
    ((readNumber 0xFFFF value).mapError .badNumber).map fun port => { target with port }
  | "host" =>
    match value.toList with
    | '/' :: _ => .ok (target.atPlace value)
    | _ => .ok (target.atHost value)
  | "hostaddr" =>
    if Numeric.isDotted value.toList || Numeric.isGrouped value.toList then
      .ok (target.atHost value)
    else .error .badHostNumber
  | _ => .ok target

/-- The text that is written with percent signs. -/
def textOf (written : List Char) : Except ServerFault String :=
  (Text.Utf8.decode (percentDecode (Text.Utf8.encode (String.ofList written)))).mapError .notText

/-- The listener of a host as it is written; one that begins with a slash is a place. -/
def listenerOf (host : List Char) : Except ServerFault Listener :=
  match percentDecode (Text.Utf8.encode (String.ofList host)) with
  | 0x2F :: _ => (textOf host).map .socket
  | _ => .ok (.network (String.ofList host))

/-- Reads the address of a server. -/
def ofAddress (address : String) : Except ServerFault Listener := do
  let url ← (Url.read address).mapError .url
  let listener ← listenerOf url.host
  let _ ← textOf url.user
  let _ ← textOf url.password
  let _ ← textOf url.path
  let target ← (formFields (String.ofList url.fields)).foldlM readField
    ⟨listener, url.port.getD standardPort⟩
  return target.final

/-- The least number of bytes that the name of a place in the file system may not have. -/
def placeLimit : Nat := 108

/-- What is said of a server that does not answer. -/
def silence : Listener → String
  | .network _ => "pool timed out while waiting for an open connection"
  | .socket path =>
    "error communicating with database: " ++
      if path.toList.contains '\x00' then "paths must not contain interior null bytes"
      else if placeLimit ≤ path.utf8ByteSize then "path must be shorter than SUN_LEN"
      else "No such file or directory (os error 2)"

end Server
end Noticeboard.Address
