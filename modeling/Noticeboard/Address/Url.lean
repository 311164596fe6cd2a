import Noticeboard.Address.Host

/-!
# The parts of an address

An address has a scheme and a colon, then perhaps two slashes and an authority, a path, fields
behind a question mark, and a remark behind a number sign.  The authority is a host with an
optional user in front and an optional port behind it.
-/

namespace Noticeboard.Address

inductive UrlFault where
  | noScheme
  | badPort
  | host (fault : HostFault)
  deriving Repr, DecidableEq

def UrlFault.message : UrlFault → String
  | .noScheme => "relative URL without a base"
  | .badPort => "invalid port number"
  | .host fault => fault.message

/-- The parts of an address as they are written, percent signs and all; a part that is missing is
empty.  The path has no slash in front. -/
structure Url where
  user : List Char := []
  password : List Char := []
  host : List Char := []
  port : Option Nat := none
  path : List Char := []
  fields : List Char := []

namespace Url

/-- The schemes of the web always have a host, files seldom, and both take backslashes for
slashes. -/
inductive Scheme where
  | web
  | file
  | other
  deriving DecidableEq

namespace Scheme

def ofName (name : List Char) : Scheme :=
  let name := String.ofList (name.map Char.toLower)
  if ["http", "https", "ws", "wss", "ftp"].contains name then .web
  else if name = "file" then .file
  else .other

def isSlash (scheme : Scheme) (c : Char) : Bool :=
  c == '/' || (c == '\\' && scheme != .other)

/-- Whether a character ends an authority. -/
def endsAuthority (scheme : Scheme) (c : Char) : Bool :=
  scheme.isSlash c || c == '?' || c == '#'

end Scheme

/-- Takes the scheme of an address and what follows its colon. -/
def takeScheme? (address : List Char) : Option (Scheme × List Char) :=
  let isPart (c : Char) : Bool := c.isAlphanum || c == '+' || c == '-' || c == '.'
  match address.takeWhile isPart, address.dropWhile isPart with
  | first :: name, ':' :: rest =>
    if first.isAlpha then some (Scheme.ofName (first :: name), rest) else none
  | _, _ => none

/-! ## Paths -/

/-- Cuts a path at its slashes. -/
def segments (scheme : Scheme) : List Char → List (List Char)
  | [] => [[]]
  | c :: rest =>
    if scheme.isSlash c then [] :: segments scheme rest
    else
      match segments scheme rest with
      | [] => [[c]]
      | segment :: rest => (c :: segment) :: rest

/-- How many dots a segment has if it has nothing else; a dot may be spelled with a percent sign. -/
def countDots? : List Char → Option Nat
  | [] => some 0
  | '.' :: rest => (countDots? rest).map (· + 1)
  | '%' :: '2' :: 'e' :: rest | '%' :: '2' :: 'E' :: rest => (countDots? rest).map (· + 1)
  | _ => none

/-- Goes along the segments, of which `passed` lists those already kept, nearest first.  One dot
stays where it is and two dots go back. -/
def followDots (passed : List (List Char)) : List (List Char) → List (List Char)
  | [] => passed.reverse
  | segment :: rest =>
    let kept := match countDots? segment with
      | some 1 => passed
      | some 2 => passed.drop 1
      | _ => segment :: passed
    let stays := countDots? segment == some 1 || countDots? segment == some 2
    followDots (if stays && rest.isEmpty then [] :: kept else kept) rest

/-- A path without dots and without slashes in front. -/
def plainPath (scheme : Scheme) (path : List Char) : List Char :=
  let joined := ((followDots [] (segments scheme path)).intersperse ['/']).flatten
  joined.dropWhile (· == '/')

/-- What follows an authority: a path, and fields up to a remark. -/
def withTail (url : Url) (readPath : List Char → List Char) (text : List Char) : Url :=
  let text := text.takeWhile (· != '#')
  { url with
    path := readPath (text.takeWhile (· != '?'))
    fields := (text.dropWhile (· != '?')).drop 1 }

/-! ## Authorities -/

/-- Splits an authority at its last at sign. -/
def splitUser (authority : List Char) : Option (List Char) × List Char :=
  let reversed := authority.reverse
  let place := (reversed.takeWhile (· != '@')).reverse
  (if authority.contains '@' then some ((reversed.dropWhile (· != '@')).drop 1).reverse else none,
    place)

/-- Splits a host from its port; a colon in brackets belongs to the host. -/
def splitPort : Bool → List Char → List Char × Option (List Char)
  | _, [] => ([], none)
  | bracketed, c :: rest =>
    if c == ':' && !bracketed then ([], some rest)
    else
      let inside := c == '[' || (bracketed && c != ']')
      let (host, port) := splitPort inside rest
      (c :: host, port)

/-- A port is a number of sixteen bits; one without digits is missing. -/
def readPort (digits : List Char) : Except UrlFault (Option Nat) :=
  let port := Decimal.valueOfDigits digits
  if !digits.all Decimal.isDigit || 0x10000 ≤ port then .error .badPort
  else .ok (if digits.isEmpty then none else some port)

/-- Reads an authority and what follows it. -/
def ofAuthority (scheme : Scheme) (text : List Char) : Except UrlFault Url := do
  let authority := text.takeWhile (!scheme.endsAuthority ·)
  let rest := text.dropWhile (!scheme.endsAuthority ·)
  let (user?, place) := splitUser authority
  let user := user?.getD []
  if user? = some [] ∧ place.isEmpty ∧ !rest.isEmpty then throw (.host .missing)
  let (host, port?) := splitPort false place
  if host.isEmpty && (scheme == .web || port?.isSome) then throw (.host .missing)
  (if scheme = .web then Host.checkName host else Host.checkText host).mapError .host
  let behind := port?.getD []
  let port ← readPort (behind.takeWhile (· != '\\'))
  if host.isEmpty && !user.isEmpty && user != [':'] then throw (.host .missing)
  let url : Url :=
    { user := user.takeWhile (· != ':')
      password := (user.dropWhile (· != ':')).drop 1
      host
      port }
  return url.withTail (plainPath scheme) (behind.dropWhile (· != '\\') ++ rest)

/-- A letter and a colon or a bar name a drive and no host. -/
def isDrive : List Char → Bool
  | [letter, mark] => letter.isAlpha && (mark == ':' || mark == '|')
  | _ => false

/-- Reads what follows the scheme of a file. -/
def ofFileRest (rest : List Char) : Except UrlFault Url :=
  let url : Url := {}
  match rest with
  | first :: second :: more =>
    if Scheme.file.isSlash first && Scheme.file.isSlash second then
      let host := more.takeWhile (!Scheme.file.endsAuthority ·)
      let following := more.dropWhile (!Scheme.file.endsAuthority ·)
      if isDrive host then .ok (url.withTail (plainPath .file) more)
      else if host.isEmpty then .ok (url.withTail (plainPath .file) following)
      else
        ((Host.checkName host).mapError .host).map fun _ =>
          ({ url with host } : Url).withTail (plainPath .file) following
    else .ok (url.withTail (plainPath .file) rest)
  | _ => .ok (url.withTail (plainPath .file) rest)

/-- Drops controls and blanks at the ends of an address, and tabs and line ends within. -/
def cleaned (address : String) : List Char :=
  let isControl (c : Char) : Bool := c.toNat ≤ 0x20
  let trimmed := ((address.toList.dropWhile isControl).reverse.dropWhile isControl).reverse
  trimmed.filter fun c => c != '\t' && c != '\n' && c != '\r'

def read (address : String) : Except UrlFault Url :=
  match takeScheme? (cleaned address) with
  | none => .error .noScheme
  | some (.web, rest) => ofAuthority .web (rest.dropWhile Scheme.web.isSlash)
  | some (.file, rest) => ofFileRest rest
  | some (.other, '/' :: '/' :: rest) => ofAuthority .other rest
  | some (.other, '/' :: rest) => .ok (withTail {} (plainPath .other) rest)
  | some (.other, rest) => .ok (withTail {} (fun path => path.dropWhile (· == '/')) rest)

end Url
end Noticeboard.Address
