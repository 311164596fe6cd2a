import Noticeboard.Decimal.Reading
import Noticeboard.Journal
import Noticeboard.Text.ByteSize
import Noticeboard.Text.Pattern

/-!
# Choosing journal entries

A filter is a list of directives between commas.  A directive is a level, or names a part of the
program, a field in brackets and braces, or both, with or without a level.  The narrowest directive
that concerns an entry decides whether it is kept.
-/

namespace Noticeboard.Journal

/-- Entries that come from a part of the program and have a field are kept from a rank on.  The
empty name stands for all parts, and a rank above that of errors keeps nothing. -/
structure Directive where
  target : String := ""
  field? : Option String := none
  least : Nat
  deriving Repr, DecidableEq

namespace Directive

/-- What is wrong with a directive: it cannot be read, or one of its places falls inside a
character. -/
inductive Fault where
  | unreadable
  | torn
  deriving Repr, DecidableEq

def Fault.message : Fault → String
  | .unreadable => "invalid filter directive"
  | .torn => "byte index is not a char boundary"

/-- The least rank that a level asks for.  A level is a word in letters of either case, or a number
with or without a plus sign and zeros in front. -/
def leastRank? (word : List Char) : Option Nat :=
  match (Decimal.readSize? word).filter (· ≤ 5), String.ofList (word.map Char.toLower) with
  | some verbosity, _ => some (Level.error.rank + 1 - verbosity)
  | none, "trace" => some Level.trace.rank
  | none, "debug" => some Level.debug.rank
  | none, "info" => some Level.info.rank
  | none, "warn" => some Level.warn.rank
  | none, "error" => some Level.error.rank
  | none, "off" => some (Level.error.rank + 1)
  | none, _ => none

/-- A number behind a plus sign. -/
def isUnsigned (text : List Char) : Bool :=
  let (whole, rest) := Decimal.takeDigits text
  let (fraction, rest) := match rest with
    | '.' :: rest => Decimal.takeDigits rest
    | rest => ([], rest)
  let power := match rest with
    | c :: digits => (c == 'e' || c == 'E') && (Decimal.readInt? digits).isSome
    | [] => true
  ["inf", "infinity", "nan"].contains (String.ofList (text.map Char.toLower)) ||
    !(whole.isEmpty && fraction.isEmpty) && power

/-- Whether a field may be asked to have a value.  Truth values and numbers are patterns too, except
for numbers with a plus sign. -/
def isValue : List Char → Bool
  | '+' :: rest => isUnsigned rest
  | text => Text.Pattern.isReadable text

/-- The part of a directive between two places. -/
def cut (text : List Char) (start stop : Nat) : Except Fault (List Char) :=
  match Text.cutBytes? start stop text with
  | some part => .ok part
  | none => .error .torn

/-- The part of a directive behind a place. -/
def cutFrom (text : List Char) (start : Nat) : Except Fault (List Char) :=
  match Text.dropBytes? start text with
  | some part => .ok part
  | none => .error .torn

/-- The level behind a place; without one everything is kept. -/
def readLevel (text : List Char) (start : Nat) : Except Fault Nat := do
  let level ← cutFrom text start
  if level.isEmpty then .ok Level.trace.rank
  else
    match leastRank? level with
    | some least => .ok least
    | none => .error .unreadable

/-- What stands between brackets.  Only one field without a value can concern an entry. -/
inductive Scope where
  | field (name : String)
  | nothing
  deriving Repr, DecidableEq

/-- Reads a field, which may have a value behind an equals sign. -/
def Scope.ofField (inSpan : Bool) (text : List Char) : Except Fault Scope :=
  if text.isEmpty then .error .unreadable
  else
    match text.splitOn '=' with
    | _ :: value :: _ => if isValue value then .ok .nothing else .error .unreadable
    | _ => .ok (if inSpan then .nothing else .field (String.ofList text))

/-- Reads what stands in brackets; `start` is the place behind the opening one and `shown` the text
from there.  The result tells what is shown behind the closing one. -/
def readScope (text : List Char) (start : Nat) (shown : List Char) :
    Except Fault (Scope × List Char) := do
  let span := shown.takeWhile fun c => c != ']' && c != '{'
  let stop := start + Text.byteSize span
  match shown.drop span.length with
  | ']' :: rest =>
    let _ ← cut text start stop
    return (.nothing, rest)
  | _ :: rest =>
    let inSpan ← cut text start stop
    let field := rest.takeWhile (· != '}')
    match rest.drop field.length with
    | _ :: behind =>
      let part ← cut text (stop + 1) (stop + 1 + Text.byteSize field)
      let scope ← Scope.ofField (!inSpan.isEmpty) part
      match behind with
      | ']' :: rest => return (scope, rest)
      | _ => .error .unreadable
    | [] => .error .unreadable
  | [] => .error .unreadable

def isStart (c : Char) : Bool :=
  Text.isAlphanumeric c || ['-', ':', '_', '['].contains c

/-- Reads a directive; one that concerns no entries gives none.  Its signs are looked for without
the blanks around it, and its parts are then cut out at these places in the whole text. -/
def read (text : List Char) : Except Fault (Option Directive) := do
  let shown := Text.trimEnd (Text.trimStart text)
  let size := Text.byteSize shown
  let part := shown.takeWhile fun c => c != '=' && c != '['
  let place := Text.byteSize part
  if !shown.head?.any isStart then .error .unreadable
  else
    match shown.drop part.length with
    | [] =>
      return some (match leastRank? text with
        | some least => { least }
        | none => { target := String.ofList text, least := Level.trace.rank })
    | '=' :: _ =>
      let target := String.ofList (← cut text 0 place)
      let least ← readLevel text (place + 1)
      return some { target, least }
    | _ :: rest =>
      let target := String.ofList (← cut text 0 place)
      let (scope, rest) ← readScope text (place + 1) rest
      let least ← match rest with
        | [] => .ok Level.trace.rank
        | '=' :: level => readLevel text (size - Text.byteSize level)
        | _ => .error .unreadable
      match scope with
      | .field name => return some { target, field? := some name, least }
      | .nothing => return none

/-- Whether an entry comes from the part and has the field. -/
def concerns (directive : Directive) (entry : Entry) : Bool :=
  directive.target.toList.isPrefixOf entry.target.toList &&
    directive.field?.all fun name => entry.fields.any (·.1 == name)

/-- Whether of two directives for an entry the second is as narrow: one for a longer part is
narrower, then one that asks for a field, then one whose field is later in the alphabet. -/
def yieldsTo (first second : Directive) : Bool :=
  first.target.length < second.target.length ||
    first.target.length == second.target.length &&
      match first.field?, second.field? with
      | none, _ => true
      | some _, none => false
      | some one, some other => decide (one ≤ other)

end Directive

structure Filter where
  directives : List Directive
  deriving Repr, DecidableEq

namespace Filter

def parts (text : String) : List (List Char) :=
  (text.toList.splitOn ',').filter fun part => !part.isEmpty

/-- Without any directive only errors are kept. -/
def ofDirectives (read : List (Option Directive)) : Filter :=
  if read.isEmpty then ⟨[{ least := Level.error.rank }]⟩ else ⟨read.filterMap id⟩

/-- Reads a filter in which every directive has to be right. -/
def read (text : String) : Except Directive.Fault Filter :=
  ((parts text).mapM Directive.read).map ofDirectives

/-- Reads a directive and passes over one that cannot be read. -/
def readAnyway (part : List Char) : Except Directive.Fault (List (Option Directive)) :=
  match Directive.read part with
  | .ok directive => .ok [directive]
  | .error .unreadable => .ok []
  | .error .torn => .error .torn

/-- Reads a filter without the directives that cannot be read. -/
def readLeniently (text : String) : Except Directive.Fault Filter :=
  ((parts text).mapM readAnyway).map fun read => ofDirectives read.flatten

/-- Of equally narrow directives the later one counts. -/
def nearest? (filter : Filter) (entry : Entry) : Option Directive :=
  (filter.directives.filter (·.concerns entry)).foldl
    (fun best? directive => some (match best? with
      | some best => if best.yieldsTo directive then directive else best
      | none => directive))
    none

def keeps (filter : Filter) (entry : Entry) : Bool :=
  match filter.nearest? entry with
  | some directive => directive.least ≤ entry.level.rank
  | none => false

end Filter
end Noticeboard.Journal
