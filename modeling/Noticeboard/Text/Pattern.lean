import Noticeboard.Text.Alphanumeric
import Noticeboard.Text.Blank
import Noticeboard.Text.Hex

/-!
# Patterns

A pattern is a regular expression; this module decides whether a text is one.  Patterns know no
tables of Unicode: there are no classes of digits, blanks and words, no boundaries of words and no
letters without case except those of ASCII, which the flag `-u` asks for, and then nothing may match
a part of a character.  A pattern stands between braces, so a repetition with a count, which has a
closing brace, cannot be written.
-/

namespace Noticeboard.Text.Pattern

/-- What flags change in the reading of a pattern. -/
structure Mode where
  caseless : Bool := false
  unicode : Bool := true
  /-- Blanks and remarks are passed over. -/
  spaced : Bool := false
  deriving Repr, DecidableEq

/-- Whether a character may stand for itself. -/
def Mode.hasLetters (mode : Mode) : Bool :=
  !(mode.caseless && mode.unicode)

/-- Passes over blanks, and over remarks, which begin with a number sign and end with the line. -/
def dropRemarks : Nat → List Char → List Char
  | 0, text => text
  | fuel + 1, text =>
    match trimStart text with
    | '#' :: rest => dropRemarks fuel (rest.dropWhile (· != '\n'))
    | text => text

def Mode.skip (mode : Mode) (text : List Char) : List Char :=
  if mode.spaced then dropRemarks (text.length + 1) text else text

/-- What stands behind a backslash. -/
inductive Escape where
  | letter (c : Char)
  | letters
  | edge
  deriving Repr, DecidableEq

/-- A character by a number of hexadecimal digits.  Two digits may stand for a byte. -/
def readCode? (mode : Mode) (size : Nat) (text : List Char) : Option (Escape × List Char) :=
  let digits := text.take size
  let code := inBase 16 digits
  if digits.length < size || !digits.all (isDigitIn 16) || !decide code.isValidChar then none
  else if !mode.unicode && size = 2 && 0x80 ≤ code then none
  else some (.letter (Char.ofNat code), text.drop size)

def isAscii (c : Char) : Bool :=
  decide (c.toNat < 0x80)

/-- Reads what follows a backslash. -/
def readEscape? (mode : Mode) : List Char → Option (Escape × List Char)
  | [] => none
  | 'x' :: rest => readCode? mode 2 rest
  | 'u' :: rest => readCode? mode 4 rest
  | 'U' :: rest => readCode? mode 8 rest
  | c :: rest =>
    if ['d', 's', 'w'].contains c then if mode.unicode then none else some (.letters, rest)
    else if ['b', 'B', '<', '>'].contains c then if mode.unicode then none else some (.edge, rest)
    else if c == 'A' || c == 'z' then some (.edge, rest)
    else if ['a', 'f', 't', 'n', 'r', 'v'].contains c then some (.letter c, rest)
    else if isAscii c && !isAlphanumeric c then some (.letter c, rest)
    else none

/-- Reads a member of a class; one without a character of its own cannot bound a range. -/
def readMember? (mode : Mode) : List Char → Option (Option Char × List Char)
  | [] => none
  | '\\' :: rest =>
    match readEscape? mode rest with
    | some (.letter c, rest) => if mode.unicode || isAscii c then some (some c, rest) else none
    | some (.letters, rest) => some (none, rest)
    | some (.edge, _) | none => none
  | c :: rest => if mode.unicode || isAscii c then some (some c, rest) else none

/-- Reads a member of a class, or two with a hyphen between them. -/
def readRange? (mode : Mode) (text : List Char) : Option (List Char) := do
  let (first, rest) ← readMember? mode text
  match mode.skip rest with
  | '-' :: after =>
    let after := mode.skip after
    if after.head? = some ']' || after.head? = some '-' then mode.skip rest
    else
      let (last, rest) ← readMember? mode after
      if (← first) ≤ (← last) then some rest else none
  | rest => some rest

def classNames : List String :=
  ["alnum", "alpha", "ascii", "blank", "cntrl", "digit", "graph", "lower", "print", "punct",
   "space", "upper", "word", "xdigit"]

/-- Reads a class by its name between colons. -/
def readClassName? : List Char → Option (List Char)
  | ':' :: rest =>
    let rest := if rest.head? = some '^' then rest.drop 1 else rest
    let name := rest.takeWhile (· != ':')
    match rest.drop name.length with
    | ':' :: ']' :: rest => if classNames.contains (String.ofList name) then some rest else none
    | _ => none
  | _ => none

/-- Reads what may only follow an opening bracket: a circumflex, hyphens for themselves, or a
closing bracket for itself. -/
def openClass? (mode : Mode) (text : List Char) : Option (List Char) :=
  let members := match mode.skip text with
    | '^' :: rest => if mode.unicode then some (mode.skip rest) else none
    | text => some text
  members.map fun
    | ']' :: rest => rest
    | text => text.dropWhile (· == '-')

/-- Reads the members of a class inside `depth` others. -/
def readClass? (mode : Mode) : Nat → Nat → List Char → Option (List Char)
  | 0, _, _ => none
  | fuel + 1, depth, text =>
    match mode.skip text with
    | '[' :: rest =>
      match readClassName? rest with
      | some rest => readClass? mode fuel depth rest
      | none => (openClass? mode rest).bind (readClass? mode fuel (depth + 1))
    | ']' :: rest =>
      match depth with
      | 0 => some rest
      | depth + 1 => readClass? mode fuel depth rest
    | '&' :: '&' :: rest | '-' :: '-' :: rest | '~' :: '~' :: rest => readClass? mode fuel depth rest
    | text => (readRange? mode text).bind (readClass? mode fuel depth)

/-- Flags without one twice, and with at most one minus, which is not the last. -/
def isFlags (flags : List Char) : Bool :=
  flags.all ['i', 'm', 's', 'U', 'u', 'R', 'x', '-'].contains &&
    flags.eraseDups.length == flags.length && flags.getLast? != some '-'

/-- What flags make of the reading; those behind a minus are taken away. -/
def Mode.apply (mode : Mode) (flags : List Char) : Mode :=
  let put := flags.takeWhile (· != '-')
  let value (flag : Char) (before : Bool) : Bool :=
    if flags.contains flag then put.contains flag else before
  { caseless := value 'i' mode.caseless
    unicode := value 'u' mode.unicode
    spaced := value 'x' mode.spaced }

/-- Where the reading of a pattern stands. -/
structure Progress where
  mode : Mode := {}
  /-- The modes around the groups that are open. -/
  around : List Mode := []
  names : List (List Char) := []
  /-- Whether there is something to repeat. -/
  repeatable : Bool := false
  deriving Repr

def Progress.done (progress : Progress) : Progress :=
  { progress with repeatable := true }

/-- Opens a group that is read in a mode of its own. -/
def Progress.opened (progress : Progress) (mode : Mode) : Progress :=
  { progress with mode, around := progress.mode :: progress.around, repeatable := false }

def isGroupName (name : List Char) : Bool :=
  name.head?.any (fun c => c == '_' || isAlphanumeric c && !isDigitIn 10 c) &&
    name.all fun c => isAlphanumeric c || ['_', '.', '[', ']'].contains c

/-- Opens a group with a name that no other has. -/
def Progress.named? (progress : Progress) (text : List Char) : Option (Progress × List Char) :=
  let name := text.takeWhile (· != '>')
  match text.drop name.length with
  | _ :: rest =>
    if isGroupName name && !progress.names.contains name then
      some ({ progress.opened progress.mode with names := name :: progress.names }, rest)
    else none
  | [] => none

/-- Reads what follows an opening parenthesis. -/
def Progress.group? (progress : Progress) (text : List Char) : Option (Progress × List Char) :=
  match progress.mode.skip text with
  | '?' :: 'P' :: '<' :: rest | '?' :: '<' :: rest => progress.named? rest
  | '?' :: rest =>
    let flags := rest.takeWhile fun c => c != ')' && c != ':'
    let mode := progress.mode.apply flags
    if !isFlags flags then none
    else
      match rest.drop flags.length with
      | ')' :: rest =>
        if flags.isEmpty then none else some ({ progress with mode, repeatable := false }, rest)
      | ':' :: rest => some (progress.opened mode, rest)
      | _ => none
  | rest => some (progress.opened progress.mode, rest)

/-- Reads the next piece of a pattern. -/
def Progress.step? (progress : Progress) (c : Char) (rest : List Char) :
    Option (Progress × List Char) :=
  let mode := progress.mode
  if c == '(' then progress.group? rest
  else if c == ')' then
    match progress.around with
    | mode :: around => some ({ progress with mode, around, repeatable := true }, rest)
    | [] => none
  else if c == '|' then some ({ progress with repeatable := false }, rest)
  else if ['*', '+', '?'].contains c then if progress.repeatable then some (progress, rest) else none
  else if c == '^' || c == '$' then some (progress.done, rest)
  else if c == '.' then if mode.unicode then some (progress.done, rest) else none
  else if c == '\\' then
    match readEscape? mode rest with
    | some (.letter _, rest) => if mode.hasLetters then some (progress.done, rest) else none
    | some (_, rest) => some (progress.done, rest)
    | none => none
  else if !mode.hasLetters || c == '{' then none
  else if c == '[' then
    ((openClass? mode rest).bind (readClass? mode rest.length 0)).map fun rest =>
      (progress.done, rest)
  else some (progress.done, rest)

/-- Reads a pattern to its end, where no group may be open. -/
def isReadableFrom (progress : Progress) : Nat → List Char → Bool
  | 0, _ => false
  | fuel + 1, text =>
    match progress.mode.skip text with
    | [] => progress.around.isEmpty
    | c :: rest =>
      match progress.step? c rest with
      | some (progress, rest) => isReadableFrom progress fuel rest
      | none => false

/-- Whether a text is a pattern; every piece takes at least one of its characters. -/
def isReadable (text : List Char) : Bool :=
  isReadableFrom {} (text.length + 1) text

end Noticeboard.Text.Pattern
