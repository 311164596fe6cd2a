import Noticeboard.Settings.Tree
import Noticeboard.Text.ByteSize

/-!
# Settings from the environment

Variables whose names begin with a fixed word hold settings.  Two underscores in a name stand for a
step into a table, and the case of names does not matter.  A value is read as the plainest thing it
can be: a truth value, a number, a quoted text, a list in brackets or a table in braces, and
otherwise the text as it stands.
-/

namespace Noticeboard.Settings.Environment

def isSpace (c : Char) : Bool :=
  c == ' ' || c == '\t' || c == '\n' || c == '\r' || c.toNat == 12

def skipSpace (text : List Char) : List Char :=
  text.dropWhile isSpace

/-- Brackets, braces and commas end a plain value. -/
def isSeparator (c : Char) : Bool :=
  c == ',' || c == '{' || c == '}' || c == '[' || c == ']'

def isNameChar (c : Char) : Bool :=
  Toml.isBareKey c

/-- Reads a number with a point in it. -/
def readReal? (text : List Char) : Option Float := do
  let (negative, unsigned) := Decimal.takeSign text
  let (whole, rest) := Decimal.takeDigits unsigned
  let (fraction, rest) := match rest with
    | '.' :: rest => Decimal.takeDigits rest
    | rest => ([], rest)
  if whole.isEmpty && fraction.isEmpty then none
  else
    let power ← match rest with
      | [] => some 0
      | c :: digits => if c == 'e' || c == 'E' then Decimal.readInt? digits else none
    return Decimal.ofParts negative whole fraction power

/-- A value without quotes or brackets. -/
def plain (text : List Char) : Tree :=
  let real? := if text.contains '.' then readReal? text else none
  match real? with
  | some x => .real .environment x
  | none =>
    match Decimal.readSize? text, Decimal.readInt64? text with
    | some n, _ => .unsigned .environment n
    | none, some n => .signed .environment n
    | none, none => .text .environment (String.ofList text)

/-- A text in double quotes, with escapes.  Of the characters before the first escape only as many
bytes are kept as there are characters. -/
def readQuoted? (text : List Char) : Option (String × List Char) := do
  let (value, rest) ← Toml.readBasic (text.length + 1) text
  let lead := text.takeWhile fun c => c != '\\' && c != '"'
  let escaped := (text.drop lead.length).head? == some '\\'
  let kept := if escaped then Text.takeBytes lead.length lead else lead
  return (String.ofList (kept ++ value.drop lead.length), rest)

def readName? : List Char → Option (String × List Char)
  | '"' :: rest => readQuoted? rest
  | text =>
    let name := text.takeWhile isNameChar
    if name.isEmpty then none else some (String.ofList name, text.dropWhile isNameChar)

mutual

/-- Reads a value and the blanks around it. -/
def readValue? (fuel : Nat) (text : List Char) : Option (Tree × List Char) :=
  match fuel with
  | 0 => none
  | fuel + 1 => do
    let (value, rest) ← match skipSpace text with
      | 't' :: 'r' :: 'u' :: 'e' :: rest => some (Tree.flag .environment true, rest)
      | 'f' :: 'a' :: 'l' :: 's' :: 'e' :: rest => some (Tree.flag .environment false, rest)
      | '{' :: rest =>
        (readMembers? fuel rest).map fun read => (Tree.table .environment read.1, read.2)
      | '[' :: rest =>
        (readItems? fuel rest).map fun read => (Tree.list .environment read.1, read.2)
      | '"' :: rest =>
        (readQuoted? rest).map fun read => (Tree.text .environment read.1, read.2)
      | '\'' :: c :: '\'' :: rest => some (Tree.text .environment (String.singleton c), rest)
      | '\'' :: _ => none
      | text =>
        let word := text.takeWhile fun c => !isSeparator c
        let rest := text.dropWhile fun c => !isSeparator c
        some (plain (Text.trimEnd (Text.trimStart word)), rest)
    return (value, skipSpace rest)

/-- The items of a list; a comma may stand before its end. -/
def readItems? (fuel : Nat) (text : List Char) : Option (List Tree × List Char) :=
  match fuel with
  | 0 => none
  | fuel + 1 =>
    match text with
    | ']' :: rest => some ([], rest)
    | text => do
      let (item, rest) ← readValue? fuel text
      match rest with
      | ',' :: rest => (readItems? fuel rest).map fun read => (item :: read.1, read.2)
      | ']' :: rest => some ([item], rest)
      | _ => none

/-- The members of a table; of two with one key the later one counts. -/
def readMembers? (fuel : Nat) (text : List Char) :
    Option (List (String × Tree) × List Char) :=
  match fuel with
  | 0 => none
  | fuel + 1 =>
    match text with
    | '}' :: rest => some ([], rest)
    | text => do
      let (key, rest) ← readName? (skipSpace text)
      match skipSpace rest with
      | '=' :: rest => do
        let (value, rest) ← readValue? fuel rest
        match rest with
        | ',' :: rest =>
          (readMembers? fuel rest).map fun read =>
            (if (read.1.lookup key).isSome then read.1 else (key, value) :: read.1, read.2)
        | '}' :: rest => some ([(key, value)], rest)
        | _ => none
      | _ => none

end

/-- Reads the value of a variable; what cannot be read to its end is a text as it stands. -/
def readVariable (value : String) : Tree :=
  let characters := value.toList
  match readValue? (2 * characters.length + 2) characters with
  | some (tree, []) => tree
  | _ => .text .environment value

def lowerAscii (text : List Char) : List Char :=
  text.map Char.toLower

/-- Writes a dot for every two underscores. -/
def dotted : List Char → List Char
  | '_' :: '_' :: rest => '.' :: dotted rest
  | c :: rest => c :: dotted rest
  | [] => []

/-- The keys that a variable sets, if it is one of ours and none of them is empty. -/
def path? (heading name : String) : Option (List String) :=
  let name := (Text.trim name).toList
  let size := heading.toList.length
  let keys := (lowerAscii (dotted (Text.trimEnd (Text.trimStart (name.drop size))))).splitOn '.'
  if lowerAscii (name.take size) = lowerAscii heading.toList ∧ !keys.any List.isEmpty then
    some (keys.map String.ofList)
  else none

/-- The settings of the variables that begin with `heading`, taken in the given order. -/
def read (heading : String) (environment : List (String × String)) : Tree :=
  environment.foldl
    (fun tree entry =>
      match (path? heading entry.1).map fun path => Tree.nested path (readVariable entry.2) with
      | some (.table source members) => (Tree.table source members).laidOver tree
      | _ => tree)
    (.table .environment [])

end Noticeboard.Settings.Environment
