import Noticeboard.Toml.Scalar

/-!
# Reading settings documents

`Toml.parse?` reads a whole document as one table.
-/

namespace Noticeboard.Toml

def skipLineSpace (text : List Char) : List Char :=
  text.dropWhile isLineSpace

def isBareKey (c : Char) : Bool :=
  Decimal.isDigit c || (decide ('a' ≤ c) && decide (c ≤ 'z')) ||
    (decide ('A' ≤ c) && decide (c ≤ 'Z')) || c == '_' || c == '-'

/-- One part of a key; a quoted one stays on its line. -/
def readKeyPart? : List Char → Option (String × List Char)
  | '"' :: rest =>
    (readBasic (rest.length + 1) rest).map fun read => (String.ofList read.1, read.2)
  | '\'' :: rest => (readLiteral rest).map fun read => (String.ofList read.1, read.2)
  | text =>
    let part := text.takeWhile isBareKey
    if part.isEmpty then none else some (String.ofList part, text.dropWhile isBareKey)

/-- The parts of a key with dots between them, and the text behind the blanks after it. -/
def readKeyParts? (fuel : Nat) (text : List Char) : Option (List String × List Char) :=
  match fuel with
  | 0 => none
  | fuel + 1 => do
    let (part, rest) ← readKeyPart? (skipLineSpace text)
    match skipLineSpace rest with
    | '.' :: rest => (readKeyParts? fuel rest).map fun read => (part :: read.1, read.2)
    | rest => some ([part], rest)

/-- Keys have fewer parts than this, and lists and tables stand in each other less deeply. -/
def depthLimit : Nat := 80

def readKey? (text : List Char) : Option (List String × List Char) :=
  (readKeyParts? (text.length + 1) text).filter fun read => decide (read.1.length < depthLimit)

/-- The rest of a line behind a comment. -/
def skipComment? : List Char → Option (List Char)
  | '#' :: rest =>
    let rest := rest.dropWhile isPlain
    match rest with
    | [] | '\n' :: _ | '\r' :: '\n' :: _ => some rest
    | _ => none
  | text => some text

/-- Skips blanks, line ends and comments. -/
def skipFiller? (fuel : Nat) (text : List Char) : Option (List Char) :=
  match fuel with
  | 0 => none
  | fuel + 1 =>
    match skipLineSpace text with
    | '\n' :: rest => skipFiller? fuel rest
    | '\r' :: '\n' :: rest => skipFiller? fuel rest
    | '#' :: rest => (skipComment? ('#' :: rest)).bind (skipFiller? fuel)
    | rest => some rest

/-- The text behind the end of a statement. -/
def endLine? (text : List Char) : Option (List Char) := do
  match ← skipComment? (skipLineSpace text) with
  | [] => some []
  | '\n' :: rest => some rest
  | '\r' :: '\n' :: rest => some rest
  | _ => none

def isBareValue (c : Char) : Bool :=
  isBareKey c || c == '+' || c == '.' || c == ':'

/-- Reads a value without quotes or brackets; a blank may stand between a date and a time. -/
def readBare? (text : List Char) : Option (Value × List Char) :=
  let token := text.takeWhile isBareValue
  let rest := text.dropWhile isBareValue
  match isDate token, rest with
  | true, ' ' :: c :: more =>
    if Decimal.isDigit c then
      let clock := (c :: more).takeWhile isBareValue
      (bare? (token ++ ' ' :: clock)).map fun value => (value, (c :: more).dropWhile isBareValue)
    else (bare? token).map fun value => (value, rest)
  | _, _ => (bare? token).map fun value => (value, rest)

/-- Splits a key into the way to it and its last part. -/
def splitKey (key : List String) : List String × String :=
  (key.dropLast, key.getLastD "")

mutual

/-- Reads a value inside of `depth` lists and tables. -/
def readValue? (fuel depth : Nat) (text : List Char) : Option (Value × List Char) :=
  match fuel with
  | 0 => none
  | fuel + 1 =>
    match text with
    | '"' :: _ | '\'' :: _ =>
      (readQuoted text).map fun read => (.text (String.ofList read.1), read.2)
    | '[' :: rest =>
      if depth + 1 < depthLimit then
        (readItems? fuel (depth + 1) rest).map fun read => (.list read.1, read.2)
      else none
    | '{' :: rest =>
      if depth + 1 < depthLimit then
        match skipLineSpace rest with
        | '}' :: rest => some (.table [], rest)
        | rest =>
          (readInline? fuel (depth + 1) [] rest).map fun read =>
            (.table (finishMembers read.1), read.2)
      else none
    | _ => readBare? text

/-- The items of a list up to its closing bracket. -/
def readItems? (fuel depth : Nat) (text : List Char) : Option (List Value × List Char) :=
  match fuel with
  | 0 => none
  | fuel + 1 => do
    match ← skipFiller? (text.length + 1) text with
    | ']' :: rest => some ([], rest)
    | text => do
      let (item, rest) ← readValue? fuel depth text
      match ← skipFiller? (rest.length + 1) rest with
      | ',' :: rest => (readItems? fuel depth rest).map fun read => (item :: read.1, read.2)
      | ']' :: rest => some ([item], rest)
      | _ => none

/-- The members of a table written on one line, up to its closing brace. -/
def readInline? (fuel depth : Nat) (members : Members) (text : List Char) :
    Option (Members × List Char) :=
  match fuel with
  | 0 => none
  | fuel + 1 => do
    let (key, rest) ← readKey? text
    match rest with
    | '=' :: rest => do
      let (value, rest) ← readValue? fuel depth (skipLineSpace rest)
      let (path, last) := splitKey key
      let members ← members.define path last value
      match skipLineSpace rest with
      | ',' :: rest => readInline? fuel depth members rest
      | '}' :: rest => some (members, rest)
      | _ => none
    | _ => none

end

/-- Reads the statements of a document; `header` is the path of the table that is open. -/
def readStatements? (fuel : Nat) (header : List String) (members : Members) (text : List Char) :
    Option Members :=
  match fuel with
  | 0 => none
  | fuel + 1 => do
    match ← skipFiller? (text.length + 1) text with
    | [] => some members
    | '[' :: '[' :: rest => do
      let (key, rest) ← readKey? rest
      match rest with
      | ']' :: ']' :: rest => do
        let (path, last) := splitKey key
        let members ← members.changeAt path (Members.openItem last)
        readStatements? fuel key members (← endLine? rest)
      | _ => none
    | '[' :: rest => do
      let (key, rest) ← readKey? rest
      match rest with
      | ']' :: rest => do
        let (path, last) := splitKey key
        let members ← members.changeAt path (Members.openTable last)
        readStatements? fuel key members (← endLine? rest)
      | _ => none
    | text => do
      let (key, rest) ← readKey? text
      match rest with
      | '=' :: rest => do
        let (value, rest) ← readValue? (rest.length + 1) 0 (skipLineSpace rest)
        let (path, last) := splitKey key
        let members ← members.changeAt header (Members.define path last value)
        readStatements? fuel header members (← endLine? rest)
      | _ => none

def dropMark : List Char → List Char
  | '\ufeff' :: rest => rest
  | text => text

/-- The members of a document. -/
def parse? (text : String) : Option (List (String × Value)) :=
  let characters := dropMark text.toList
  (readStatements? (characters.length + 1) [] [] characters).map finishMembers

end Noticeboard.Toml
