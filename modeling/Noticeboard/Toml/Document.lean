/-!
# Settings documents

A document is built up from its statements.  A header opens a table, which may be opened only once;
a double header adds a table to a list of tables; and a statement under a header sets one key,
whose dots go through tables that only dotted keys have made.
-/

namespace Noticeboard.Toml

inductive Value where
  | text (value : String)
  | whole (n : Int)
  | real (x : Float)
  | flag (value : Bool)
  | moment (written : String)
  | list (items : List Value)
  | table (members : List (String × Value))

/-- How a table came to be: on the way to another, through a dotted key, or by its header. -/
inductive Origin where
  | implicit
  | dotted
  | explicit
  deriving DecidableEq

/-- A part of a document under construction. -/
inductive Node where
  | value (value : Value)
  | table (origin : Origin) (members : List (String × Node))
  | tables (items : List (List (String × Node)))

abbrev Members := List (String × Node)

namespace Members

/-- Replaces the node of a key that is there. -/
def replace (key : String) (node : Node) (members : Members) : Members :=
  members.map fun member => if member.1 = key then (key, node) else member

def append (key : String) (node : Node) (members : Members) : Members :=
  members ++ [(key, node)]

/-- Changes the last of several tables. -/
def changeLast (change : Members → Option Members) : List Members → Option (List Members)
  | [] => none
  | [last] => (change last).map fun last => [last]
  | first :: rest => (changeLast change rest).map fun rest => first :: rest

/-- Sets a key that may not be set yet, going through the tables of its dots.  In a list of tables
the last one is meant, and the key may not stand in it directly. -/
def define : List String → String → Value → Members → Option Members
  | [], key, value, members =>
    match members.lookup key with
    | none => some (members.append key (.value value))
    | some _ => none
  | step :: path, key, value, members =>
    match members.lookup step with
    | none => (define path key value []).map fun inner => members.append step (.table .dotted inner)
    | some (.table origin inner) =>
      if origin = .explicit || (path.isEmpty && origin != .dotted) then none
      else (define path key value inner).map fun inner => members.replace step (.table origin inner)
    | some (.tables items) =>
      if path.isEmpty then none
      else (changeLast (define path key value) items).map fun items =>
        members.replace step (.tables items)
    | some (.value _) => none

/-- Changes the table at the end of a path of headers.  In a list of tables the last one is
meant, and a table that is missing on the way is made. -/
def changeAt : List String → (Members → Option Members) → Members → Option Members
  | [], change, members => change members
  | step :: path, change, members =>
    match members.lookup step with
    | none =>
      (changeAt path change []).map fun inner => members.append step (.table .implicit inner)
    | some (.table origin inner) =>
      (changeAt path change inner).map fun inner => members.replace step (.table origin inner)
    | some (.tables items) =>
      (changeLast (changeAt path change) items).map fun items =>
        members.replace step (.tables items)
    | some (.value _) => none

/-- Opens a table by its header. -/
def openTable (key : String) (members : Members) : Option Members :=
  match members.lookup key with
  | none => some (members.append key (.table .explicit []))
  | some (.table .implicit inner) => some (members.replace key (.table .explicit inner))
  | some _ => none

/-- Adds a table to a list of tables. -/
def openItem (key : String) (members : Members) : Option Members :=
  match members.lookup key with
  | none => some (members.append key (.tables [[]]))
  | some (.tables items) => some (members.replace key (.tables (items ++ [[]])))
  | some _ => none

end Members

mutual

/-- The finished value of a part. -/
def Node.finish : Node → Value
  | .value value => value
  | .table _ members => .table (finishMembers members)
  | .tables items => .list (finishTables items)

def finishMembers : List (String × Node) → List (String × Value)
  | [] => []
  | (key, node) :: rest => (key, node.finish) :: finishMembers rest

def finishTables : List (List (String × Node)) → List Value
  | [] => []
  | members :: rest => .table (finishMembers members) :: finishTables rest

end

end Noticeboard.Toml
