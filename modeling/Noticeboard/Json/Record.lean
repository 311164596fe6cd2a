import Noticeboard.Json.Scalar

/-!
# Reading records

A record is given as an object, or as the list of its fields in the order of their declaration.
A `RecordReader` holds the fields it names and how to build the value from them.

The members of an object are checked by ascending key, so the first bad key is the one reported;
fields that are missing are reported after that, in the order of declaration.  In a list every
field without a default has to be there.
-/

namespace Noticeboard.Json

/-- What a field is when its object leaves it out. -/
inductive Presence where
  | required
  | nullable
  | defaulted
  deriving DecidableEq

structure FieldRule where
  name : String
  presence : Presence
  check : Json → Except Problem Unit

abbrev Entries := List (String × Json)

structure RecordReader (α : Type) where
  rules : List FieldRule
  build : Entries → Except Problem α

namespace RecordReader

/-- A record of no fields. -/
def value (a : α) : RecordReader α :=
  ⟨[], fun _ => .ok a⟩

/-- Adds a field whose reading is the next argument of what was read before. -/
def andField (reader : RecordReader (α → β)) (rule : FieldRule)
    (get : Option Json → Except Problem α) : RecordReader β where
  rules := reader.rules ++ [rule]
  build entries := do
    let finish ← reader.build entries
    let next ← get (entries.lookup rule.name)
    return finish next

/-- A field that has to be there. -/
def required (reader : RecordReader (α → β)) (name : String)
    (read : Json → Except Problem α) : RecordReader β :=
  reader.andField ⟨name, .required, fun value => (read value).map fun _ => ()⟩ fun
    | some value => read value
    | none => .error (.missing name)

/-- A field that is none when an object leaves it out. -/
def nullable (reader : RecordReader (Option α → β)) (name : String)
    (read : Json → Except Problem α) : RecordReader β :=
  reader.andField
    ⟨name, .nullable, fun value => (readOptional read value).map fun _ => ()⟩ fun
    | some value => readOptional read value
    | none => .ok none

/-- A field that takes a default when it is left out. -/
def defaulted (reader : RecordReader (α → β)) (name : String) (fallback : α)
    (read : Json → Except Problem α) : RecordReader β :=
  reader.andField ⟨name, .defaulted, fun value => (read value).map fun _ => ()⟩ fun
    | some value => read value
    | none => .ok fallback

/-- Checks the members of an object by ascending key; unknown ones are refused in a closed
record. -/
def checkMembers (rules : List FieldRule) (closed : Bool) : Entries → Except Problem Unit
  | [] => .ok ()
  | (key, value) :: rest =>
    match rules.find? fun rule => rule.name == key with
    | some rule => do
      rule.check value
      checkMembers rules closed rest
    | none =>
      if closed then .error (.unknownField key (rules.map FieldRule.name))
      else checkMembers rules closed rest

/-- Checks the items of a list against the fields in order, counting from `index`, and gives the
entries and the items left over. -/
def checkItems (shape : String) (size : Nat) :
    Nat → List FieldRule → List Json → Except Problem (Entries × List Json)
  | _, [], items => .ok ([], items)
  | index, rule :: rules, [] =>
    if rule.presence = .defaulted then checkItems shape size (index + 1) rules []
    else .error (.tooShort index shape size)
  | index, rule :: rules, item :: items => do
    rule.check item
    let (entries, rest) ← checkItems shape size (index + 1) rules items
    return ((rule.name, item) :: entries, rest)

/-- The entries of a record in either form, each checked by its rule. -/
def entries (shape : String) (closed : Bool) (rules : List FieldRule) :
    Json → Except Problem Entries
  | .obj members => do
    checkMembers rules closed members
    return members
  | .arr items => do
    let (entries, rest) ← checkItems shape rules.length 0 rules items
    if rest.isEmpty then return entries else throw (.tooLong items.length)
  | value => .error (.wrongType value shape)

/-- Reads a record; `shape` names it in reports. -/
def read (reader : RecordReader α) (shape : String) (value : Json) : Except Problem α := do
  reader.build (← entries shape false reader.rules value)

/-- Reads a record that may hold no other fields. -/
def readClosed (reader : RecordReader α) (shape : String) (value : Json) : Except Problem α := do
  reader.build (← entries shape true reader.rules value)

end RecordReader
end Noticeboard.Json
