/-!
# Data values

A data value is null, a truth value, a number, a text, a list, or an object.  An object lists its
members by ascending key, each key once, so equal objects are equal lists.
-/

namespace Noticeboard

/-- A number keeps whether it was written as a whole number. -/
inductive Json.Number where
  | whole (n : Int)
  | real (x : Float)

inductive Json where
  | null
  | bool (value : Bool)
  | num (value : Json.Number)
  | str (value : String)
  | arr (items : List Json)
  | obj (members : List (String × Json))

namespace Json

/-- Puts a member in its place; a member of the same key gives way. -/
def insertMember (key : String) (value : Json) : List (String × Json) → List (String × Json)
  | [] => [(key, value)]
  | (k, v) :: rest =>
    if key = k then (key, value) :: rest
    else if key < k then (key, value) :: (k, v) :: rest
    else (k, v) :: insertMember key value rest

/-- The object with these members, where a later member wins over an earlier one of its key. -/
def object (members : List (String × Json)) : Json :=
  .obj (members.foldl (fun placed member => insertMember member.1 member.2 placed) [])

def whole (n : Int) : Json :=
  .num (.whole n)

def real (x : Float) : Json :=
  .num (.real x)

/-- A text, or null for none. -/
def ofText? : Option String → Json
  | some text => .str text
  | none => .null

/-- The member of an object under a key. -/
def member? (key : String) : Json → Option Json
  | .obj members => members.lookup key
  | _ => none

end Json
end Noticeboard
