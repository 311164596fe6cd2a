import Noticeboard.Decimal.Layout
import Noticeboard.Text.Quoted
import Noticeboard.Toml.Reader

/-!
# Raw settings

Settings come from a file and from the environment as trees of plain values, each of which knows
where it was given.  Trees are laid over one another; what is given later wins, and tables are
joined member by member.
-/

namespace Noticeboard.Settings

/-- Where a setting was given. -/
inductive Source where
  | file
  | environment
  deriving Repr, DecidableEq

inductive Tree where
  | text (source : Source) (value : String)
  | flag (source : Source) (value : Bool)
  | signed (source : Source) (n : Int)
  | unsigned (source : Source) (n : Nat)
  | real (source : Source) (x : Float)
  | list (source : Source) (items : List Tree)
  | table (source : Source) (members : List (String × Tree))

namespace Tree

def source : Tree → Source
  | .text source _ | .flag source _ | .signed source _ | .unsigned source _ | .real source _
  | .list source _ | .table source _ => source

/-- What a value is called in a report. -/
def describe : Tree → String
  | .text _ value => "string " ++ Text.quoted value
  | .flag _ value => "bool " ++ (if value then "true" else "false")
  | .signed _ n => "signed int `" ++ toString n ++ "`"
  | .unsigned _ n => "unsigned int `" ++ toString n ++ "`"
  | .real _ x => "float `" ++ Layout.plain.render x ++ "`"
  | .list _ _ => "sequence"
  | .table _ _ => "map"

mutual

/-- The value of a settings file. -/
def ofToml : Toml.Value → Tree
  | .text value => .text .file value
  | .whole n => .signed .file n
  | .real x => .real .file x
  | .flag value => .flag .file value
  | .moment written => .table .file [("moment", .text .file written)]
  | .list items => .list .file (ofTomlItems items)
  | .table members => .table .file (ofTomlMembers members)

def ofTomlItems : List Toml.Value → List Tree
  | [] => []
  | item :: rest => ofToml item :: ofTomlItems rest

def ofTomlMembers : List (String × Toml.Value) → List (String × Tree)
  | [] => []
  | (key, value) :: rest => (key, ofToml value) :: ofTomlMembers rest

end

mutual

/-- Lays a tree over another. -/
def laidOver (upper lower : Tree) : Tree :=
  match upper, lower with
  | .table source members, .table _ below => .table source (membersOver members below)
  | upper, _ => upper

/-- Lays members over others, one key at a time. -/
def membersOver (upper lower : List (String × Tree)) : List (String × Tree) :=
  match upper with
  | [] => lower
  | (key, value) :: rest =>
    let placed := match lower.lookup key with
      | some below => lower.map fun member =>
          if member.1 = key then (key, laidOver value below) else member
      | none => lower ++ [(key, value)]
    membersOver rest placed

end

/-- A value under the keys of a path. -/
def nested : List String → Tree → Tree
  | [], value => value
  | key :: path, value => .table value.source [(key, nested path value)]

end Tree
end Noticeboard.Settings
