import Noticeboard.Failure
import Noticeboard.Json.Record
import Noticeboard.Text.Blank
import Noticeboard.Text.WordFinal
import Noticeboard.Time.Timestamp

/-!
# Categories

A category has a unique name, kept trimmed and in lower case, and perhaps a description.
-/

namespace Noticeboard

/-- How a patch treats a field that may be unset. -/
inductive Edit (α : Type) where
  | keep
  | clear
  | set (value : α)
  deriving DecidableEq

namespace Edit

/-- The field after the edit. -/
def apply : Edit α → Option α → Option α
  | .keep, old => old
  | .clear, _ => none
  | .set value, _ => some value

def isKeep : Edit α → Bool
  | .keep => true
  | _ => false

/-- An edit that was given, where null clears the field. -/
def ofOptional : Option α → Edit α
  | none => .clear
  | some value => .set value

/-- The member that stands for an edit; a kept field has none. -/
def member (name : String) : Edit String → List (String × Json)
  | .keep => []
  | .clear => [(name, .null)]
  | .set value => [(name, .str value)]

def read (value : Json) : Except Json.Problem (Edit String) :=
  (Json.readOptional Json.readText value).map ofOptional

end Edit

def instantJson (t : Time.Instant) : Json :=
  .str t.text

structure Category where
  id : String
  name : String
  description : Option String
  createdAt : Time.Instant
  updatedAt : Time.Instant
  deriving DecidableEq

/-- What is given to create a category. -/
structure CategoryDraft where
  name : String
  description : Option String
  deriving DecidableEq

/-- A partial update of a category. -/
structure CategoryPatch where
  name : Option String
  description : Edit String
  deriving DecidableEq

def CategoryPatch.isEmpty (patch : CategoryPatch) : Bool :=
  patch.name.isNone && patch.description.isKeep

/-- The stored form of a category name; a blank name has none. -/
def normalizeCategoryName (name : String) : Except Failure String :=
  let normalized := Text.lower (Text.trim name)
  if normalized.isEmpty then .error .emptyCategoryName else .ok normalized

namespace Category

def toJson (c : Category) : Json :=
  Json.object
    [("id", .str c.id),
     ("name", .str c.name),
     ("description", Json.ofText? c.description),
     ("created_at", instantJson c.createdAt),
     ("updated_at", instantJson c.updatedAt)]

def reader : Json.RecordReader Category :=
  Json.RecordReader.value Category.mk
    |>.required "id" Json.readText
    |>.required "name" Json.readText
    |>.nullable "description" Json.readText
    |>.required "created_at" Json.readInstant
    |>.required "updated_at" Json.readInstant

def ofJson : Json → Except Json.Problem Category :=
  reader.read "struct Category"

end Category

namespace CategoryDraft

def toJson (draft : CategoryDraft) : Json :=
  Json.object [("name", .str draft.name), ("description", Json.ofText? draft.description)]

def reader : Json.RecordReader CategoryDraft :=
  Json.RecordReader.value CategoryDraft.mk
    |>.required "name" Json.readText
    |>.defaulted "description" none (Json.readOptional Json.readText)

def ofJson : Json → Except Json.Problem CategoryDraft :=
  reader.read "struct CreateCategory"

end CategoryDraft

namespace CategoryPatch

def toJson (patch : CategoryPatch) : Json :=
  Json.object (("name", Json.ofText? patch.name) :: patch.description.member "description")

def reader : Json.RecordReader CategoryPatch :=
  Json.RecordReader.value CategoryPatch.mk
    |>.nullable "name" Json.readText
    |>.defaulted "description" .keep Edit.read

def ofJson : Json → Except Json.Problem CategoryPatch :=
  reader.readClosed "struct UpdateCategory"

end CategoryPatch
end Noticeboard
