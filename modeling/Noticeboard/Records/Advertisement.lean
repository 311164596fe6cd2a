import Noticeboard.Records.Category

/-!
# Advertisements

An advertisement stands in one category, belongs to its creator, and carries a popularity score.
It is hidden from searches and listings until it is active.
-/

namespace Noticeboard

structure Advertisement where
  id : String
  title : String
  description : Option String
  creatorId : String
  priceCents : Int64
  categoryId : String
  categoryName : String
  score : Int64
  isActive : Bool
  createdAt : Time.Instant
  updatedAt : Time.Instant
  deriving DecidableEq

/-- What its creator gives for an advertisement. -/
structure AdvertisementDraft where
  title : String
  description : Option String
  priceCents : Int64
  deriving DecidableEq

/-- A draft together with the id of its category. -/
structure PlacedDraft where
  draft : AdvertisementDraft
  categoryId : String
  deriving DecidableEq

/-- The category of a new advertisement: one that exists, or one to be created with it. -/
inductive CategoryChoice where
  | existing (id : String)
  | new (draft : CategoryDraft)
  deriving DecidableEq

structure AdvertisementRequest where
  draft : AdvertisementDraft
  category : CategoryChoice
  deriving DecidableEq

/-- A partial update of an advertisement; nothing else of it can be edited. -/
structure AdvertisementPatch where
  title : Option String
  description : Edit String
  priceCents : Option Int64
  categoryId : Option String
  deriving DecidableEq

def AdvertisementPatch.isEmpty (patch : AdvertisementPatch) : Bool :=
  patch.title.isNone && patch.description.isKeep && patch.priceCents.isNone &&
    patch.categoryId.isNone

/-- An advertisement needs a title that is not blank and a price that is not negative. -/
def checkAdvertisement (title : String) (priceCents : Int64) : Except Failure Unit :=
  if (Text.trim title).isEmpty then .error .emptyTitle
  else if priceCents < 0 then .error .negativePrice
  else .ok ()

def AdvertisementDraft.inCategory (draft : AdvertisementDraft) (categoryId : String) :
    PlacedDraft :=
  ⟨draft, categoryId⟩

def PlacedDraft.parts (placed : PlacedDraft) : String × AdvertisementDraft :=
  (placed.categoryId, placed.draft)

namespace Advertisement

def toJson (a : Advertisement) : Json :=
  Json.object
    [("id", .str a.id),
     ("title", .str a.title),
     ("description", Json.ofText? a.description),
     ("creator_id", .str a.creatorId),
     ("price_cents", Json.whole a.priceCents.toInt),
     ("category_id", .str a.categoryId),
     ("category_name", .str a.categoryName),
     ("score", Json.whole a.score.toInt),
     ("is_active", .bool a.isActive),
     ("created_at", instantJson a.createdAt),
     ("updated_at", instantJson a.updatedAt)]

def reader : Json.RecordReader Advertisement :=
  Json.RecordReader.value Advertisement.mk
    |>.required "id" Json.readText
    |>.required "title" Json.readText
    |>.nullable "description" Json.readText
    |>.required "creator_id" Json.readText
    |>.required "price_cents" Json.readInt64
    |>.required "category_id" Json.readText
    |>.required "category_name" Json.readText
    |>.required "score" Json.readInt64
    |>.required "is_active" Json.readBool
    |>.required "created_at" Json.readInstant
    |>.required "updated_at" Json.readInstant

def ofJson : Json → Except Json.Problem Advertisement :=
  reader.read "struct Advertisement"

end Advertisement

namespace AdvertisementDraft

def members (draft : AdvertisementDraft) : List (String × Json) :=
  [("title", .str draft.title),
   ("description", Json.ofText? draft.description),
   ("price_cents", Json.whole draft.priceCents.toInt)]

def toJson (draft : AdvertisementDraft) : Json :=
  Json.object draft.members

def reader : Json.RecordReader AdvertisementDraft :=
  Json.RecordReader.value AdvertisementDraft.mk
    |>.required "title" Json.readText
    |>.defaulted "description" none (Json.readOptional Json.readText)
    |>.required "price_cents" Json.readInt64

def ofJson : Json → Except Json.Problem AdvertisementDraft :=
  reader.read "struct AdvertisementDraft"

end AdvertisementDraft

namespace PlacedDraft

def toJson (placed : PlacedDraft) : Json :=
  Json.object (("category_id", .str placed.categoryId) :: placed.draft.members)

def reader : Json.RecordReader PlacedDraft :=
  Json.RecordReader.value (fun title description price category =>
      PlacedDraft.mk ⟨title, description, price⟩ category)
    |>.required "title" Json.readText
    |>.defaulted "description" none (Json.readOptional Json.readText)
    |>.required "price_cents" Json.readInt64
    |>.required "category_id" Json.readText

def ofJson : Json → Except Json.Problem PlacedDraft :=
  reader.read "struct NewAdvertisement"

end PlacedDraft

namespace CategoryChoice

def toJson : CategoryChoice → Json
  | .existing id => Json.object [("existing", .str id)]
  | .new draft => Json.object [("new", draft.toJson)]

/-- Reads the value of a choice by its name; a bare name has no value. -/
def ofNamed (name : String) (value : Option Json) : Except Json.Problem CategoryChoice :=
  if name = "existing" then
    match value with
    | some value => (Json.readText value).map .existing
    | none => .error .bareVariant
  else if name = "new" then
    match value with
    | some value => (CategoryDraft.ofJson value).map .new
    | none => .error .bareVariant
  else .error (.unknownVariant name ["existing", "new"])

/-- A choice is an object with one member, named for the kind of choice. -/
def ofJson : Json → Except Json.Problem CategoryChoice
  | .obj [(name, value)] => ofNamed name (some value)
  | .obj members => .error (.wrongValue (.obj members) "map with a single key")
  | .str name => ofNamed name none
  | value => .error (.wrongType value "string or map")

end CategoryChoice

namespace AdvertisementRequest

def toJson (request : AdvertisementRequest) : Json :=
  Json.object (("category", request.category.toJson) :: request.draft.members)

def reader : Json.RecordReader AdvertisementRequest :=
  Json.RecordReader.value (fun title description price category =>
      AdvertisementRequest.mk ⟨title, description, price⟩ category)
    |>.required "title" Json.readText
    |>.defaulted "description" none (Json.readOptional Json.readText)
    |>.required "price_cents" Json.readInt64
    |>.required "category" CategoryChoice.ofJson

def ofJson : Json → Except Json.Problem AdvertisementRequest :=
  reader.read "struct CreateAdvertisement"

end AdvertisementRequest

namespace AdvertisementPatch

def toJson (patch : AdvertisementPatch) : Json :=
  Json.object
    ([("title", Json.ofText? patch.title),
      ("price_cents", (patch.priceCents.map fun price => Json.whole price.toInt).getD .null),
      ("category_id", Json.ofText? patch.categoryId)] ++
      patch.description.member "description")

def reader : Json.RecordReader AdvertisementPatch :=
  Json.RecordReader.value AdvertisementPatch.mk
    |>.nullable "title" Json.readText
    |>.defaulted "description" .keep Edit.read
    |>.nullable "price_cents" Json.readInt64
    |>.nullable "category_id" Json.readText

def ofJson : Json → Except Json.Problem AdvertisementPatch :=
  reader.readClosed "struct UpdateAdvertisement"

end AdvertisementPatch

/-- Reads a patch from outside: it has to be an object, and its problems are input errors. -/
def readPatch (read : Json → Except Json.Problem α) : Json → Except Failure α
  | .obj members => (read (.obj members)).mapError .badPatch
  | _ => .error .patchNotObject

end Noticeboard
