import Noticeboard.Failure
import Noticeboard.Records.Category
import Noticeboard.Store.Database

/-!
# Row writes

The ways in which the tables change.  A write either gives the tables after it or a fault, and a
fault leaves nothing behind.  The tables themselves refuse repeated keys, references to nothing, and
prices below zero.

Triggers may be set on a database.  One kind refuses every row write of a sort before any other
check; the others remove the category of a new advertisement, or an advertisement that was just
liked.  Deletions reach the rows that refer to what is deleted, and triggers see those as well.
-/

namespace Noticeboard.Store

/-- The sorts of row writes that a trigger can refuse. -/
inductive RowWrite where
  | insertCategory
  | updateCategory
  | deleteCategory
  | insertAdvertisement
  | addScore
  | insertModerator
  | insertComment
  | deleteComment
  | insertLike
  deriving Repr, DecidableEq

inductive Trigger where
  | refuse (write : RowWrite) (fault : DatabaseFault)
  | dropCategory
  | dropAdvertisement
  deriving Repr, DecidableEq

/-- The triggers of a database, the latest first. -/
abbrev Triggers := List Trigger

namespace Triggers

/-- The fault of the latest trigger that refuses this sort of write. -/
def refusal? : Triggers → RowWrite → Option DatabaseFault
  | [], _ => none
  | .refuse refused fault :: rest, write =>
    if refused = write then some fault else refusal? rest write
  | _ :: rest, write => refusal? rest write

def permit (triggers : Triggers) (write : RowWrite) : Except DatabaseFault Unit :=
  match triggers.refusal? write with
  | some fault => .error fault
  | none => .ok ()

end Triggers

/-- A change of the tables that also answers something. -/
abbrev Statement (τ α : Type) := Triggers → Database τ → Except DatabaseFault (α × Database τ)

def missingReference : DatabaseFault :=
  .foreignKey "FOREIGN KEY constraint failed"

def repeatedKey (columns : String) : DatabaseFault :=
  .unique ("UNIQUE constraint failed: " ++ columns)

def priceBelowZero : DatabaseFault :=
  .other "CHECK constraint failed: price_cents >= 0"

namespace Statement

variable {τ : Type}

def insertCategory (row : CategoryRow τ) : Statement τ Unit := fun triggers db => do
  triggers.permit .insertCategory
  if db.hasCategory row.id then throw (repeatedKey "categories.id")
  if db.categories.any (fun other => other.name == row.name) then
    throw (repeatedKey "categories.name")
  return ((), { db with categories := db.categories ++ [row] })

/-- Changes the category of an id, if there is one; the answer tells whether there was. -/
def updateCategory (id name : String) (description : Option String) (updatedAt : τ) :
    Statement τ Bool := fun triggers db => do
  if db.hasCategory id then
    triggers.permit .updateCategory
    if db.categories.any (fun other => other.name == name && other.id != id) then
      throw (repeatedKey "categories.name")
    let change (row : CategoryRow τ) : CategoryRow τ :=
      if row.id = id then { row with name, description, updatedAt } else row
    return (true, { db with categories := db.categories.map change })
  else return (false, db)

/-- Changes the fields that are given in the category of an id, if there is one; the answer is the
row as it is then. -/
def patchCategory (id : String) (name : Option String) (description : Edit String)
    (updatedAt : τ) : Statement τ (Option (CategoryRow τ)) := fun triggers db => do
  match db.category? id with
  | some row =>
    let name := name.getD row.name
    let description := description.apply row.description
    let (_, changed) ← updateCategory id name description updatedAt triggers db
    return (some { row with name, description, updatedAt }, changed)
  | none => return (none, db)

/-- Removing these advertisements removes their comments too, which a trigger may refuse. -/
def permitDrop (triggers : Triggers) (db : Database τ) (gone : String → Bool) :
    Except DatabaseFault Unit :=
  if db.comments.any fun row => gone row.advertisementId then triggers.permit .deleteComment
  else .ok ()

def deleteCategory (id : String) : Statement τ Bool := fun triggers db => do
  if db.hasCategory id then
    triggers.permit .deleteCategory
    permitDrop triggers db (db.isIn id)
    return (true, db.dropCategory id)
  else return (false, db)

/-- Adds an advertisement.  If its category disappears first, it refers to nothing. -/
def insertAdvertisement (row : AdvertisementRow τ) : Statement τ Unit := fun triggers db => do
  triggers.permit .insertAdvertisement
  if triggers.contains .dropCategory then
    let _ ← deleteCategory row.categoryId triggers db
    throw missingReference
  if row.priceCents < 0 then throw priceBelowZero
  if db.hasAdvertisement row.id then throw (repeatedKey "advertisements.id")
  if !db.hasCategory row.categoryId then throw missingReference
  return ((), { db with advertisements := db.advertisements ++ [row] })

def changeAdvertisement (db : Database τ) (id : String)
    (change : AdvertisementRow τ → AdvertisementRow τ) : Database τ :=
  { db with
    advertisements := db.advertisements.map fun row => if row.id = id then change row else row }

def updateAdvertisement (id title : String) (description : Option String) (priceCents : Int64)
    (categoryId : String) (updatedAt : τ) : Statement τ Bool := fun _ db => do
  if db.hasAdvertisement id then
    if priceCents < 0 then throw priceBelowZero
    if !db.hasCategory categoryId then throw missingReference
    return (true, changeAdvertisement db id fun row =>
      { row with title, description, priceCents, categoryId, updatedAt })
  else return (false, db)

def setActive (id : String) (active : Bool) (updatedAt : τ) : Statement τ Bool := fun _ db =>
  if db.hasAdvertisement id then
    .ok (true, changeAdvertisement db id fun row => { row with isActive := active, updatedAt })
  else .ok (false, db)

def deleteAdvertisement (id : String) : Statement τ Bool := fun triggers db => do
  if db.hasAdvertisement id then
    permitDrop triggers db (· == id)
    return (true, db.dropAdvertisements (· == id))
  else return (false, db)

/-- Adds a moderator; one who is there already is not added again. -/
def insertModerator (row : ModeratorRow) : Statement τ Unit := fun triggers db => do
  triggers.permit .insertModerator
  if db.moderators.contains row then return ((), db)
  if !db.hasAdvertisement row.advertisementId then throw missingReference
  return ((), { db with moderators := db.moderators ++ [row] })

def insertComment (row : CommentRow τ) : Statement τ Unit := fun triggers db => do
  triggers.permit .insertComment
  if db.comments.any (fun other => other.id == row.id) then throw (repeatedKey "comments.id")
  if !db.hasAdvertisement row.advertisementId then throw missingReference
  return ((), { db with comments := db.comments ++ [row] })

/-- Removes a comment; the answer is the advertisement it was at. -/
def deleteComment (id : String) : Statement τ (Option String) := fun triggers db => do
  match db.comment? id with
  | some row =>
    triggers.permit .deleteComment
    return (some row.advertisementId,
      { db with comments := db.comments.filter fun row => row.id != id })
  | none => return (none, db)

def permitReaction (triggers : Triggers) : ReactionKind → Except DatabaseFault Unit
  | .like => triggers.permit .insertLike
  | .save => .ok ()

/-- Adds a reaction.  An advertisement that disappears on being liked takes the like with it. -/
def insertReaction (kind : ReactionKind) (row : ReactionRow τ) : Statement τ Unit :=
  fun triggers db => do
    permitReaction triggers kind
    let present := db.reactions kind
    if present.any (fun other => other.id == row.id) then throw (repeatedKey "id")
    if present.any (fun other =>
        other.userId == row.userId && other.advertisementId == row.advertisementId) then
      throw (repeatedKey "user_id, advertisement_id")
    if !db.hasAdvertisement row.advertisementId then throw missingReference
    let added := db.addReaction kind row
    if kind = .like && triggers.contains .dropAdvertisement then
      let (_, dropped) ← deleteAdvertisement row.advertisementId triggers added
      return ((), dropped)
    else return ((), added)

/-- Moves a score with `add`, which may fault; the answer tells whether the row was there. -/
def addScore (add : Score → Except DatabaseFault Score) (id : String) : Statement τ Bool :=
  fun triggers db => do
    match db.advertisement? id with
    | some row =>
      triggers.permit .addScore
      let score ← add row.score
      return (true, changeAdvertisement db id fun row => { row with score })
    | none => return (false, db)

end Statement
end Noticeboard.Store
