import Noticeboard.Store.Categories

/-!
# Advertisements in the store
-/

namespace Noticeboard.Store

variable {τ : Type}

/-- A new advertisement is inactive and has no points. -/
def insertAdvertisement (creatorId : String) (category : Category) (draft : AdvertisementDraft) :
    Action τ Advertisement := do
  let session ← Action.session
  let now := session.now.toMicros
  let stamp := session.backend.stamp session.now
  let id := session.ids.advertisement
  let row : AdvertisementRow τ := {
    id
    title := draft.title
    description := draft.description
    creatorId
    priceCents := draft.priceCents
    categoryId := category.id
    score := .whole 0
    isActive := false
    createdAt := stamp
    updatedAt := stamp }
  let explain : DatabaseFault → Failure
    | .foreignKey _ => .noCategory category.id
    | fault => .database fault
  Action.execute (Statement.insertAdvertisement row) explain
  return {
    id
    title := draft.title
    description := draft.description
    creatorId
    priceCents := draft.priceCents
    categoryId := category.id
    categoryName := category.name
    score := 0
    isActive := false
    createdAt := now
    updatedAt := now }

def createAdvertisement (creatorId : String) (placed : PlacedDraft) : Action τ Advertisement := do
  Action.ofExcept (checkAdvertisement placed.draft.title placed.draft.priceCents)
  let category ← getCategory placed.categoryId
  insertAdvertisement creatorId category placed.draft

/-- Creates a category and an advertisement in it, both or neither. -/
def createAdvertisementWithCategory (creatorId : String) (category : CategoryDraft)
    (draft : AdvertisementDraft) : Action τ Advertisement := do
  Action.ofExcept (checkAdvertisement draft.title draft.priceCents)
  Action.transaction do
    let category ← insertCategory category
    insertAdvertisement creatorId category draft

/-- An advertisement is read together with the name of its category. -/
def readJoined (backend : Backend τ) (db : Database τ) (row : AdvertisementRow τ) :
    Option (Except Failure Advertisement) :=
  (db.category? row.categoryId).map fun category => backend.readAdvertisement row category.name

def getAdvertisement (id : String) : Action τ Advertisement :=
  Action.query fun backend db =>
    match (db.advertisement? id).bind (readJoined backend db) with
    | some read => read
    | none => .error (.noAdvertisement id)

/-- Newest first by stored time, and by ascending id among equals. -/
def newerFirst (backend : Backend τ) (a b : AdvertisementRow τ) : Bool :=
  (backend.compareStamps b.createdAt a.createdAt).then (Ord.compare a.id b.id) != .gt

/-- All active advertisements, newest first. -/
def activeAdvertisements : Action τ (List Advertisement) :=
  Action.query fun backend db =>
    let rows := (db.advertisements.filter fun row => row.isActive).mergeSort (newerFirst backend)
    (rows.filterMap (readJoined backend db)).mapM id

def updateAdvertisement (id : String) (patch : AdvertisementPatch) :
    Action τ Advertisement := do
  let existing ← getAdvertisement id
  let title := patch.title.getD existing.title
  let priceCents := patch.priceCents.getD existing.priceCents
  Action.ofExcept (checkAdvertisement title priceCents)
  let description := patch.description.apply existing.description
  let categoryId ← match patch.categoryId with
    | some categoryId => do
      let category ← getCategory categoryId
      pure category.id
    | none => pure existing.categoryId
  let session ← Action.session
  let _ ← Action.execute
    (Statement.updateAdvertisement id title description priceCents categoryId
      (session.backend.stamp session.now)) .database
  getAdvertisement id

/-- Publishes or withdraws an advertisement, and reads it afterwards. -/
def setAdvertisementActive (id : String) (active : Bool) : Action τ Advertisement := do
  let session ← Action.session
  let found ← Action.execute
    (Statement.setActive id active (session.backend.stamp session.now)) .database
  Action.expectRow (.noAdvertisement id) found
  getAdvertisement id

/-- Deletes an advertisement and all that refers to it. -/
def deleteAdvertisement (id : String) : Action τ Unit := do
  let found ← Action.execute (Statement.deleteAdvertisement id) .database
  Action.expectRow (.noAdvertisement id) found

/-- A missing advertisement shows as a reference to nothing. -/
def onMissing (advertisementId : String) : DatabaseFault → Failure
  | .foreignKey _ => .noAdvertisement advertisementId
  | fault => .database fault

/-- Makes a user a moderator of an advertisement; repeating it changes nothing. -/
def addModerator (advertisementId userId : String) : Action τ Unit :=
  Action.execute (Statement.insertModerator ⟨advertisementId, userId⟩) (onMissing advertisementId)

/-- The moderators of an advertisement by ascending id. -/
def moderators (advertisementId : String) : Action τ (List String) :=
  Action.query fun _ db =>
    let rows := db.moderators.filter fun row => row.advertisementId == advertisementId
    .ok ((rows.map ModeratorRow.userId).mergeSort fun a b => decide (a ≤ b))

end Noticeboard.Store
