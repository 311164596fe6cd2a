import Noticeboard.Store.Action

/-!
# Categories in the store
-/

namespace Noticeboard.Store

variable {τ : Type}

/-- The fault of a repeated key is a conflict of its own kind here, and any other a database
failure. -/
def onRepeat (conflict : Failure) : DatabaseFault → Failure
  | .unique _ => conflict
  | fault => .database fault

def insertCategory (draft : CategoryDraft) : Action τ Category := do
  let name ← Action.ofExcept (normalizeCategoryName draft.name)
  let session ← Action.session
  let now := session.now.toMicros
  let stamp := session.backend.stamp session.now
  let id := session.ids.category
  Action.execute (Statement.insertCategory ⟨id, name, draft.description, stamp, stamp⟩)
    (onRepeat (.categoryExists name))
  return ⟨id, name, draft.description, now, now⟩

def createCategory (draft : CategoryDraft) : Action τ Category :=
  insertCategory draft

def lookUpCategory (id : String) (backend : Backend τ) (db : Database τ) :
    Except Failure Category :=
  match db.category? id with
  | some row => backend.readCategory row
  | none => .error (.noCategory id)

def getCategory (id : String) : Action τ Category :=
  Action.query (lookUpCategory id)

/-- Finds a category by its name, whatever its case. -/
def findCategoryByName (name : String) : Action τ Category :=
  Action.query fun backend db =>
    match db.categories.find? fun row => backend.sameName row.name name with
    | some row => backend.readCategory row
    | none => .error (.noCategoryNamed name)

/-- All categories by ascending name. -/
def listCategories : Action τ (List Category) :=
  Action.query fun backend db =>
    (db.categories.mergeSort fun a b => decide (a.name ≤ b.name)).mapM backend.readCategory

/-- The name after a patch. -/
def patchedName (patch : CategoryPatch) (existing : String) : Except Failure String :=
  match patch.name with
  | some name => normalizeCategoryName name
  | none => .ok existing

/-- Reads a category and writes it with the patch merged into it.  The answer is the record that was
put together, which nobody reads again. -/
def mergeCategory (id : String) (patch : CategoryPatch) : Action τ Category := do
  let existing ← getCategory id
  let name ← Action.ofExcept (patchedName patch existing.name)
  let description := patch.description.apply existing.description
  let session ← Action.session
  let _ ← Action.execute
    (Statement.updateCategory id name description (session.backend.stamp session.now))
    (onRepeat (.categoryExists name))
  return { existing with name, description, updatedAt := session.now.toMicros }

/-- Patches a category where it stands.  The name is checked before anything else, and the answer is
what is stored then. -/
def patchCategory (id : String) (patch : CategoryPatch) : Action τ Category := do
  let name ← Action.ofExcept (patch.name.mapM normalizeCategoryName)
  let session ← Action.session
  let found ← Action.execute
    (Statement.patchCategory id name patch.description (session.backend.stamp session.now))
    (onRepeat .categoryNameTaken)
  match found with
  | some row => Action.ofExcept (session.backend.readCategory row)
  | none => Action.fail (.noCategory id)

def updateCategory (id : String) (patch : CategoryPatch) : Action τ Category := do
  if (← Action.session).backend.patchesInPlace then patchCategory id patch
  else mergeCategory id patch

/-- Deletes a category and all advertisements in it. -/
def deleteCategory (id : String) : Action τ Unit := do
  let found ← Action.execute (Statement.deleteCategory id) .database
  Action.expectRow (.noCategory id) found

end Noticeboard.Store
