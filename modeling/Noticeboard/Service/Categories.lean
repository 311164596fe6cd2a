import Noticeboard.Service.Access
import Noticeboard.Service.Call

/-!
# Calls about categories

Anybody may create a category; site moderators change and delete them.
-/

namespace Noticeboard.Service

variable {τ : Type}

/-- A text that is not blank, trimmed. -/
def given? (text : Option String) : Option String :=
  (text.map Text.trim).filter fun text => !text.isEmpty

/-- Finds a category by its id or by its name, of which one has to be given. -/
def getCategory (id name : Option String) : Store.Action τ Category :=
  finishing .getCategory
    (match given? id, given? name with
    | some id, none => Store.getCategory id
    | none, some name => Store.findCategoryByName name
    | some _, some _ => Store.Action.fail .twoCategoryKeys
    | none, none => Store.Action.fail .missingCategoryKey)

def createCategory (actor : Actor) (draft : CategoryDraft) : Store.Action τ Category :=
  calling .createCategory [("user_id", .str actor.userId), ("name", .str draft.name)]
    (Store.createCategory draft)

def categoryDetails (actor : Actor) (id : String) : List (String × Json) :=
  [("user_id", .str actor.userId), ("category_id", .str id)]

def updateCategory (actor : Actor) (id : String) (patch : CategoryPatch) :
    Store.Action τ Category :=
  calling .updateCategory (categoryDetails actor id) do
    requireSiteModerator actor "update categories"
    if patch.isEmpty then Store.Action.fail .emptyPatch
    Store.updateCategory id patch

def deleteCategory (actor : Actor) (id : String) : Store.Action τ Unit :=
  calling .deleteCategory (categoryDetails actor id) do
    requireSiteModerator actor "delete categories"
    Store.deleteCategory id

end Noticeboard.Service
