import Noticeboard.Service.Access
import Noticeboard.Service.Call

/-!
# Calls about advertisements

A new advertisement waits for the approval of a site moderator.  Its managers change and delete it,
and its creator names further moderators.
-/

namespace Noticeboard.Service

variable {τ : Type}

def getAdvertisement (actor : Option Actor) (id : String) : Store.Action τ Advertisement :=
  finishing .getAdvertisement (visibleAdvertisement actor id)

def createAdvertisement (actor : Actor) (request : AdvertisementRequest) :
    Store.Action τ Advertisement :=
  calling .createAdvertisement
    [("user_id", .str actor.userId), ("title", .str request.draft.title)] do
    Store.Action.ofExcept (checkAdvertisement request.draft.title request.draft.priceCents)
    match request.category with
    | .existing id => Store.createAdvertisement actor.userId (request.draft.inCategory id)
    | .new category =>
      Store.createAdvertisementWithCategory actor.userId category request.draft

def advertisementDetails (actor : Actor) (id : String) : List (String × Json) :=
  [("user_id", .str actor.userId), ("advertisement_id", .str id)]

def updateAdvertisement (actor : Actor) (id : String) (patch : AdvertisementPatch) :
    Store.Action τ Advertisement :=
  calling .updateAdvertisement (advertisementDetails actor id) do
    if patch.isEmpty then Store.Action.fail .emptyPatch
    let advertisement ← visibleAdvertisement (some actor) id
    requireManager actor advertisement "update this advertisement"
    Store.updateAdvertisement id patch

def deleteAdvertisement (actor : Actor) (id : String) : Store.Action τ Unit :=
  calling .deleteAdvertisement (advertisementDetails actor id) do
    let advertisement ← visibleAdvertisement (some actor) id
    requireManager actor advertisement "delete this advertisement"
    Store.deleteAdvertisement id

/-- Publishes or withdraws an advertisement. -/
def approveAdvertisement (actor : Actor) (id : String) (active : Bool) :
    Store.Action τ Advertisement :=
  calling .approveAdvertisement (advertisementDetails actor id ++ [("active", .bool active)]) do
    requireSiteModerator actor "approve advertisements"
    Store.setAdvertisementActive id active

/-- Only the creator and superusers name moderators. -/
def addModerator (actor : Actor) (id userId : String) : Store.Action τ Unit :=
  calling .addModerator (advertisementDetails actor id ++ [("moderator", .str userId)]) do
    let advertisement ← visibleAdvertisement (some actor) id
    if !ownsOrOverrules actor advertisement then
      Store.Action.fail (.notAllowed "add moderators to this advertisement")
    Store.addModerator id userId

end Noticeboard.Service
