import Noticeboard.Service.Advertisements

/-!
# Calls about comments, likes and saves

Whoever sees an advertisement may comment on it, like it and save it.  A comment is deleted by its
author, by the creator of the advertisement, or by a superuser.
-/

namespace Noticeboard.Service

variable {τ : Type}

def addComment (actor : Actor) (id content : String) : Store.Action τ Comment :=
  calling .addComment (advertisementDetails actor id) do
    let _ ← visibleAdvertisement (some actor) id
    Store.addComment ⟨id, actor.userId, content⟩

def deleteComment (actor : Actor) (commentId : String) : Store.Action τ Unit :=
  calling .deleteComment
    [("user_id", .str actor.userId), ("comment_id", .str commentId)] do
    let comment ← Store.getComment commentId
    if comment.userId != actor.userId && !actor.isSuperuser then
      let advertisement ← Store.getAdvertisement comment.advertisementId
      if advertisement.creatorId != actor.userId then
        Store.Action.fail (.notAllowed "delete this comment")
    Store.deleteComment commentId

def likeAdvertisement (actor : Actor) (id : String) : Store.Action τ Reaction :=
  calling .likeAdvertisement (advertisementDetails actor id) do
    let _ ← visibleAdvertisement (some actor) id
    Store.likeAdvertisement actor.userId id

def saveAdvertisement (actor : Actor) (id : String) : Store.Action τ Reaction :=
  calling .saveAdvertisement (advertisementDetails actor id) do
    let _ ← visibleAdvertisement (some actor) id
    Store.saveAdvertisement actor.userId id

end Noticeboard.Service
