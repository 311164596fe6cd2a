import Noticeboard.Reply
import Noticeboard.Store.Engagement

/-!
# Store commands

The operations of the store as data, for runs of any length.
-/

namespace Noticeboard.Store

inductive Command where
  | createCategory (draft : CategoryDraft)
  | getCategory (id : String)
  | findCategoryByName (name : String)
  | listCategories
  | updateCategory (id : String) (patch : CategoryPatch)
  | deleteCategory (id : String)
  | createAdvertisement (creatorId : String) (placed : PlacedDraft)
  | createAdvertisementWithCategory (creatorId : String) (category : CategoryDraft)
      (draft : AdvertisementDraft)
  | getAdvertisement (id : String)
  | activeAdvertisements
  | updateAdvertisement (id : String) (patch : AdvertisementPatch)
  | setAdvertisementActive (id : String) (active : Bool)
  | deleteAdvertisement (id : String)
  | addModerator (advertisementId userId : String)
  | moderators (advertisementId : String)
  | addComment (draft : CommentDraft)
  | getComment (id : String)
  | deleteComment (id : String)
  | likeAdvertisement (userId advertisementId : String)
  | saveAdvertisement (userId advertisementId : String)

variable {τ : Type}

/-- Runs an action and wraps its answer. -/
def Action.replying (wrap : α → Reply) (action : Action τ α) : Action τ Reply :=
  action.bind fun answer => Action.pure (wrap answer)

def Action.settling (action : Action τ Unit) : Action τ Reply :=
  action.replying fun _ => .done

def Command.perform : Command → Action τ Reply
  | .createCategory draft => (Store.createCategory draft).replying .category
  | .getCategory id => (Store.getCategory id).replying .category
  | .findCategoryByName name => (Store.findCategoryByName name).replying .category
  | .listCategories => Store.listCategories.replying .categories
  | .updateCategory id patch => (Store.updateCategory id patch).replying .category
  | .deleteCategory id => (Store.deleteCategory id).settling
  | .createAdvertisement creatorId placed =>
    (Store.createAdvertisement creatorId placed).replying .advertisement
  | .createAdvertisementWithCategory creatorId category draft =>
    (Store.createAdvertisementWithCategory creatorId category draft).replying .advertisement
  | .getAdvertisement id => (Store.getAdvertisement id).replying .advertisement
  | .activeAdvertisements => Store.activeAdvertisements.replying .advertisements
  | .updateAdvertisement id patch => (Store.updateAdvertisement id patch).replying .advertisement
  | .setAdvertisementActive id active =>
    (Store.setAdvertisementActive id active).replying .advertisement
  | .deleteAdvertisement id => (Store.deleteAdvertisement id).settling
  | .addModerator advertisementId userId => (Store.addModerator advertisementId userId).settling
  | .moderators advertisementId => (Store.moderators advertisementId).replying .users
  | .addComment draft => (Store.addComment draft).replying .comment
  | .getComment id => (Store.getComment id).replying .comment
  | .deleteComment id => (Store.deleteComment id).settling
  | .likeAdvertisement userId advertisementId =>
    (Store.likeAdvertisement userId advertisementId).replying .reaction
  | .saveAdvertisement userId advertisementId =>
    (Store.saveAdvertisement userId advertisementId).replying .reaction

end Noticeboard.Store
