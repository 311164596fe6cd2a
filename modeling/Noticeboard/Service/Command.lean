import Noticeboard.Service.Categories
import Noticeboard.Service.Engagement
import Noticeboard.Service.Search
import Noticeboard.Store.Command

/-!
# Service commands

The calls of the service as data, each with the actor it is made for.
-/

namespace Noticeboard.Service

inductive Command where
  | searchCategories (request : SearchRequest)
  | searchAdvertisements (request : SearchRequest)
  | listCategories (page : UInt32)
  | listAdvertisements (page : UInt32)
  | getCategory (id name : Option String)
  | createCategory (actor : Actor) (draft : CategoryDraft)
  | updateCategory (actor : Actor) (id : String) (patch : CategoryPatch)
  | deleteCategory (actor : Actor) (id : String)
  | getAdvertisement (actor : Option Actor) (id : String)
  | createAdvertisement (actor : Actor) (request : AdvertisementRequest)
  | updateAdvertisement (actor : Actor) (id : String) (patch : AdvertisementPatch)
  | deleteAdvertisement (actor : Actor) (id : String)
  | approveAdvertisement (actor : Actor) (id : String) (active : Bool)
  | addModerator (actor : Actor) (id userId : String)
  | addComment (actor : Actor) (id content : String)
  | deleteComment (actor : Actor) (commentId : String)
  | likeAdvertisement (actor : Actor) (id : String)
  | saveAdvertisement (actor : Actor) (id : String)

variable {τ : Type}

def Command.perform (settings : EngineSettings) : Command → Store.Action τ Reply
  | .searchCategories request => (Service.searchCategories settings request).replying .categoryPage
  | .searchAdvertisements request =>
    (Service.searchAdvertisements settings request).replying .advertisementPage
  | .listCategories page => (Service.listCategories settings page).replying .categoryPage
  | .listAdvertisements page =>
    (Service.listAdvertisements settings page).replying .advertisementPage
  | .getCategory id name => (Service.getCategory id name).replying .category
  | .createCategory actor draft => (Service.createCategory actor draft).replying .category
  | .updateCategory actor id patch => (Service.updateCategory actor id patch).replying .category
  | .deleteCategory actor id => (Service.deleteCategory actor id).settling
  | .getAdvertisement actor id => (Service.getAdvertisement actor id).replying .advertisement
  | .createAdvertisement actor request =>
    (Service.createAdvertisement actor request).replying .advertisement
  | .updateAdvertisement actor id patch =>
    (Service.updateAdvertisement actor id patch).replying .advertisement
  | .deleteAdvertisement actor id => (Service.deleteAdvertisement actor id).settling
  | .approveAdvertisement actor id active =>
    (Service.approveAdvertisement actor id active).replying .advertisement
  | .addModerator actor id userId => (Service.addModerator actor id userId).settling
  | .addComment actor id content => (Service.addComment actor id content).replying .comment
  | .deleteComment actor commentId => (Service.deleteComment actor commentId).settling
  | .likeAdvertisement actor id => (Service.likeAdvertisement actor id).replying .reaction
  | .saveAdvertisement actor id => (Service.saveAdvertisement actor id).replying .reaction

end Noticeboard.Service
