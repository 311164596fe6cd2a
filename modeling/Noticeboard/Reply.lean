import Noticeboard.Records.Engagement
import Noticeboard.Search.Ranking

/-!
# Replies

What a successful command answers.
-/

namespace Noticeboard

inductive Reply where
  | done
  | category (category : Category)
  | categories (categories : List Category)
  | categoryPage (page : Page Category)
  | advertisement (advertisement : Advertisement)
  | advertisements (advertisements : List Advertisement)
  | advertisementPage (page : Page Advertisement)
  | users (ids : List String)
  | comment (comment : Comment)
  | reaction (reaction : Reaction)

def Reply.toJson : Reply → Json
  | .done => .null
  | .category found => found.toJson
  | .categories all => .arr (all.map Category.toJson)
  | .categoryPage page => page.toJson Category.toJson
  | .advertisement found => found.toJson
  | .advertisements all => .arr (all.map Advertisement.toJson)
  | .advertisementPage page => page.toJson Advertisement.toJson
  | .users ids => .arr (ids.map Json.str)
  | .comment found => found.toJson
  | .reaction made => made.toJson

end Noticeboard
