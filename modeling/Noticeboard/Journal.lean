import Noticeboard.Failure
import Noticeboard.Popularity.Event

/-!
# The journal

Every service call leaves entries about what was asked and how it ended, and so do rankings and
score events.  An entry has a level, the part of the program it comes from, a message and named
fields.
-/

namespace Noticeboard

/-- The calls of the service. -/
inductive Operation where
  | searchCategories
  | searchAdvertisements
  | listCategories
  | listAdvertisements
  | getCategory
  | createCategory
  | updateCategory
  | deleteCategory
  | getAdvertisement
  | createAdvertisement
  | updateAdvertisement
  | deleteAdvertisement
  | approveAdvertisement
  | addModerator
  | addComment
  | deleteComment
  | likeAdvertisement
  | saveAdvertisement
  deriving Repr, DecidableEq

def Operation.name : Operation → String
  | .searchCategories => "search_categories"
  | .searchAdvertisements => "search_advertisements"
  | .listCategories => "list_categories"
  | .listAdvertisements => "list_advertisements"
  | .getCategory => "get_category"
  | .createCategory => "create_category"
  | .updateCategory => "update_category"
  | .deleteCategory => "delete_category"
  | .getAdvertisement => "get_advertisement"
  | .createAdvertisement => "create_advertisement"
  | .updateAdvertisement => "update_advertisement"
  | .deleteAdvertisement => "delete_advertisement"
  | .approveAdvertisement => "approve_advertisement"
  | .addModerator => "add_moderator"
  | .addComment => "add_comment"
  | .deleteComment => "delete_comment"
  | .likeAdvertisement => "like_advertisement"
  | .saveAdvertisement => "save_advertisement"

namespace Journal

inductive Level where
  | trace
  | debug
  | info
  | warn
  | error
  deriving Repr, DecidableEq

def Level.name : Level → String
  | .trace => "TRACE"
  | .debug => "DEBUG"
  | .info => "INFO"
  | .warn => "WARN"
  | .error => "ERROR"

/-- How much a level matters, from one on. -/
def Level.rank : Level → Nat
  | .trace => 1
  | .debug => 2
  | .info => 3
  | .warn => 4
  | .error => 5

/-- Where a store was opened. -/
inductive Opened where
  | memory
  | file (url : String)
  | server

/-- The entries. -/
inductive Entry where
  | opened (store : Opened)
  | called (operation : Operation) (details : List (String × Json))
  | succeeded (operation : Operation)
  | found (operation : Operation) (total : Nat) (page : UInt32) (query : String)
  | listed (operation : Operation) (total : Nat) (page : UInt32)
  | failed (operation : Operation) (failure : Failure)
  | ranked (query : String) (matched : Nat) (topScore : Float)
  | scored (event : ScoreEvent) (delta : Int64)
  | unscored (event : ScoreEvent) (failure : Failure)

namespace Entry

def level : Entry → Level
  | .opened _ | .called _ _ | .succeeded _ | .found _ _ _ _ | .listed _ _ _ => .info
  | .failed _ _ | .unscored _ _ => .warn
  | .ranked _ _ _ | .scored _ _ => .debug

/-- The part of the program that an entry comes from. -/
def target : Entry → String
  | .opened _ => "classifieds::store"
  | .called _ _ | .succeeded _ | .found _ _ _ _ | .listed _ _ _ | .failed _ _ =>
    "classifieds::service"
  | .ranked _ _ _ => "classifieds::search"
  | .scored _ _ | .unscored _ _ => "classifieds::scoring"

def message : Entry → String
  | .opened .memory => "In-memory SQLite store initialized"
  | .opened (.file _) => "SQLite store initialized"
  | .opened .server => "PostgreSQL store initialized"
  | .called _ _ => "Service call"
  | .succeeded _ => "Service call succeeded"
  | .found _ total _ query => "Found " ++ toString total ++ " matching the query '" ++ query ++ "'"
  | .listed _ total _ => "Listed " ++ toString total ++ " items"
  | .failed _ _ => "Service call failed"
  | .ranked _ _ _ => "Ranked candidates"
  | .scored _ _ => "Score updated"
  | .unscored _ _ => "Score update failed"

/-- The fields of an entry besides its message. -/
def details : Entry → List (String × Json)
  | .opened (.file url) => [("database_url", .str url)]
  | .opened _ => []
  | .called operation details => ("operation", .str operation.name) :: details
  | .succeeded operation => [("operation", .str operation.name)]
  | .found operation total page _ | .listed operation total page =>
    [("operation", .str operation.name), ("total", Json.whole total),
     ("page", Json.whole page.toNat)]
  | .failed operation failure =>
    [("operation", .str operation.name), ("code", .str failure.kind.code),
     ("error", .str failure.message)]
  | .ranked query matched topScore =>
    [("query", .str query), ("matched", Json.whole matched), ("top_score", Json.real topScore)]
  | .scored event delta =>
    [("advertisement_id", .str event.advertisementId), ("event", .str event.kind.name),
     ("delta", Json.whole delta.toInt)]
  | .unscored event failure =>
    [("advertisement_id", .str event.advertisementId), ("event", .str event.kind.name),
     ("error", .str failure.message)]

def fields (entry : Entry) : List (String × Json) :=
  ("message", .str entry.message) :: entry.details

def toJson (entry : Entry) : Json :=
  Json.object
    [("level", .str entry.level.name), ("target", .str entry.target),
     ("fields", Json.object entry.fields)]

end Entry
end Journal
end Noticeboard
