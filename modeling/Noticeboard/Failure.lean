import Noticeboard.Decimal.Layout
import Noticeboard.Json.Problem

/-!
# Failures

A call that cannot be carried out fails with a cause.  Every cause belongs to one of six kinds, and
a few name the input field they are about.  `Failure.message` is the sentence shown to the caller:
the heading of the kind, and what the cause has to say.
-/

namespace Noticeboard

namespace Failure

inductive Kind where
  | invalidInput
  | notFound
  | unauthorized
  | conflict
  | configuration
  | persistence
  deriving Repr, DecidableEq

/-- The short code of a kind. -/
def Kind.code : Kind → String
  | .invalidInput => "INVALID INPUT"
  | .notFound => "NOT FOUND"
  | .unauthorized => "UNAUTHORIZED"
  | .conflict => "CONFLICT"
  | .configuration => "CONFIGURATION"
  | .persistence => "PERSISTENCE FAILURE"

def Kind.heading : Kind → String
  | .invalidInput => "Invalid input: "
  | .notFound => "Not found: "
  | .unauthorized => "Unauthorized: "
  | .conflict => "Conflict: "
  | .configuration => "Configuration error: "
  | .persistence => "Persistence failure: "

end Failure

/-- What a database reports instead of doing its work. -/
inductive DatabaseFault where
  | unique (message : String)
  | foreignKey (message : String)
  | other (message : String)
  | noRow
  | closed
  | noColumn (name : String)
  | garbled (message : String)
  | unreadableScore
  | noTable (name : String)
  | readOnly
  deriving Repr, DecidableEq

def DatabaseFault.message : DatabaseFault → String
  | .unique message | .foreignKey message | .other message =>
    "error returned from database: " ++ message
  | .noRow => "no rows returned by a query that expected to return at least one row"
  | .closed => "attempted to acquire a connection on a closed pool"
  | .noColumn name => "no column found for name: " ++ name
  | .garbled message => "encountered unexpected or invalid data: " ++ message
  | .unreadableScore =>
    "error occurred while decoding column \"score\": mismatched types; Rust type `i64` " ++
      "(as SQL type `INTEGER`) is not compatible with SQL type `REAL`"
  | .noTable name => "error returned from database: relation \"" ++ name ++ "\" does not exist"
  | .readOnly => "error returned from database: (code: 8) attempt to write a readonly database"

/-- Why the tables of a database could not be brought up to date. -/
inductive MigrationFault where
  | unknownVersion (version : Nat)
  | unfinished (version : Nat)
  | stopped (fault : DatabaseFault)
  deriving Repr, DecidableEq

def MigrationFault.message : MigrationFault → String
  | .unknownVersion version =>
    "migration " ++ toString version ++
      " was previously applied but is missing in the resolved migrations"
  | .unfinished version =>
    "migration " ++ toString version ++
      " is partially applied; fix and remove row from `_sqlx_migrations` table"
  | .stopped fault => "while executing migrations: " ++ fault.message

/-- The causes of failure. -/
inductive Failure where
  | emptyCategoryName
  | emptyComment
  | emptyTitle
  | negativePrice
  | queryNotText
  | badPage (shown : String)
  | pageOutOfRange (page : Int)
  | badWeight (weight : Float)
  | missingAdvertisementId
  | missingCategoryKey
  | twoCategoryKeys
  | emptyPatch
  | patchNotObject
  | badPatch (problem : Json.Problem)
  | noCategory (id : String)
  | noCategoryNamed (name : String)
  | noAdvertisement (id : String)
  | hiddenAdvertisement (id : String)
  | noComment (id : String)
  | nothingListed (label : String)
  | nothingMatches (label query : String)
  | notAllowed (deed : String)
  | categoryExists (name : String)
  | categoryNameTaken
  | alreadyLiked
  | alreadySaved
  | emptyPages
  | badThreshold (threshold : Float)
  | unreadableSettings (reason : String)
  | badLocation (url reason : String)
  | lostAdvertisement (id : String)
  | noCounter (id : String)
  | unreadableTime (column text : String) (fault : Time.Fault)
  | unreachable (reason : String)
  | database (fault : DatabaseFault)
  | migration (fault : MigrationFault)
  | stated (kind : Failure.Kind) (field : Option String) (message : String)

namespace Failure

def kind : Failure → Kind
  | .emptyCategoryName | .emptyComment | .emptyTitle | .negativePrice | .queryNotText
  | .badPage _ | .pageOutOfRange _ | .badWeight _ | .missingAdvertisementId
  | .missingCategoryKey | .twoCategoryKeys | .emptyPatch | .patchNotObject
  | .badPatch _ => .invalidInput
  | .noCategory _ | .noCategoryNamed _ | .noAdvertisement _ | .hiddenAdvertisement _
  | .noComment _ | .nothingListed _ | .nothingMatches _ _ => .notFound
  | .notAllowed _ => .unauthorized
  | .categoryExists _ | .categoryNameTaken | .alreadyLiked | .alreadySaved => .conflict
  | .emptyPages | .badThreshold _ | .unreadableSettings _ | .badLocation _ _ => .configuration
  | .lostAdvertisement _ | .noCounter _ | .unreadableTime _ _ _ | .unreachable _
  | .migration _ => .persistence
  | .database (.unique _) => .conflict
  | .database _ => .persistence
  | .stated kind _ _ => kind

/-- The input field that a cause is about. -/
def field : Failure → Option String
  | .emptyCategoryName => some "name"
  | .emptyComment => some "content"
  | .emptyTitle => some "title"
  | .negativePrice => some "price_cents"
  | .queryNotText => some "query"
  | .badPage _ | .pageOutOfRange _ => some "page_no"
  | .badWeight _ => some "weight"
  | .missingAdvertisementId => some "id"
  | .missingCategoryKey | .twoCategoryKeys => some "category"
  | .emptyPatch | .patchNotObject | .badPatch _ => some "data"
  | .stated .invalidInput field _ => field
  | _ => none

/-- What a cause has to say, without the heading of its kind. -/
def detail : Failure → String
  | .emptyCategoryName => "Category name cannot be empty."
  | .emptyComment => "Comment content cannot be empty."
  | .emptyTitle => "Advertisement title cannot be empty."
  | .negativePrice => "Price cannot be negative."
  | .queryNotText => "Search query must be a string."
  | .badPage shown => "Page number must be a positive integer, got " ++ shown ++ "."
  | .pageOutOfRange page => "Page number " ++ toString page ++ " is out of range."
  | .badWeight weight =>
    "Field weight must be a non-negative number, got " ++ Layout.plain.render weight ++ "."
  | .missingAdvertisementId => "Advertisement ID must be provided."
  | .missingCategoryKey => "Category ID or name must be provided."
  | .twoCategoryKeys => "Provide either a category ID or a name, not both."
  | .emptyPatch => "No fields to update."
  | .patchNotObject => "Update data must be a JSON object."
  | .badPatch problem => problem.message
  | .noCategory id => "Category with ID " ++ id ++ " does not exist."
  | .noCategoryNamed name => "Category with name " ++ name ++ " does not exist."
  | .noAdvertisement id => "Advertisement with ID " ++ id ++ " does not exist."
  | .hiddenAdvertisement id =>
    "Advertisement with ID " ++ id ++ " does not exist or is inactive."
  | .noComment id => "Comment with ID " ++ id ++ " does not exist."
  | .nothingListed label => "No " ++ label ++ " exist."
  | .nothingMatches label query =>
    "No " ++ label ++ " found matching the query '" ++ query ++ "'."
  | .notAllowed deed => "User is not authorized to " ++ deed ++ "."
  | .categoryExists name => "Category '" ++ name ++ "' already exists."
  | .categoryNameTaken => "A category with that name already exists."
  | .alreadyLiked => "Advertisement already liked by this user."
  | .alreadySaved => "Advertisement already saved by this user."
  | .emptyPages => "engine.page_size must be at least 1"
  | .badThreshold threshold =>
    "engine.match_threshold must be a non-negative number, got " ++
      Layout.plain.render threshold
  | .unreadableSettings reason => "Failed to load config: " ++ reason
  | .badLocation url reason => "Invalid database_url '" ++ url ++ "': " ++ reason
  | .lostAdvertisement id => "Score update failed: advertisement " ++ id ++ " no longer exists"
  | .noCounter id => "no counter " ++ id
  | .unreadableTime column text fault =>
    "Parse " ++ column ++ " '" ++ text ++ "': " ++ fault.message
  | .unreachable reason => "Failed to connect to database: " ++ reason
  | .database (.unique message) => message
  | .database fault => fault.message
  | .migration fault => "Migration failed: " ++ fault.message
  | .stated _ _ message => message

def message (failure : Failure) : String :=
  failure.kind.heading ++ failure.detail

end Failure
end Noticeboard
