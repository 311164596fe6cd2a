import Noticeboard.Json.Record
import Noticeboard.Settings.Engine

/-!
# Score events

Every comment, like and save at an advertisement moves its popularity score by the weight of the
event; a removed comment takes back what it brought.
-/

namespace Noticeboard

namespace ScoreEvent

inductive Kind where
  | commentAdded
  | commentRemoved
  | likeAdded
  | saveAdded
  deriving Repr, DecidableEq

def Kind.name : Kind → String
  | .commentAdded => "comment_added"
  | .commentRemoved => "comment_removed"
  | .likeAdded => "like_added"
  | .saveAdded => "save_added"

def Kind.all : List Kind :=
  [.commentAdded, .commentRemoved, .likeAdded, .saveAdded]

def Kind.ofName? (name : String) : Option Kind :=
  Kind.all.find? fun kind => kind.name == name

/-- The shape of an event's own fields, as reports call it. -/
def Kind.shape : Kind → String
  | .commentAdded => "struct variant ScoreEvent::CommentAdded"
  | .commentRemoved => "struct variant ScoreEvent::CommentRemoved"
  | .likeAdded => "struct variant ScoreEvent::LikeAdded"
  | .saveAdded => "struct variant ScoreEvent::SaveAdded"

end ScoreEvent

structure ScoreEvent where
  kind : ScoreEvent.Kind
  advertisementId : String
  deriving DecidableEq

/-- The points of each kind of event. -/
structure ScoreWeights where
  comment : Int64
  like : Int64
  save : Int64
  deriving DecidableEq

namespace ScoreWeights

def ofSettings (settings : EngineSettings) : ScoreWeights :=
  ⟨settings.commentWeight, settings.likeWeight, settings.saveWeight⟩

def standard : ScoreWeights :=
  ofSettings .standard

/-- What an event adds to the score.  The least weight is its own negative. -/
def delta (weights : ScoreWeights) : ScoreEvent.Kind → Int64
  | .commentAdded => weights.comment
  | .commentRemoved => -weights.comment
  | .likeAdded => weights.like
  | .saveAdded => weights.save

end ScoreWeights

namespace ScoreEvent

def toJson (event : ScoreEvent) : Json :=
  Json.object
    [("kind", .str event.kind.name), ("advertisement_id", .str event.advertisementId)]

def readKind : Json → Except Json.Problem Kind
  | .str name =>
    match Kind.ofName? name with
    | some kind => .ok kind
    | none => .error (.unknownVariant name (Kind.all.map Kind.name))
  | value => .error (.wrongType value "variant identifier")

/-- Reads an event: an object that tells its kind, or a list that begins with it.  The kind is
settled before the advertisement is looked at. -/
def ofJson : Json → Except Json.Problem ScoreEvent
  | .obj members => do
    let some kind := members.lookup "kind" | throw (.missing "kind")
    let kind ← readKind kind
    let some id := members.lookup "advertisement_id" | throw (.missing "advertisement_id")
    return ⟨kind, ← Json.readText id⟩
  | .arr [] => .error (.missing "kind")
  | .arr (kind :: rest) => do
    let kind ← readKind kind
    match rest with
    | [] => throw (.tooShort 0 kind.shape 1)
    | id :: more =>
      let id ← Json.readText id
      if more.isEmpty then return ⟨kind, id⟩ else throw (.surplus rest.length 1)
  | value => .error (.wrongType value "internally tagged enum ScoreEvent")

end ScoreEvent
end Noticeboard
