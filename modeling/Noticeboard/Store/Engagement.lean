import Noticeboard.Store.Advertisements

/-!
# Comments and reactions in the store

Every comment that comes or goes and every new reaction moves the score of its advertisement in the
same transaction.  The score is a running count and is never computed anew.
-/

namespace Noticeboard.Store

variable {τ : Type}

/-- Adds to the score of an advertisement that has to be there. -/
def increment (advertisementId : String) (delta : Int64) : Action τ Unit := do
  let session ← Action.session
  let found ← Action.execute
    (Statement.addScore (fun score => session.backend.addScore score delta) advertisementId)
    .database
  Action.expectRow (.lostAdvertisement advertisementId) found

/-- Moves the score by the weight of an event; the answer is what was added. -/
def applyEvent (event : ScoreEvent) : Action τ Int64 := do
  let session ← Action.session
  let delta := session.weights.delta event.kind
  Action.reporting
    (fun
      | .ok _ => .scored event delta
      | .error failure => .unscored event failure)
    (increment event.advertisementId delta)
  return delta

/-- Applies events in one transaction, which the first failure undoes. -/
def applyEvents (events : List ScoreEvent) : Action τ (List Int64) :=
  Action.transaction (events.mapM applyEvent)

def addComment (draft : CommentDraft) : Action τ Comment := do
  Action.ofExcept (checkComment draft.content)
  let session ← Action.session
  let id := session.ids.comment
  let row : CommentRow τ :=
    ⟨id, draft.advertisementId, draft.userId, draft.content, session.backend.stamp session.now⟩
  Action.transaction do
    Action.execute (Statement.insertComment row) (onMissing draft.advertisementId)
    let _ ← applyEvent ⟨.commentAdded, draft.advertisementId⟩
    return ⟨id, draft.advertisementId, draft.userId, draft.content, session.now.toMicros⟩

def getComment (id : String) : Action τ Comment :=
  Action.query fun backend db =>
    match db.comment? id with
    | some row => backend.readComment row
    | none => .error (.noComment id)

def deleteComment (id : String) : Action τ Unit :=
  Action.transaction do
    match ← Action.execute (Statement.deleteComment id) .database with
    | some advertisementId =>
      let _ ← applyEvent ⟨.commentRemoved, advertisementId⟩
      return ()
    | none => Action.fail (.noComment id)

namespace ReactionKind

def event : ReactionKind → ScoreEvent.Kind
  | .like => .likeAdded
  | .save => .saveAdded

/-- The failure of a repeated reaction. -/
def again : ReactionKind → Failure
  | .like => .alreadyLiked
  | .save => .alreadySaved

def freshId (ids : FreshIds) : ReactionKind → String
  | .like => ids.like
  | .save => ids.save

end ReactionKind

/-- What a fault of a new reaction means. -/
def reactionFailure (kind : ReactionKind) (advertisementId : String) : DatabaseFault → Failure
  | .foreignKey _ => .noAdvertisement advertisementId
  | .unique _ => kind.again
  | fault => .database fault

def react (kind : ReactionKind) (userId advertisementId : String) : Action τ Reaction := do
  let session ← Action.session
  let id := kind.freshId session.ids
  let row : ReactionRow τ := ⟨id, userId, advertisementId, session.backend.stamp session.now⟩
  Action.transaction do
    Action.execute (Statement.insertReaction kind row) (reactionFailure kind advertisementId)
    let _ ← applyEvent ⟨kind.event, advertisementId⟩
    return ⟨id, userId, advertisementId, session.now.toMicros⟩

def likeAdvertisement (userId advertisementId : String) : Action τ Reaction :=
  react .like userId advertisementId

def saveAdvertisement (userId advertisementId : String) : Action τ Reaction :=
  react .save userId advertisementId

end Noticeboard.Store
