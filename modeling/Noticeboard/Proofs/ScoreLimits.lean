import Mathlib.Data.List.Infix
import Noticeboard.Proofs.AccessRights

/-!
# Scores within their limits

An operation that writes or removes a row of a comment or a reaction then moves points.  It keeps
within the limits if the score that it finds there is a 64-bit integer and the exact sum is one too;
then both kinds of database store that sum.
-/

namespace Noticeboard

open Store

variable {τ : Type}

namespace Store

/-- The event whose points an operation moves once its row write went through, and the tables that
it finds then. -/
inductive Command.Moves (session : Session τ) (db : Database τ) :
    Command → ScoreEvent → Database τ → Prop where
  | addComment {draft : CommentDraft} {mid : Database τ}
      (hcontent : checkComment draft.content = .ok ())
      (hwrite : Statement.insertComment
        ⟨session.ids.comment, draft.advertisementId, draft.userId, draft.content, session.stamp⟩
        session.triggers db = .ok ((), mid)) :
      Moves session db (.addComment draft) ⟨.commentAdded, draft.advertisementId⟩ mid
  | deleteComment {id advertisementId : String} {mid : Database τ}
      (hwrite : Statement.deleteComment id session.triggers db = .ok (some advertisementId, mid)) :
      Moves session db (.deleteComment id) ⟨.commentRemoved, advertisementId⟩ mid
  | like {userId advertisementId : String} {mid : Database τ}
      (hwrite : Statement.insertReaction .like
        ⟨session.ids.like, userId, advertisementId, session.stamp⟩ session.triggers db =
          .ok ((), mid)) :
      Moves session db (.likeAdvertisement userId advertisementId) ⟨.likeAdded, advertisementId⟩ mid
  | save {userId advertisementId : String} {mid : Database τ}
      (hwrite : Statement.insertReaction .save
        ⟨session.ids.save, userId, advertisementId, session.stamp⟩ session.triggers db =
          .ok ((), mid)) :
      Moves session db (.saveAdvertisement userId advertisementId) ⟨.saveAdded, advertisementId⟩ mid

/-- The score that an event finds, and the sum that it leaves, are 64-bit integers. -/
def Database.Bears (weights : ScoreWeights) (db : Database τ) (event : ScoreEvent) : Prop :=
  ∀ row, db.advertisement? event.advertisementId = some row → ∃ n : Int64,
    row.score = .whole n ∧ Decimal.isInt64 (n.toInt + (weights.delta event.kind).toInt) = true

def Command.Fits (session : Session τ) (db : Database τ) (command : Command) : Prop :=
  ∀ event mid, command.Moves session db event mid → mid.Bears session.weights event

/-- Writing the row of a comment or a reaction moves no score yet. -/
theorem Command.Moves.advertisement? {session : Session τ} {db mid : Database τ}
    {command : Command} {event : ScoreEvent} (h : command.Moves session db event mid)
    {row : AdvertisementRow τ} (hrow : mid.advertisement? event.advertisementId = some row) :
    db.advertisement? event.advertisementId = some row := by
  have hreaction {kind : ReactionKind} {reaction : ReactionRow τ}
      (hwrite : Statement.insertReaction kind reaction session.triggers db = .ok ((), mid))
      (hrow : mid.advertisement? reaction.advertisementId = some row) :
      db.advertisement? reaction.advertisementId = some row := by
    obtain ⟨-, -, -, -, ⟨-, _, hdropped⟩ | ⟨-, rfl⟩⟩ :=
      Statement.insertReaction_eq_ok_iff.mp hwrite
    · rcases Statement.deleteAdvertisement_eq_ok_iff.mp hdropped with
        ⟨-, -, -, rfl⟩ | ⟨-, -, rfl⟩
      · rw [advertisement?_dropAdvertisements_self] at hrow
        cases hrow
      · rwa [advertisement?_addReaction] at hrow
    · rwa [advertisement?_addReaction] at hrow
  cases h with
  | addComment hcontent hwrite =>
      obtain ⟨-, -, -, rfl⟩ := Statement.insertComment_eq_ok_iff.mp hwrite
      exact hrow
  | deleteComment hwrite =>
      rcases Statement.deleteComment_eq_ok_iff.mp hwrite with ⟨_, -, -, -, rfl⟩ | ⟨-, -, rfl⟩
      · exact hrow
      · exact hrow
  | like hwrite => exact hreaction hwrite hrow
  | save hwrite => exact hreaction hwrite hrow

/-- A score that can take the points of any event. -/
def Score.hasRoom (weights : ScoreWeights) : Score → Bool
  | .whole n =>
      ScoreEvent.Kind.all.all fun kind =>
        Decimal.isInt64 (n.toInt + (weights.delta kind).toInt)
  | .real _ => false

theorem Command.fits_of_room {session : Session τ} {db : Database τ} (command : Command)
    (hroom : ∀ row ∈ db.advertisements, row.score.hasRoom session.weights = true) :
    command.Fits session db := by
  intro event mid hmoves row hrow
  have hfound := List.mem_of_find?_eq_some (hmoves.advertisement? hrow)
  have hscore := hroom row hfound
  cases h : row.score with
  | whole n =>
      rw [h, Score.hasRoom, List.all_eq_true] at hscore
      have hkind : event.kind ∈ ScoreEvent.Kind.all := by
        cases event.kind <;> decide
      exact ⟨n, rfl, hscore event.kind hkind⟩
  | real x =>
      rw [h] at hscore
      exact absurd hscore Bool.false_ne_true

end Store

/-- A call moves points only if it has the right to. -/
def Call.Fits (session : Session τ) (db : Database τ) : Call → Prop
  | .service command => command.Permitted db →
      ∀ operation, command.operation? = some operation → operation.Fits session db
  | .store command => command.Fits session db

namespace Board

/-- The points that each turn of a run brings or takes keep within the limits. -/
def ScoresFit (board : Board τ) (start : Database τ) (turns : List Turn) : Prop :=
  ∀ part turn, part ++ [turn] <+: turns →
    turn.call.Fits (board.session turn) (board.run start part)

variable {board : Board τ} {start : Database τ} {turns : List Turn} {turn : Turn}

theorem ScoresFit.earlier (h : board.ScoresFit start (turns ++ [turn])) :
    board.ScoresFit start turns :=
  fun part last hpart => h part last (hpart.trans (List.prefix_append _ _))

theorem ScoresFit.last (h : board.ScoresFit start (turns ++ [turn])) :
    turn.call.Fits (board.session turn) (board.run start turns) :=
  h turns turn (List.prefix_refl _)

theorem scoresFit_of_room
    (hroom : ∀ part ∈ turns.inits, ∀ row ∈ (board.run start part).advertisements,
      row.score.hasRoom board.weights = true) : board.ScoresFit start turns := by
  intro part turn hpart
  have hinits : part ∈ turns.inits :=
    (List.mem_inits part turns).mpr ((List.prefix_append part [turn]).trans hpart)
  cases turn.call with
  | service command => exact fun _ operation _ => operation.fits_of_room (hroom part hinits)
  | store command => exact command.fits_of_room (hroom part hinits)

end Board
end Noticeboard
