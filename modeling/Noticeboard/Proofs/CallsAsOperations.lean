import Noticeboard.Proofs.AccessRights

/-!
# Calls as operations

A call of the service is refused and leaves the tables alone, or it answers and does what one
operation of the store answers and does.  A call that comes down to no operation only reads.
-/

namespace Noticeboard.Service

open Store (Session Database Action Outcome)

variable {τ α β : Type} {session : Session τ} {db : Database τ}

/-- A call is refused, or it answers and does what an operation answers and does. -/
def ComesTo (db : Database τ) (outcome other : Outcome τ α) : Prop :=
  outcome.Refused db ∨ outcome.Agrees other

section ComesTo

variable {other : Outcome τ α}

theorem ComesTo.replying {action operation : Action τ α} {wrap : α → Reply}
    (h : ComesTo db (action session db) (operation session db)) :
    ComesTo db (action.replying wrap session db) (operation.replying wrap session db) :=
  h.imp Outcome.Refused.replying Outcome.Agrees.replying

theorem ComesTo.settling {action operation : Action τ Unit}
    (h : ComesTo db (action session db) (operation session db)) :
    ComesTo db (action.settling session db) (operation.settling session db) :=
  h.replying

theorem calling_comesTo {operation : Operation} {details : List (String × Json)}
    {work : Action τ α} (h : ComesTo db (work session db) other) :
    ComesTo db (calling operation details work session db) other :=
  h.imp calling_refused calling_agrees

theorem reads_bind_comesTo {action : Action τ β} {next : β → Action τ α} (h : action.Reads)
    (hnext : ∀ b, ComesTo db (next b session db) other) :
    ComesTo db ((action >>= next) session db) other := by
  have hrefused : ((action >>= next) session db).Refused db ↔
      ∀ b, (action session db).answer = .ok b → (next b session db).Refused db := by
    simp [Outcome.refused_iff_meets, h.meets_iff]
  cases hanswer : (action session db).answer with
  | error failure => exact .inl (hrefused.mpr fun b hok => by simp [hanswer] at hok)
  | ok b =>
      rcases hnext b with hstopped | hagrees
      · left
        apply hrefused.mpr
        rw [hanswer]
        rintro _ ⟨rfl⟩
        exact hstopped
      · exact .inr (h.bind_agrees hanswer hagrees)

theorem unless_comesTo {c : Bool} {failure : Failure} {work : Action τ α}
    (h : ComesTo db (work session db) other) :
    ComesTo db ((do
      if c then Action.fail failure
      work) session db) other := by
  cases c with
  | true => exact reads_bind_comesTo (Action.fail_reads failure) fun _ => h
  | false => exact h

theorem same_comesTo (outcome : Outcome τ α) : ComesTo db outcome outcome :=
  .inr ⟨rfl, rfl⟩

/-- What holds of whatever the operation answers holds of whatever the call answers. -/
theorem ComesTo.meets {outcome : Outcome τ α} {good : α → Database τ → Prop}
    (h : ComesTo db outcome other) (hother : other.Meets good fun _ _ => True) :
    outcome.Meets good fun _ _ => True := by
  rcases h with hrefused | ⟨hanswer, hdatabase⟩
  · exact (Outcome.refused_iff_meets.mp hrefused).mono (fun _ _ h => h.elim) fun _ _ _ => trivial
  · unfold Outcome.Meets at hother ⊢
    rwa [hanswer, hdatabase]

end ComesTo

theorem deleteComment_comesTo (actor : Actor) (commentId : String) :
    ComesTo db (deleteComment actor commentId session db)
      (Store.deleteComment commentId session db) := by
  apply calling_comesTo
  refine reads_bind_comesTo (Store.getComment_reads _) fun comment => ?_
  by_cases hforeign : (comment.userId != actor.userId && !actor.isSuperuser) = true
  · simp only [hforeign]
    refine reads_bind_comesTo (Store.getAdvertisement_reads _) fun advertisement => ?_
    exact unless_comesTo (same_comesTo _)
  · simp only [hforeign]
    exact same_comesTo _

theorem Command.perform_comesTo (settings : EngineSettings) {command : Command}
    {operation : Store.Command} (hoperation : command.operation? = some operation) :
    ComesTo db (command.perform settings session db) (operation.perform session db) := by
  cases command with
  | createAdvertisement actor request => exact .inr (createAdvertisement_agrees request hoperation)
  | createCategory actor draft =>
      obtain rfl := Option.some.inj hoperation
      exact (calling_comesTo (same_comesTo _)).replying
  | updateCategory actor id patch =>
      obtain rfl := Option.some.inj hoperation
      refine ComesTo.replying (calling_comesTo ?_)
      refine reads_bind_comesTo (requireSiteModerator_reads _ _) fun _ => ?_
      exact unless_comesTo (same_comesTo _)
  | deleteCategory actor id =>
      obtain rfl := Option.some.inj hoperation
      refine ComesTo.settling (calling_comesTo ?_)
      exact reads_bind_comesTo (requireSiteModerator_reads _ _) fun _ => same_comesTo _
  | updateAdvertisement actor id patch =>
      obtain rfl := Option.some.inj hoperation
      refine ComesTo.replying (calling_comesTo (unless_comesTo ?_))
      refine reads_bind_comesTo (visibleAdvertisement_reads _ _) fun advertisement => ?_
      exact reads_bind_comesTo (requireManager_reads _ _ _) fun _ => same_comesTo _
  | deleteAdvertisement actor id =>
      obtain rfl := Option.some.inj hoperation
      refine ComesTo.settling (calling_comesTo ?_)
      refine reads_bind_comesTo (visibleAdvertisement_reads _ _) fun advertisement => ?_
      exact reads_bind_comesTo (requireManager_reads _ _ _) fun _ => same_comesTo _
  | approveAdvertisement actor id active =>
      obtain rfl := Option.some.inj hoperation
      refine ComesTo.replying (calling_comesTo ?_)
      exact reads_bind_comesTo (requireSiteModerator_reads _ _) fun _ => same_comesTo _
  | addModerator actor id userId =>
      obtain rfl := Option.some.inj hoperation
      refine ComesTo.settling (calling_comesTo ?_)
      refine reads_bind_comesTo (visibleAdvertisement_reads _ _) fun advertisement => ?_
      exact unless_comesTo (same_comesTo _)
  | addComment actor id content =>
      obtain rfl := Option.some.inj hoperation
      refine ComesTo.replying (calling_comesTo ?_)
      exact reads_bind_comesTo (visibleAdvertisement_reads _ _) fun _ => same_comesTo _
  | deleteComment actor commentId =>
      obtain rfl := Option.some.inj hoperation
      exact (deleteComment_comesTo actor commentId).settling
  | likeAdvertisement actor id =>
      obtain rfl := Option.some.inj hoperation
      refine ComesTo.replying (calling_comesTo ?_)
      exact reads_bind_comesTo (visibleAdvertisement_reads _ _) fun _ => same_comesTo _
  | saveAdvertisement actor id =>
      obtain rfl := Option.some.inj hoperation
      refine ComesTo.replying (calling_comesTo ?_)
      exact reads_bind_comesTo (visibleAdvertisement_reads _ _) fun _ => same_comesTo _
  | _ => contradiction

/-- A call that comes down to no operation only reads. -/
theorem Command.perform_reads (settings : EngineSettings) {command : Command}
    (hnone : command.operation? = none) :
    (command.perform settings session db).database = db := by
  cases command with
  | searchCategories request => exact (searching_reads (Action.query_reads _)).replying session db
  | searchAdvertisements request =>
      exact (searching_reads (Action.query_reads _)).replying session db
  | listCategories page => exact (listing_reads (Action.query_reads _)).replying session db
  | listAdvertisements page => exact (listing_reads (Action.query_reads _)).replying session db
  | getCategory id name => exact (getCategory_reads id name).replying session db
  | getAdvertisement actor id => exact (getAdvertisement_reads actor id).replying session db
  | createAdvertisement actor request =>
      obtain ⟨draft, choice⟩ := request
      cases choice with
      | existing => contradiction
      | new => contradiction
  | _ => contradiction

/-- The tables after a call are those before it or those after its operation. -/
theorem Command.perform_database (settings : EngineSettings) (command : Command) :
    (command.perform settings session db).database = db ∨
      ∃ operation, command.operation? = some operation ∧
        (command.perform settings session db).database = (operation.perform session db).database := by
  cases hoperation : command.operation? with
  | none => exact .inl (command.perform_reads settings hoperation)
  | some operation =>
      rcases command.perform_comesTo settings hoperation with hrefused | hagrees
      · exact .inl hrefused.2
      · exact .inr ⟨operation, rfl, hagrees.2⟩

end Noticeboard.Service
