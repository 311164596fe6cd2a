import Noticeboard.Proofs.Changes
import Noticeboard.Service.Command

/-!
# What a call does to the tables

A call of the service reads what it needs to decide whether it is allowed, and then performs at
most one operation of the store.  So it does to the tables what an operation does.
-/

namespace Noticeboard.Service

open Store (Session Database Action Outcome)

variable {τ α E F : Type} {session : Session τ} {db : Database τ}

section

variable {good : α → Database τ → Prop} {bad : Failure → Database τ → Prop}

@[simp] theorem meets_finishing {operation : Operation} {work : Action τ α} :
    (finishing operation work session db).Meets good bad ↔ (work session db).Meets good bad :=
  Action.meets_reporting

@[simp] theorem meets_calling {operation : Operation} {details : List (String × Json)}
    {work : Action τ α} :
    (calling operation details work session db).Meets good bad ↔
      (work session db).Meets good bad := by
  simp [calling]

@[simp] theorem meets_finishingPage {operation : Operation} {work : Action τ (Page E)}
    {good : Page E → Database τ → Prop} :
    (finishingPage operation work session db).Meets good bad ↔
      (work session db).Meets good bad :=
  Action.meets_reporting

end

/-! ## Reads -/

theorem canManage_reads (actor : Actor) (advertisement : Advertisement) :
    (canManage actor advertisement : Action τ Bool).Reads := by
  rw [Action.reads_iff_meets]
  intro session db
  simp [canManage, (Store.moderators_reads _).meets_iff]

theorem requireManager_reads (actor : Actor) (advertisement : Advertisement) (deed : String) :
    (requireManager actor advertisement deed : Action τ Unit).Reads := by
  rw [Action.reads_iff_meets]
  intro session db
  simp [requireManager, (canManage_reads actor advertisement).meets_iff]

theorem requireSiteModerator_reads (actor : Actor) (deed : String) :
    (requireSiteModerator actor deed : Action τ Unit).Reads := by
  rw [Action.reads_iff_meets]
  intro session db
  simp [requireSiteModerator]

theorem visibleAdvertisement_reads (actor : Option Actor) (id : String) :
    (visibleAdvertisement actor id : Action τ Advertisement).Reads := by
  rw [Action.reads_iff_meets]
  intro session db
  cases actor with
  | none => simp [visibleAdvertisement, (Store.getAdvertisement_reads _).meets_iff]
  | some actor =>
      simp [visibleAdvertisement, (Store.getAdvertisement_reads _).meets_iff,
        (canManage_reads _ _).meets_iff]

theorem rankNoted_reads [Searchable E F] (settings : EngineSettings)
    (fields : List (WeightedField F)) (params : SearchParams) (corpus : List E) :
    (rankNoted settings fields params corpus : Action τ (Page E)).Reads := by
  rw [Action.reads_iff_meets]
  intro session db
  unfold rankNoted
  cases params.query with
  | none => simp
  | some query =>
      dsimp only
      generalize Ranking.candidates settings fields query corpus = found
      cases found <;> simp

theorem searching_reads [Searchable E F] {settings : EngineSettings} {operation : Operation}
    {fields : List (WeightedField F)} {request : SearchRequest} {corpus : Action τ (List E)}
    (hcorpus : corpus.Reads) :
    (searching settings operation fields request corpus).Reads := by
  rw [Action.reads_iff_meets]
  intro session db
  simp [searching, hcorpus.meets_iff, (rankNoted_reads _ _ _ _).meets_iff]

theorem listing_reads [Searchable E F] {settings : EngineSettings} {operation : Operation}
    {page : UInt32} {corpus : Action τ (List E)} (hcorpus : corpus.Reads) :
    (listing settings operation page corpus).Reads := by
  rw [Action.reads_iff_meets]
  intro session db
  simp [listing, hcorpus.meets_iff]

theorem getCategory_reads (id name : Option String) :
    (getCategory id name : Action τ Category).Reads := by
  rw [Action.reads_iff_meets]
  intro session db
  unfold getCategory
  rw [meets_finishing]
  cases given? id <;> cases given? name <;>
    simp [(Store.getCategory_reads _).meets_iff, Store.findCategoryByName]

theorem getAdvertisement_reads (actor : Option Actor) (id : String) :
    (getAdvertisement actor id : Action τ Advertisement).Reads := by
  rw [Action.reads_iff_meets]
  intro session db
  simp [getAdvertisement, (visibleAdvertisement_reads _ _).meets_iff]

/-! ## Calls -/

theorem calling_settled {operation : Operation} {details : List (String × Json)}
    {work : Action τ α} (h : (work session db).Settled session db) :
    (calling operation details work session db).Settled session db :=
  meets_calling.mpr h

theorem createCategory_settled (actor : Actor) (draft : CategoryDraft) :
    (createCategory actor draft session db).Settled session db :=
  calling_settled (Store.createCategory_settled draft)

theorem updateCategory_settled (actor : Actor) (id : String) (patch : CategoryPatch) :
    (updateCategory actor id patch session db).Settled session db := by
  apply calling_settled
  refine (requireSiteModerator_reads _ _).bind_settled fun _ _ => ?_
  simp only [Outcome.Settled, Action.meets_ite, Action.meets_bind, Action.meets_fail, true_or,
    implies_true, true_and]
  exact fun _ => Store.updateCategory_settled id patch

theorem deleteCategory_settled (actor : Actor) (id : String) :
    (deleteCategory actor id session db).Settled session db := by
  apply calling_settled
  refine (requireSiteModerator_reads _ _).bind_settled fun _ _ => ?_
  exact Store.deleteCategory_settled id

theorem createAdvertisement_settled (actor : Actor) (request : AdvertisementRequest) :
    (createAdvertisement actor request session db).Settled session db := by
  apply calling_settled
  simp only [Outcome.Settled, Action.meets_bind, Action.meets_ofExcept, true_or, implies_true,
    and_true]
  intro _ _
  cases request.category with
  | existing id => exact Store.createAdvertisement_settled _ _
  | new category => exact Store.createAdvertisementWithCategory_settled _ _ _

theorem updateAdvertisement_settled (actor : Actor) (id : String) (patch : AdvertisementPatch) :
    (updateAdvertisement actor id patch session db).Settled session db := by
  apply calling_settled
  simp only [Outcome.Settled, Action.meets_ite, Action.meets_bind, Action.meets_fail,
    (visibleAdvertisement_reads _ _).meets_iff, (requireManager_reads _ _ _).meets_iff, true_or,
    implies_true, and_true, true_and]
  exact fun _ _ _ _ _ => Store.updateAdvertisement_settled id patch

theorem deleteAdvertisement_settled (actor : Actor) (id : String) :
    (deleteAdvertisement actor id session db).Settled session db := by
  apply calling_settled
  refine (visibleAdvertisement_reads _ _).bind_settled fun advertisement _ => ?_
  refine (requireManager_reads _ _ _).bind_settled fun _ _ => ?_
  exact Store.deleteAdvertisement_settled id

theorem approveAdvertisement_settled (actor : Actor) (id : String) (active : Bool) :
    (approveAdvertisement actor id active session db).Settled session db := by
  apply calling_settled
  refine (requireSiteModerator_reads _ _).bind_settled fun _ _ => ?_
  exact Store.setAdvertisementActive_settled id active

theorem addModerator_settled (actor : Actor) (id userId : String) :
    (addModerator actor id userId session db).Settled session db := by
  apply calling_settled
  refine (visibleAdvertisement_reads _ _).bind_settled fun advertisement _ => ?_
  simp only [Outcome.Settled, Action.meets_ite, Action.meets_bind, Action.meets_fail, true_or,
    implies_true, true_and]
  exact fun _ => Store.addModerator_settled id userId

theorem addComment_settled (actor : Actor) (id content : String) :
    (addComment actor id content session db).Settled session db := by
  apply calling_settled
  refine (visibleAdvertisement_reads _ _).bind_settled fun _ _ => ?_
  exact Store.addComment_settled _

theorem deleteComment_settled (actor : Actor) (commentId : String) :
    (deleteComment actor commentId session db).Settled session db := by
  apply calling_settled
  refine (Store.getComment_reads _).bind_settled fun comment _ => ?_
  have hdelete : (Store.deleteComment commentId session db).Settled session db :=
    Store.deleteComment_settled commentId
  simp only [Outcome.Settled, Action.meets_ite, Action.meets_bind, Action.meets_fail,
    (Store.getAdvertisement_reads _).meets_iff, true_or, implies_true, and_true, true_and]
  exact ⟨fun _ _ _ _ => hdelete, fun _ => hdelete⟩

theorem likeAdvertisement_settled (actor : Actor) (id : String) :
    (likeAdvertisement actor id session db).Settled session db := by
  apply calling_settled
  refine (visibleAdvertisement_reads _ _).bind_settled fun _ _ => ?_
  exact Store.react_settled .like _ id

theorem saveAdvertisement_settled (actor : Actor) (id : String) :
    (saveAdvertisement actor id session db).Settled session db := by
  apply calling_settled
  refine (visibleAdvertisement_reads _ _).bind_settled fun _ _ => ?_
  exact Store.react_settled .save _ id

theorem Command.perform_settled (settings : EngineSettings) (command : Command) :
    (command.perform settings session db).Settled session db := by
  cases command with
  | searchCategories request =>
      exact (searching_reads (Action.query_reads _)).settled.replying
  | searchAdvertisements request =>
      exact (searching_reads (Action.query_reads _)).settled.replying
  | listCategories page => exact (listing_reads (Action.query_reads _)).settled.replying
  | listAdvertisements page => exact (listing_reads (Action.query_reads _)).settled.replying
  | getCategory id name => exact (getCategory_reads id name).settled.replying
  | createCategory actor draft => exact (createCategory_settled actor draft).replying
  | updateCategory actor id patch => exact (updateCategory_settled actor id patch).replying
  | deleteCategory actor id => exact (deleteCategory_settled actor id).settling
  | getAdvertisement actor id => exact (getAdvertisement_reads actor id).settled.replying
  | createAdvertisement actor request =>
      exact (createAdvertisement_settled actor request).replying
  | updateAdvertisement actor id patch =>
      exact (updateAdvertisement_settled actor id patch).replying
  | deleteAdvertisement actor id => exact (deleteAdvertisement_settled actor id).settling
  | approveAdvertisement actor id active =>
      exact (approveAdvertisement_settled actor id active).replying
  | addModerator actor id userId => exact (addModerator_settled actor id userId).settling
  | addComment actor id content => exact (addComment_settled actor id content).replying
  | deleteComment actor commentId => exact (deleteComment_settled actor commentId).settling
  | likeAdvertisement actor id => exact (likeAdvertisement_settled actor id).replying
  | saveAdvertisement actor id => exact (saveAdvertisement_settled actor id).replying

end Noticeboard.Service
