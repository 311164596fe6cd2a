import Noticeboard.Proofs.Faults

/-!
# Failures are refusals

On the embedded database every failure is a refusal, as long as no trigger is set and every score is
a whole number.  An operation whose write can fault at all says what the fault means there.  The
others have looked first: at the category that an advertisement moves to, or, in the transaction
that moves its score, at the advertisement itself.
-/

namespace Noticeboard

open Store

variable {τ α β E F : Type}

namespace Store

/-! ## Operations on the embedded database -/

/-- The outcome of a call that, if it fails, fails with a refusal. -/
def Outcome.Explained (outcome : Outcome τ α) : Prop :=
  outcome.Meets (fun _ _ => True) fun failure _ => failure.IsRefusal

theorem Action.Reads.explained {action : Action τ α} {session : Session τ} {db : Database τ}
    (h : action.Reads)
    (hfailed : ∀ failure, (action session db).answer = .error failure → failure.IsRefusal) :
    (action session db).Explained := by
  unfold Outcome.Explained
  rw [h.meets_iff]
  exact ⟨fun _ _ => trivial, hfailed⟩

theorem Action.Reads.bind_explained {action : Action τ β} {next : β → Action τ α}
    {session : Session τ} {db : Database τ} (h : action.Reads)
    (hfirst : (action session db).Explained)
    (hnext : ∀ b, (action session db).answer = .ok b → (next b session db).Explained) :
    ((action >>= next) session db).Explained := by
  unfold Outcome.Explained at *
  rw [Action.meets_bind, h.meets_iff]
  exact ⟨hnext, (h.meets_iff.mp hfirst).2⟩

theorem Outcome.Explained.replying {action : Action τ α} {wrap : α → Reply} {session : Session τ}
    {db : Database τ} (h : (action session db).Explained) :
    (action.replying wrap session db).Explained :=
  Action.meets_replying.mpr h

theorem Outcome.Explained.settling {action : Action τ Unit} {session : Session τ}
    {db : Database τ} (h : (action session db).Explained) :
    (action.settling session db).Explained :=
  h.replying

section Operations

/-- Nothing stands in the way of a write, and points can always be added. -/
structure Session.Calm (session : Session τ) : Prop where
  noTriggers : session.triggers = []
  merges : session.backend.patchesInPlace = false
  adds : ∀ score delta, ∃ sum, session.backend.addScore score delta = .ok sum

variable {session : Session τ} {db : Database τ} (hcalm : session.Calm)

include hcalm

theorem insertCategory_explained (draft : CategoryDraft) :
    (insertCategory draft session db).Explained := by
  unfold insertCategory Outcome.Explained
  simp only [Action.meets_bind, Action.meets_ofExcept, Action.meets_session,
    Action.meets_execute, Action.meets_pure, implies_true, true_and]
  refine ⟨fun name _ fault hfault => ?_, fun failure hname => normalizeCategoryName_refusal hname⟩
  obtain ⟨message, rfl⟩ := insertCategory_fault hcalm.noTriggers hfault
  exact onRepeat_refusal (.inr (.inr (.inr rfl)))

theorem updateCategory_explained (id : String) (patch : CategoryPatch)
    (h : db.Legible session.backend) :
    (updateCategory id patch session db).Explained := by
  have hmerge : updateCategory id patch session db = mergeCategory id patch session db := by
    show (if session.backend.patchesInPlace = true then patchCategory id patch
      else mergeCategory id patch) session db = _
    rw [hcalm.merges]
    rfl
  rw [hmerge]
  unfold mergeCategory
  refine (getCategory_reads id).bind_explained ?_ fun existing _ => ?_
  · exact (getCategory_reads id).explained fun failure hfailed => getCategory_refusal h hfailed
  · unfold Outcome.Explained
    simp only [Action.meets_bind, Action.meets_ofExcept, Action.meets_session,
      Action.meets_execute, Action.meets_pure, implies_true, true_and]
    refine ⟨fun name _ fault hfault => ?_, fun failure hname => ?_⟩
    · obtain ⟨message, rfl⟩ := updateCategory_fault hcalm.noTriggers hfault
      exact onRepeat_refusal (.inr (.inr (.inr rfl)))
    · unfold patchedName at hname
      split at hname
      · exact normalizeCategoryName_refusal hname
      · contradiction

theorem deleteCategory_explained (id : String) :
    (deleteCategory id session db).Explained := by
  unfold deleteCategory Outcome.Explained
  simp only [Action.meets_bind, Action.meets_execute, Action.meets_expectRow, implies_true,
    true_and]
  refine ⟨fun found after _ _ => .inr (.inl rfl), fun fault hfault => ?_⟩
  exact absurd hfault (deleteCategory_ne_error hcalm.noTriggers)

theorem insertAdvertisement_explained {creatorId : String} {category : Category}
    {draft : AdvertisementDraft}
    (hcheck : checkAdvertisement draft.title draft.priceCents = .ok ()) :
    (insertAdvertisement creatorId category draft session db).Explained := by
  have hprice : 0 ≤ draft.priceCents := (checkAdvertisement_eq_ok_iff.mp hcheck).2
  unfold insertAdvertisement Outcome.Explained
  simp only [Action.meets_bind, Action.meets_session, Action.meets_execute, Action.meets_pure,
    implies_true, true_and]
  intro fault hfault
  cases insertAdvertisement_fault hcalm.noTriggers hfault hprice with
  | unique message => exact .inr (.inr (.inr rfl))
  | foreignKey message => exact .inr (.inl rfl)

theorem createAdvertisement_explained (creatorId : String) (placed : PlacedDraft)
    (h : db.Legible session.backend) :
    (createAdvertisement creatorId placed session db).Explained := by
  unfold createAdvertisement Outcome.Explained
  simp only [Action.meets_bind, Action.meets_ofExcept, (getCategory_reads _).meets_iff]
  refine ⟨fun _ hcheck => ⟨fun category _ => ?_, fun failure hfailed => ?_⟩,
    fun failure hfailed => ?_⟩
  · exact insertAdvertisement_explained hcalm hcheck
  · exact getCategory_refusal h hfailed
  · exact checkAdvertisement_refusal hfailed

theorem createAdvertisementWithCategory_explained (creatorId : String) (category : CategoryDraft)
    (draft : AdvertisementDraft) :
    (createAdvertisementWithCategory creatorId category draft
      session db).Explained := by
  unfold createAdvertisementWithCategory Outcome.Explained
  simp only [Action.meets_bind, Action.meets_ofExcept, Action.meets_transaction]
  refine ⟨fun _ hcheck => ?_, fun failure hfailed => checkAdvertisement_refusal hfailed⟩
  apply (insertCategory_explained hcalm category).mono
  · exact fun created mid _ => insertAdvertisement_explained hcalm hcheck
  · exact fun failure _ hrefusal => hrefusal

theorem updateAdvertisement_explained (id : String) (patch : AdvertisementPatch)
    (h : db.Legible session.backend) (htimely : session.backend.Timely session.now) :
    (updateAdvertisement id patch session db).Explained := by
  have hreread {title : String} {description : Option String} {priceCents : Int64}
      {categoryId : String} {found : Bool} {after : Database τ} {failure : Failure}
      (hcheck : checkAdvertisement title priceCents = .ok ())
      (hrun : Statement.updateAdvertisement id title description priceCents categoryId
        session.stamp session.triggers db = .ok (found, after))
      (hfailed : (getAdvertisement id session after).answer = .error failure) :
      failure.IsRefusal := by
    refine getAdvertisement_refusal ?_ hfailed
    rcases Statement.updateAdvertisement_eq_ok_iff.mp hrun with
      ⟨-, -, hcategory, -, rfl⟩ | ⟨-, -, rfl⟩
    · exact h.revision htimely (.changeAdvertisement hcheck hcategory)
    · exact h
  have hfault {title : String} {description : Option String} {priceCents : Int64}
      {categoryId : String} {updatedAt : τ} {fault : DatabaseFault}
      (hcheck : checkAdvertisement title priceCents = .ok ())
      (hcategory : db.hasCategory categoryId = true) :
      Statement.updateAdvertisement id title description priceCents categoryId updatedAt
        session.triggers db ≠ .error fault :=
    updateAdvertisement_ne_error hcalm.noTriggers (checkAdvertisement_eq_ok_iff.mp hcheck).2
      hcategory
  unfold updateAdvertisement
  refine (getAdvertisement_reads id).bind_explained ?_ fun existing hread => ?_
  · exact (getAdvertisement_reads id).explained fun _ hfailed => getAdvertisement_refusal h hfailed
  have hplaced := hasCategory_of_getAdvertisement hread
  unfold Outcome.Explained
  cases patch.categoryId with
  | none =>
      simp only [Action.meets_bind, Action.meets_ofExcept, Action.meets_session,
        Action.meets_execute, Action.meets_pure, (getAdvertisement_reads _).meets_iff,
        implies_true, true_and]
      refine ⟨fun _ hcheck => ⟨fun found after hrun failure hfailed => ?_, fun fault hrun => ?_⟩,
        fun failure hfailed => checkAdvertisement_refusal hfailed⟩
      · exact hreread hcheck hrun hfailed
      · exact absurd hrun (hfault hcheck hplaced)
  | some categoryId =>
      simp only [Action.meets_bind, Action.meets_ofExcept, Action.meets_session,
        Action.meets_execute, Action.meets_pure, (getAdvertisement_reads _).meets_iff,
        (getCategory_reads _).meets_iff, implies_true, true_and]
      refine ⟨fun _ hcheck => ⟨fun category hcategory => ?_, fun failure hfailed => ?_⟩,
        fun failure hfailed => checkAdvertisement_refusal hfailed⟩
      · obtain ⟨row, hrow, -, hid, -⟩ := getCategory_eq_ok hcategory
        have hthere := hasCategory_iff.mpr ⟨row, hrow, hid⟩
        refine ⟨fun found after hrun failure hfailed => ?_, fun fault hrun => ?_⟩
        · exact hreread hcheck hrun hfailed
        · exact absurd hrun (hfault hcheck hthere)
      · exact getCategory_refusal h hfailed

theorem setAdvertisementActive_explained (id : String) (active : Bool)
    (h : db.Legible session.backend) (htimely : session.backend.Timely session.now) :
    (setAdvertisementActive id active session db).Explained := by
  unfold setAdvertisementActive Outcome.Explained
  simp only [Action.meets_bind, Action.meets_session, Action.meets_execute,
    Action.meets_expectRow, (getAdvertisement_reads _).meets_iff, implies_true, true_and]
  refine ⟨fun found after hrun => ⟨fun _ failure hfailed => ?_, fun _ => .inr (.inl rfl)⟩,
    fun fault hfault => absurd hfault (setActive_ne_error hcalm.noTriggers)⟩
  refine getAdvertisement_refusal ?_ hfailed
  rcases Statement.setActive_eq_ok_iff.mp hrun with ⟨-, -, rfl⟩ | ⟨-, -, rfl⟩
  · exact h.revision htimely (.setActive id active)
  · exact h

theorem deleteAdvertisement_explained (id : String) :
    (deleteAdvertisement id session db).Explained := by
  unfold deleteAdvertisement Outcome.Explained
  simp only [Action.meets_bind, Action.meets_execute, Action.meets_expectRow, implies_true,
    true_and]
  refine ⟨fun found after _ _ => .inr (.inl rfl), fun fault hfault => ?_⟩
  exact absurd hfault (deleteAdvertisement_ne_error hcalm.noTriggers)

theorem addModerator_explained (advertisementId userId : String) :
    (addModerator advertisementId userId session db).Explained := by
  unfold addModerator Outcome.Explained
  simp only [Action.meets_execute, implies_true, true_and]
  exact fun fault hfault => onMissing_refusal (insertModerator_fault hcalm.noTriggers hfault)

/-- Points can be added to an advertisement that is there. -/
theorem applyEvent_explained {event : ScoreEvent}
    (hpresent : db.hasAdvertisement event.advertisementId = true) :
    (applyEvent event session db).Explained := by
  obtain ⟨row, hrow⟩ := advertisement?_of_hasAdvertisement hpresent
  unfold applyEvent increment Outcome.Explained
  simp only [Action.meets_bind, Action.meets_session, Action.meets_reporting,
    Action.meets_execute, Action.meets_expectRow, Action.meets_pure,
    Statement.addScore_eq_ok_iff, implies_true, true_and]
  refine ⟨fun found after hrun hlost => ?_, fun fault hfault => ?_⟩
  · rcases hrun with ⟨_, _, -, -, -, rfl, -⟩ | ⟨hnone, -⟩
    · contradiction
    · rw [hrow] at hnone
      contradiction
  · exact absurd hfault (addScore_ne_error hcalm.noTriggers fun score => hcalm.adds score _)

theorem addComment_explained (draft : CommentDraft) :
    (addComment draft session db).Explained := by
  unfold addComment Outcome.Explained
  simp only [Action.meets_bind, Action.meets_ofExcept, Action.meets_session,
    Action.meets_transaction, Action.meets_execute, Action.meets_pure]
  refine ⟨fun _ _ => ⟨fun _ mid hrun => ?_, fun fault hfault => ?_⟩,
    fun failure hfailed => checkComment_refusal hfailed⟩
  · obtain ⟨-, -, hpresent, rfl⟩ := Statement.insertComment_eq_ok_iff.mp hrun
    exact applyEvent_explained hcalm hpresent
  · exact onMissing_refusal (insertComment_fault hcalm.noTriggers hfault)

theorem deleteComment_explained (id : String) (h : db.Legible session.backend) :
    (deleteComment id session db).Explained := by
  unfold deleteComment Outcome.Explained
  simp only [Action.meets_bind, Action.meets_transaction, Action.meets_execute]
  refine ⟨fun at? mid hrun => ?_, fun fault hfault =>
    absurd hfault (deleteComment_ne_error hcalm.noTriggers)⟩
  rcases Statement.deleteComment_eq_ok_iff.mp hrun with ⟨row, hrow, -, rfl, rfl⟩ | ⟨-, rfl, rfl⟩
  · -- the comment refers to its advertisement, so that is there
    have hpresent : db.hasAdvertisement row.advertisementId = true :=
      h.orderly.consistent.commentReferences row (List.mem_of_find?_eq_some hrow)
    simp only [Action.meets_bind, Action.meets_pure]
    exact applyEvent_explained hcalm hpresent
  · exact (Action.meets_fail _).mpr (.inr (.inl rfl))

theorem react_explained (kind : ReactionKind) (userId advertisementId : String) :
    (react kind userId advertisementId session db).Explained := by
  unfold react Outcome.Explained
  simp only [Action.meets_bind, Action.meets_session, Action.meets_transaction,
    Action.meets_execute, Action.meets_pure]
  refine ⟨fun _ mid hrun => ?_, fun fault hfault => ?_⟩
  · obtain ⟨-, -, -, hpresent, ⟨⟨-, hset⟩, -⟩ | ⟨-, rfl⟩⟩ :=
      Statement.insertReaction_eq_ok_iff.mp hrun
    · rw [hcalm.noTriggers] at hset
      contradiction
    · apply applyEvent_explained hcalm
      rw [hasAdvertisement_addReaction]
      exact hpresent
  · exact reactionFailure_refusal (insertReaction_fault hcalm.noTriggers hfault)

theorem Command.perform_explained (command : Command) (h : db.Legible session.backend)
    (htimely : session.backend.Timely session.now) :
    (command.perform session db).Explained := by
  cases command with
  | createCategory draft => exact (insertCategory_explained hcalm draft).replying
  | getCategory id =>
      exact ((getCategory_reads id).explained fun _ => getCategory_refusal h).replying
  | findCategoryByName name =>
      exact ((Action.query_reads _).explained fun _ => findCategoryByName_refusal h).replying
  | listCategories =>
      exact ((Action.query_reads _).explained fun _ hfailed =>
        absurd hfailed (listCategories_ne_error h)).replying
  | updateCategory id patch => exact (updateCategory_explained hcalm id patch h).replying
  | deleteCategory id => exact (deleteCategory_explained hcalm id).settling
  | createAdvertisement creatorId placed =>
      exact (createAdvertisement_explained hcalm creatorId placed h).replying
  | createAdvertisementWithCategory creatorId category draft =>
      exact (createAdvertisementWithCategory_explained hcalm creatorId category draft).replying
  | getAdvertisement id =>
      exact ((getAdvertisement_reads id).explained fun _ => getAdvertisement_refusal h).replying
  | activeAdvertisements =>
      exact ((Action.query_reads _).explained fun _ hfailed =>
        absurd hfailed (activeAdvertisements_ne_error h)).replying
  | updateAdvertisement id patch =>
      exact (updateAdvertisement_explained hcalm id patch h htimely).replying
  | setAdvertisementActive id active =>
      exact (setAdvertisementActive_explained hcalm id active h htimely).replying
  | deleteAdvertisement id => exact (deleteAdvertisement_explained hcalm id).settling
  | addModerator advertisementId userId =>
      exact (addModerator_explained hcalm advertisementId userId).settling
  | moderators advertisementId =>
      exact ((moderators_reads advertisementId).explained fun _ hfailed => nomatch hfailed).replying
  | addComment draft => exact (addComment_explained hcalm draft).replying
  | getComment id =>
      exact ((getComment_reads id).explained fun _ => getComment_refusal h).replying
  | deleteComment id => exact (deleteComment_explained hcalm id h).settling
  | likeAdvertisement userId advertisementId =>
      exact (react_explained hcalm .like userId advertisementId).replying
  | saveAdvertisement userId advertisementId =>
      exact (react_explained hcalm .save userId advertisementId).replying

end Operations
end Store

/-! ## Calls -/

namespace Service

variable {session : Session τ} {db : Database τ}

theorem calling_explained {operation : Operation} {details : List (String × Json)}
    {work : Action τ α} (h : (work session db).Explained) :
    (calling operation details work session db).Explained :=
  meets_calling.mpr h

theorem canManage_ne_error {session : Session τ} {tables : Database τ} {failure : Failure}
    (actor : Actor) (advertisement : Advertisement) :
    (canManage actor advertisement session tables).answer ≠ .error failure := by
  have hmeets : (canManage actor advertisement session tables).Meets (fun _ _ => True)
      (fun _ _ => False) := by
    simp [canManage, Store.moderators]
  exact fun hfailed => hmeets.of_error hfailed

theorem requireManager_explained (actor : Actor) (advertisement : Advertisement) (deed : String) :
    (requireManager actor advertisement deed session db).Explained := by
  unfold requireManager Outcome.Explained
  simp only [Action.meets_bind, Action.meets_ite, Action.meets_pure, Action.meets_fail,
    (canManage_reads _ _).meets_iff, implies_true, true_and]
  refine ⟨fun _ _ _ => .inr (.inr (.inl rfl)), fun failure hfailed => ?_⟩
  exact absurd hfailed (canManage_ne_error actor advertisement)

theorem requireSiteModerator_explained (actor : Actor) (deed : String) :
    (requireSiteModerator actor deed session db).Explained := by
  unfold requireSiteModerator Outcome.Explained
  simp only [Action.meets_ite, Action.meets_pure, Action.meets_fail, implies_true, true_and]
  exact fun _ => .inr (.inr (.inl rfl))

theorem visibleAdvertisement_explained (actor : Option Actor) (id : String)
    (h : db.Legible session.backend) :
    (visibleAdvertisement actor id session db).Explained := by
  have hhidden : (Failure.hiddenAdvertisement id).IsRefusal := .inr (.inl rfl)
  have hread (failure : Failure)
      (hfailed : (Store.getAdvertisement id session db).answer = .error failure) :
      failure.IsRefusal := getAdvertisement_refusal h hfailed
  unfold visibleAdvertisement Outcome.Explained
  cases actor with
  | none =>
      simp only [Action.meets_bind, Action.meets_ite, Action.meets_pure, Action.meets_fail,
        (Store.getAdvertisement_reads _).meets_iff, implies_true, true_and]
      exact ⟨fun _ => .inl rfl, fun _ => ⟨fun _ _ _ _ => hhidden, hread⟩⟩
  | some actor =>
      simp only [Action.meets_bind, Action.meets_ite, Action.meets_pure, Action.meets_fail,
        (Store.getAdvertisement_reads _).meets_iff, (canManage_reads _ _).meets_iff,
        implies_true, true_and]
      refine ⟨fun _ => .inl rfl, fun _ => ⟨fun advertisement _ _ => ?_, hread⟩⟩
      exact ⟨fun _ _ _ => hhidden, fun _ hfailed => absurd hfailed (canManage_ne_error _ _)⟩

/-- Whatever is done to an advertisement that is seen first. -/
theorem seen_explained {actor : Option Actor} {id : String} {next : Advertisement → Action τ α}
    (h : db.Legible session.backend)
    (hnext : ∀ advertisement, (next advertisement session db).Explained) :
    ((visibleAdvertisement actor id >>= next) session db).Explained :=
  (visibleAdvertisement_reads actor id).bind_explained (visibleAdvertisement_explained actor id h)
    fun advertisement _ => hnext advertisement

theorem moderated_explained {actor : Actor} {deed : String} {work : Action τ α}
    (h : (work session db).Explained) :
    ((do
      requireSiteModerator actor deed
      work) session db).Explained :=
  (requireSiteModerator_reads actor deed).bind_explained (requireSiteModerator_explained actor deed)
    fun _ _ => h

theorem rankNoted_explained [Searchable E F] (settings : EngineSettings)
    (fields : List (WeightedField F)) (params : SearchParams) (corpus : List E) :
    (rankNoted settings fields params corpus session db).Explained := by
  have hnothing {query : String} {page : UInt32} {found : List (Candidate E)} {failure : Failure}
      (hfailed : Ranking.pageOfCandidates settings query page found = .error failure) :
      failure.IsRefusal := by
    simp only [Ranking.pageOfCandidates, ite_eq_error, Except.error.injEq, reduceCtorEq,
      and_false, or_false] at hfailed
    obtain ⟨-, rfl⟩ := hfailed
    exact .inr (.inl rfl)
  unfold rankNoted Outcome.Explained
  cases params.query with
  | none => simp
  | some query =>
      dsimp only
      generalize Ranking.candidates settings fields query corpus = found
      cases found with
      | nil =>
          rw [Action.meets_ofExcept]
          exact ⟨fun _ _ => trivial, fun _ => hnothing⟩
      | cons best rest =>
          rw [Action.meets_bind, Action.meets_note, Action.meets_ofExcept]
          exact ⟨fun _ _ => trivial, fun _ => hnothing⟩

theorem searching_explained [Searchable E F] {settings : EngineSettings} {operation : Operation}
    {fields : List (WeightedField F)} {request : SearchRequest} {corpus : Action τ (List E)}
    (hcorpus : corpus.Reads)
    (hread : ∀ failure, (corpus session db).answer ≠ .error failure) :
    (searching settings operation fields request corpus session db).Explained := by
  unfold searching Outcome.Explained
  simp only [Action.meets_bind, Action.meets_note, meets_finishingPage, Action.meets_ofExcept,
    hcorpus.meets_iff]
  refine ⟨fun params _ => ⟨fun items _ => ?_, fun failure hfailed => absurd hfailed (hread _)⟩,
    fun failure hfailed => SearchRequest.check_refusal hfailed⟩
  exact rankNoted_explained settings fields params items

theorem listing_explained [Searchable E F] {settings : EngineSettings} {operation : Operation}
    {page : UInt32} {corpus : Action τ (List E)} (hcorpus : corpus.Reads)
    (hread : ∀ failure, (corpus session db).answer ≠ .error failure) :
    (listing settings operation page corpus session db).Explained := by
  unfold listing Outcome.Explained
  simp only [Action.meets_bind, meets_finishingPage, Action.meets_ofExcept, Action.meets_ite,
    Action.meets_fail, Action.meets_pure, hcorpus.meets_iff, implies_true, and_true]
  refine ⟨fun _ _ => ⟨fun items _ _ => .inr (.inl rfl), fun failure hfailed => ?_⟩,
    fun failure hfailed => checkPage_refusal hfailed⟩
  exact absurd hfailed (hread failure)

theorem getCategory_explained (id name : Option String) (h : db.Legible session.backend) :
    (getCategory id name session db).Explained := by
  unfold getCategory Outcome.Explained
  rw [meets_finishing]
  cases given? id with
  | none =>
      cases given? name with
      | none => exact (Action.meets_fail _).mpr (.inl rfl)
      | some name =>
          have hreads : (findCategoryByName name : Action τ Category).Reads :=
            Action.query_reads _
          exact hreads.explained fun _ => findCategoryByName_refusal h
  | some id =>
      cases given? name with
      | none => exact (Store.getCategory_reads id).explained fun _ => getCategory_refusal h
      | some name => exact (Action.meets_fail _).mpr (.inl rfl)

theorem updateCategory_explained (hcalm : session.Calm) (actor : Actor) (id : String)
    (patch : CategoryPatch) (h : db.Legible session.backend) :
    (updateCategory actor id patch session db).Explained := by
  apply calling_explained
  apply moderated_explained
  simp only [Outcome.Explained, Action.meets_ite, Action.meets_bind, Action.meets_fail]
  exact ⟨fun _ => .inl rfl, fun _ => Store.updateCategory_explained hcalm id patch h⟩

theorem createAdvertisement_explained (hcalm : session.Calm) (actor : Actor)
    (request : AdvertisementRequest) (h : db.Legible session.backend) :
    (createAdvertisement actor request session db).Explained := by
  apply calling_explained
  simp only [Outcome.Explained, Action.meets_bind, Action.meets_ofExcept]
  refine ⟨fun _ _ => ?_, fun failure hfailed => checkAdvertisement_refusal hfailed⟩
  cases request.category with
  | existing id => exact Store.createAdvertisement_explained hcalm _ _ h
  | new category => exact Store.createAdvertisementWithCategory_explained hcalm _ _ _

theorem updateAdvertisement_explained (hcalm : session.Calm) (actor : Actor) (id : String)
    (patch : AdvertisementPatch) (h : db.Legible session.backend)
    (htimely : session.backend.Timely session.now) :
    (updateAdvertisement actor id patch session db).Explained := by
  have hwork : ((do
      let advertisement ← visibleAdvertisement (some actor) id
      requireManager actor advertisement "update this advertisement"
      Store.updateAdvertisement id patch) session db).Explained := by
    apply seen_explained h
    intro advertisement
    apply (requireManager_reads _ _ _).bind_explained (requireManager_explained _ _ _)
    exact fun _ _ => Store.updateAdvertisement_explained hcalm id patch h htimely
  apply calling_explained
  by_cases hidle : patch.isEmpty = true
  · simp only [Outcome.Explained, hidle, if_true, Action.meets_bind, Action.meets_fail]
    exact .inl rfl
  · simp only [hidle]
    exact hwork

theorem deleteAdvertisement_explained (hcalm : session.Calm) (actor : Actor) (id : String)
    (h : db.Legible session.backend) :
    (deleteAdvertisement actor id session db).Explained := by
  apply calling_explained
  apply seen_explained h
  intro advertisement
  apply (requireManager_reads _ _ _).bind_explained (requireManager_explained _ _ _)
  exact fun _ _ => Store.deleteAdvertisement_explained hcalm id

theorem addModerator_explained (hcalm : session.Calm) (actor : Actor) (id userId : String)
    (h : db.Legible session.backend) :
    (addModerator actor id userId session db).Explained := by
  apply calling_explained
  apply seen_explained h
  intro advertisement
  simp only [Outcome.Explained, Action.meets_ite, Action.meets_bind, Action.meets_fail]
  exact ⟨fun _ => .inr (.inr (.inl rfl)), fun _ => Store.addModerator_explained hcalm id userId⟩

theorem deleteComment_explained (hcalm : session.Calm) (actor : Actor) (commentId : String)
    (h : db.Legible session.backend) :
    (deleteComment actor commentId session db).Explained := by
  have hdelete : (Store.deleteComment commentId session db).Explained :=
    Store.deleteComment_explained hcalm commentId h
  apply calling_explained
  apply (Store.getComment_reads commentId).bind_explained
  · exact (Store.getComment_reads commentId).explained fun _ => getComment_refusal h
  · intro comment _
    simp only [Outcome.Explained, Action.meets_ite, Action.meets_bind, Action.meets_fail,
      (Store.getAdvertisement_reads _).meets_iff]
    refine ⟨fun hother => ⟨fun advertisement hread => ⟨fun hrefused => ?_, fun hmanages => ?_⟩,
      fun failure hfailed => ?_⟩, fun hown => ?_⟩
    · exact .inr (.inr (.inl rfl))
    · exact hdelete
    · exact getAdvertisement_refusal h hfailed
    · exact hdelete

theorem Command.perform_explained (hcalm : session.Calm) (settings : EngineSettings)
    (command : Command) (h : db.Legible session.backend)
    (htimely : session.backend.Timely session.now) :
    (command.perform settings session db).Explained := by
  cases command with
  | searchCategories request =>
      exact (searching_explained (Action.query_reads _)
        fun _ => listCategories_ne_error h).replying
  | searchAdvertisements request =>
      exact (searching_explained (Action.query_reads _)
        fun _ => activeAdvertisements_ne_error h).replying
  | listCategories page =>
      exact (listing_explained (Action.query_reads _) fun _ => listCategories_ne_error h).replying
  | listAdvertisements page =>
      exact (listing_explained (Action.query_reads _)
        fun _ => activeAdvertisements_ne_error h).replying
  | getCategory id name => exact (getCategory_explained id name h).replying
  | createCategory actor draft =>
      exact (calling_explained (insertCategory_explained hcalm draft)).replying
  | updateCategory actor id patch => exact (updateCategory_explained hcalm actor id patch h).replying
  | deleteCategory actor id =>
      exact (calling_explained (moderated_explained (deleteCategory_explained hcalm id))).settling
  | getAdvertisement actor id =>
      have hseen : (Service.getAdvertisement actor id session db).Explained :=
        meets_finishing.mpr (visibleAdvertisement_explained actor id h)
      exact hseen.replying
  | createAdvertisement actor request =>
      exact (createAdvertisement_explained hcalm actor request h).replying
  | updateAdvertisement actor id patch =>
      exact (updateAdvertisement_explained hcalm actor id patch h htimely).replying
  | deleteAdvertisement actor id => exact (deleteAdvertisement_explained hcalm actor id h).settling
  | approveAdvertisement actor id active =>
      exact (calling_explained (moderated_explained
        (setAdvertisementActive_explained hcalm id active h htimely))).replying
  | addModerator actor id userId => exact (addModerator_explained hcalm actor id userId h).settling
  | addComment actor id content =>
      exact (calling_explained (seen_explained h fun _ => addComment_explained hcalm _)).replying
  | deleteComment actor commentId => exact (deleteComment_explained hcalm actor commentId h).settling
  | likeAdvertisement actor id =>
      exact (calling_explained (seen_explained h fun _ => react_explained hcalm .like _ id)).replying
  | saveAdvertisement actor id =>
      exact (calling_explained (seen_explained h fun _ => react_explained hcalm .save _ id)).replying

end Service

/-! ## Runs -/

namespace Board

variable {weights : ScoreWeights} {settings : EngineSettings} {turns : List Turn} {last : Turn}
  {failure : Failure}

/-- After any run of an embedded database from empty tables, a call on which no trigger is set fails
with a refusal if it fails.  The clock has to stay in the years that are written with four digits,
and scores within the 64-bit integers. -/
theorem failures_are_refusals
    (hclock : ∀ turn ∈ turns, 0 ≤ turn.now.date.year ∧ turn.now.date.year ≤ 9999)
    (hlast : 0 ≤ last.now.date.year ∧ last.now.date.year ≤ 9999) (hcalm : last.triggers = [])
    (hwhole : ((embedded weights settings).run .empty turns).ScoresWhole)
    (hfailed : ((embedded weights settings).perform last
      ((embedded weights settings).run .empty turns)).answer = .error failure) :
    failure.IsRefusal := by
  have horderly : ((embedded weights settings).run .empty turns).Orderly
      (embedded weights settings).backend :=
    run_orderly fun turn hturn => .embedded (hclock turn hturn)
  have hlegible : ((embedded weights settings).run .empty turns).Legible
      ((embedded weights settings).session last).backend :=
    ⟨horderly, hwhole⟩
  have hsession : ((embedded weights settings).session last).Calm :=
    ⟨hcalm, rfl, fun score delta => ⟨score.addReal delta, rfl⟩⟩
  have hexplained : ((embedded weights settings).perform last
      ((embedded weights settings).run .empty turns)).Explained := by
    unfold perform Call.perform
    cases last.call with
    | service command =>
        exact command.perform_explained hsession settings hlegible (.embedded hlast)
    | store command => exact command.perform_explained hsession hlegible (.embedded hlast)
  exact hexplained.of_error hfailed

/-- A like that is repeated, and a category that not everybody may delete. -/
theorem sample_failures_are_refusals :
    (∃ failure, ((embedded ⟨2, 3, -1⟩ .standard).perform
        (sampleTurn "4" (.store (.likeAdvertisement "bob" "a1")))
        ((embedded ⟨2, 3, -1⟩ .standard).run .empty sampleHistory)).answer = .error failure ∧
          failure.IsRefusal) ∧
    ∃ failure, ((embedded ⟨2, 3, -1⟩ .standard).perform
        (sampleTurn "4" (.service (.deleteCategory (.user "bob") "c1")))
        ((embedded ⟨2, 3, -1⟩ .standard).run .empty sampleHistory)).answer = .error failure ∧
          failure.IsRefusal := by
  have hwhole : ((embedded ⟨2, 3, -1⟩ .standard).run .empty sampleHistory).ScoresWhole := by
    have hscores : ((embedded ⟨2, 3, -1⟩ .standard).run .empty
        sampleHistory).advertisements.map AdvertisementRow.score = [.whole 3] := rfl
    intro row hrow
    have hscore : row.score ∈ [Score.whole 3] := hscores ▸ List.mem_map_of_mem hrow
    exact ⟨3, List.mem_singleton.mp hscore⟩
  have hclock : ∀ turn ∈ sampleHistory, 0 ≤ turn.now.date.year ∧ turn.now.date.year ≤ 9999 := by
    decide
  have hnow : 0 ≤ sampleNow.date.year ∧ sampleNow.date.year ≤ 9999 := by decide
  have hrefused {call : Call} {failure : Failure}
      (hfailed : ((embedded ⟨2, 3, -1⟩ .standard).perform (sampleTurn "4" call)
        ((embedded ⟨2, 3, -1⟩ .standard).run .empty sampleHistory)).answer = .error failure) :
      failure.IsRefusal :=
    failures_are_refusals hclock hnow rfl hwhole hfailed
  constructor
  · exact ⟨.alreadyLiked, rfl, @hrefused (.store (.likeAdvertisement "bob" "a1")) _ rfl⟩
  · exact ⟨.notAllowed "delete categories", rfl,
      @hrefused (.service (.deleteCategory (.user "bob") "c1")) _ rfl⟩

end Board
end Noticeboard
