import Noticeboard.Proofs.ScoreAccounting

/-!
# What a deletion takes along

A deletion takes the row that it names and the rows that refer to it, through every reference that
the tables declare, and nothing else.  No other operation takes a row away.  For the deletions this
follows from keys: an id stands for one row, so that a row refers to one of the deleted
advertisements exactly if it has the id of one.  For the others it is `Grows`, which every statement
but a deletion keeps to and which goes through from the parts of an action to the whole.
-/

namespace Noticeboard.Store

variable {τ α β : Type} {session : Session τ} {db mid after : Database τ}

/-! ## Tables that only grow -/

/-- Every row stays where it is, although those of categories and advertisements may be written
again, and a moderator who was none is one of those named. -/
structure Database.Grows (named : ModeratorRow → Prop) (db after : Database τ) : Prop where
  categories : db.categories.map CategoryRow.id <+: after.categories.map CategoryRow.id
  advertisements :
    db.advertisements.map AdvertisementRow.id <+: after.advertisements.map AdvertisementRow.id
  moderators : db.moderators <+: after.moderators
  comments : db.comments <+: after.comments
  likes : db.likes <+: after.likes
  saves : db.saves <+: after.saves
  appointed : ∀ row ∈ after.moderators, row ∈ db.moderators ∨ named row

namespace Database.Grows

variable {named : ModeratorRow → Prop}

theorem refl (db : Database τ) : db.Grows named db where
  categories := List.prefix_refl _
  advertisements := List.prefix_refl _
  moderators := List.prefix_refl _
  comments := List.prefix_refl _
  likes := List.prefix_refl _
  saves := List.prefix_refl _
  appointed _ hrow := .inl hrow

theorem trans (h : db.Grows named mid) (hnext : mid.Grows named after) : db.Grows named after where
  categories := h.categories.trans hnext.categories
  advertisements := h.advertisements.trans hnext.advertisements
  moderators := h.moderators.trans hnext.moderators
  comments := h.comments.trans hnext.comments
  likes := h.likes.trans hnext.likes
  saves := h.saves.trans hnext.saves
  appointed row hrow := (hnext.appointed row hrow).elim (h.appointed row) .inr

theorem changeCategory (id : String) {change : CategoryRow τ → CategoryRow τ}
    (hchange : ∀ row, (change row).id = row.id) :
    db.Grows named (Store.changeCategory db id change) :=
  { refl db with categories := by simp [hchange] }

theorem changeAdvertisement (id : String) {change : AdvertisementRow τ → AdvertisementRow τ}
    (hchange : ∀ row, (change row).id = row.id) :
    db.Grows named (Statement.changeAdvertisement db id change) :=
  { refl db with advertisements := by simp [hchange] }

theorem addModerator {row : ModeratorRow} (hnamed : named row) :
    db.Grows named { db with moderators := db.moderators ++ [row] } :=
  have happointed : ∀ other ∈ db.moderators ++ [row], other ∈ db.moderators ∨ named other := by
    intro other hother
    rcases List.mem_append.mp hother with hold | hadded
    · exact .inl hold
    · obtain rfl := List.mem_singleton.mp hadded
      exact .inr hnamed
  { (refl db : db.Grows named db) with
    moderators := List.prefix_append _ _
    appointed := happointed }

theorem addReaction (kind : ReactionKind) (row : ReactionRow τ) :
    db.Grows named (db.addReaction kind row) := by
  cases kind with
  | like => exact { refl db with likes := List.prefix_append _ _ }
  | save => exact { refl db with saves := List.prefix_append _ _ }

end Database.Grows

section Growing

variable {named : ModeratorRow → Prop} {action : Action τ α}

/-- Whether it succeeds or not, the action takes no row away. -/
def Action.Grows (named : ModeratorRow → Prop) (action : Action τ α) : Prop :=
  ∀ (session : Session τ) (db : Database τ), (action session db).Meets
    (fun _ after => db.Grows named after) (fun _ after => db.Grows named after)

theorem Action.Reads.grows (h : action.Reads) : action.Grows named := by
  intro session db
  rw [h.meets_iff]
  exact ⟨fun _ _ => .refl db, fun _ _ => .refl db⟩

theorem Action.execute_grows {statement : Statement τ α} {explain : DatabaseFault → Failure}
    (h : ∀ triggers db a after, statement triggers db = .ok (a, after) → db.Grows named after) :
    (Action.execute statement explain).Grows named := by
  intro session db
  rw [Action.meets_execute]
  exact ⟨fun a after hrun => h session.triggers db a after hrun, fun _ _ => .refl db⟩

namespace Action.Grows

theorem bind {next : α → Action τ β} (h : action.Grows named)
    (hnext : ∀ a, (next a).Grows named) : (action >>= next).Grows named := by
  intro session db
  rw [meets_bind]
  apply (h session db).mono
  · intro a mid hmid
    exact (hnext a session mid).mono (fun _ _ h => hmid.trans h) (fun _ _ h => hmid.trans h)
  · exact fun _ _ hfailed => hfailed

theorem transaction (h : action.Grows named) : (Action.transaction action).Grows named := by
  intro session db
  rw [meets_transaction]
  exact (h session db).mono (fun _ _ hdone => hdone) (fun _ _ _ => .refl db)

theorem reporting {entry : Except Failure α → Journal.Entry} (h : action.Grows named) :
    (Action.reporting entry action).Grows named := by
  intro session db
  rw [meets_reporting]
  exact h session db

theorem replying {wrap : α → Reply} (h : action.Grows named) :
    (action.replying wrap).Grows named :=
  h.bind fun _ => (pure_reads _).grows

end Action.Grows

/-! ## Operations that take nothing away -/

theorem insertCategory_grows (draft : CategoryDraft) :
    (insertCategory draft : Action τ Category).Grows named := by
  unfold insertCategory
  refine (Action.ofExcept_reads _).grows.bind fun name => ?_
  refine Action.session_reads.grows.bind fun session => ?_
  refine .bind (Action.execute_grows fun _ _ _ _ hrun => ?_) fun _ => (Action.pure_reads _).grows
  obtain ⟨-, -, -, rfl⟩ := Statement.insertCategory_eq_ok_iff.mp hrun
  exact { Database.Grows.refl _ with categories := by simp }

theorem Statement.updateCategory_grows {triggers : Triggers} {id name : String}
    {description : Option String} {updatedAt : τ} {found : Bool}
    (hrun : Statement.updateCategory id name description updatedAt triggers db =
      .ok (found, after)) : db.Grows named after := by
  rcases Statement.updateCategory_eq_ok_iff.mp hrun with ⟨-, -, -, -, rfl⟩ | ⟨-, -, rfl⟩
  · exact .changeCategory id fun _ => rfl
  · exact .refl _

theorem updateCategory_grows (id : String) (patch : CategoryPatch) :
    (updateCategory id patch : Action τ Category).Grows named := by
  have hmerge : (mergeCategory id patch : Action τ Category).Grows named := by
    unfold mergeCategory
    refine (getCategory_reads id).grows.bind fun existing => ?_
    refine (Action.ofExcept_reads _).grows.bind fun name => ?_
    refine Action.session_reads.grows.bind fun session => ?_
    refine .bind (Action.execute_grows fun _ _ _ _ hrun => ?_) fun _ =>
      (Action.pure_reads _).grows
    exact Statement.updateCategory_grows hrun
  have hpatch : (patchCategory id patch : Action τ Category).Grows named := by
    unfold patchCategory
    refine (Action.ofExcept_reads _).grows.bind fun name => ?_
    refine Action.session_reads.grows.bind fun session => ?_
    refine .bind (Action.execute_grows fun _ _ _ _ hrun => ?_) fun found => ?_
    · rcases Statement.patchCategory_eq_ok_iff.mp hrun with ⟨row, -, hwrite, -⟩ | ⟨-, -, rfl⟩
      · exact Statement.updateCategory_grows hwrite
      · exact .refl _
    · cases found with
      | some row => exact (Action.ofExcept_reads _).grows
      | none => exact (Action.fail_reads _).grows
  unfold updateCategory
  refine Action.session_reads.grows.bind fun session => ?_
  by_cases hinPlace : session.backend.patchesInPlace = true
  · simpa [hinPlace] using hpatch
  · simpa [hinPlace] using hmerge

theorem insertAdvertisement_grows (creatorId : String) (category : Category)
    (draft : AdvertisementDraft) :
    (insertAdvertisement creatorId category draft : Action τ Advertisement).Grows named := by
  unfold insertAdvertisement
  refine Action.session_reads.grows.bind fun session => ?_
  refine .bind (Action.execute_grows fun _ _ _ _ hrun => ?_) fun _ => (Action.pure_reads _).grows
  obtain ⟨-, -, -, -, -, rfl⟩ := Statement.insertAdvertisement_eq_ok_iff.mp hrun
  exact { Database.Grows.refl _ with advertisements := by simp }

theorem createAdvertisement_grows (creatorId : String) (placed : PlacedDraft) :
    (createAdvertisement creatorId placed : Action τ Advertisement).Grows named := by
  unfold createAdvertisement
  refine (Action.ofExcept_reads _).grows.bind fun _ => ?_
  refine (getCategory_reads _).grows.bind fun category => ?_
  exact insertAdvertisement_grows _ _ _

theorem createAdvertisementWithCategory_grows (creatorId : String) (category : CategoryDraft)
    (draft : AdvertisementDraft) :
    (createAdvertisementWithCategory creatorId category draft :
      Action τ Advertisement).Grows named := by
  unfold createAdvertisementWithCategory
  refine (Action.ofExcept_reads _).grows.bind fun _ => .transaction ?_
  exact (insertCategory_grows category).bind fun _ => insertAdvertisement_grows _ _ _

theorem updateAdvertisement_grows (id : String) (patch : AdvertisementPatch) :
    (updateAdvertisement id patch : Action τ Advertisement).Grows named := by
  unfold updateAdvertisement
  refine (getAdvertisement_reads id).grows.bind fun existing => ?_
  refine (Action.ofExcept_reads _).grows.bind fun _ => ?_
  have hwrite (categoryId : String) : (do
      let session ← Action.session
      let _ ← Action.execute
        (Statement.updateAdvertisement id (patch.title.getD existing.title)
          (patch.description.apply existing.description)
          (patch.priceCents.getD existing.priceCents) categoryId
          (session.backend.stamp session.now)) .database
      getAdvertisement id : Action τ Advertisement).Grows named := by
    refine Action.session_reads.grows.bind fun session => ?_
    refine .bind (Action.execute_grows fun _ _ _ _ hrun => ?_) fun _ =>
      (getAdvertisement_reads id).grows
    rcases Statement.updateAdvertisement_eq_ok_iff.mp hrun with ⟨-, -, -, -, rfl⟩ | ⟨-, -, rfl⟩
    · exact .changeAdvertisement id fun _ => rfl
    · exact .refl _
  cases patch.categoryId with
  | none => exact (Action.pure_reads _).grows.bind hwrite
  | some categoryId =>
      refine (getCategory_reads categoryId).grows.bind fun category => ?_
      exact (Action.pure_reads category.id).grows.bind hwrite

theorem setAdvertisementActive_grows (id : String) (active : Bool) :
    (setAdvertisementActive id active : Action τ Advertisement).Grows named := by
  unfold setAdvertisementActive
  refine Action.session_reads.grows.bind fun session => ?_
  refine .bind (Action.execute_grows fun _ _ _ _ hrun => ?_) fun found => ?_
  · rcases Statement.setActive_eq_ok_iff.mp hrun with ⟨-, -, rfl⟩ | ⟨-, -, rfl⟩
    · exact .changeAdvertisement id fun _ => rfl
    · exact .refl _
  · exact (Action.expectRow_reads _ _).grows.bind fun _ => (getAdvertisement_reads id).grows

theorem addModerator_grows (advertisementId userId : String)
    (hnamed : named ⟨advertisementId, userId⟩) :
    (addModerator advertisementId userId : Action τ Unit).Grows named := by
  unfold addModerator
  refine Action.execute_grows fun _ _ _ _ hrun => ?_
  obtain ⟨-, ⟨-, rfl⟩ | ⟨-, -, rfl⟩⟩ := Statement.insertModerator_eq_ok_iff.mp hrun
  · exact .refl _
  · exact .addModerator hnamed

theorem applyEvent_grows (event : ScoreEvent) :
    (applyEvent event : Action τ Int64).Grows named := by
  unfold applyEvent increment
  refine Action.session_reads.grows.bind fun session => ?_
  refine .bind (.reporting ?_) fun _ => (Action.pure_reads _).grows
  refine Action.session_reads.grows.bind fun session => ?_
  refine .bind (Action.execute_grows fun _ _ _ _ hrun => ?_) fun _ =>
    (Action.expectRow_reads _ _).grows
  rcases Statement.addScore_eq_ok_iff.mp hrun with ⟨_, _, -, -, -, -, rfl⟩ | ⟨-, -, rfl⟩
  · exact .changeAdvertisement _ fun _ => rfl
  · exact .refl _

theorem applyEvents_grows (events : List ScoreEvent) :
    (applyEvents events : Action τ (List Int64)).Grows named := by
  have hloop (answers : List Int64) :
      (List.mapM.loop applyEvent events answers : Action τ (List Int64)).Grows named := by
    induction events generalizing answers with
    | nil => exact (Action.pure_reads _).grows
    | cons event rest ih => exact (applyEvent_grows event).bind fun delta => ih (delta :: answers)
  unfold applyEvents
  exact .transaction (hloop [])

theorem addComment_grows (draft : CommentDraft) :
    (addComment draft : Action τ Comment).Grows named := by
  unfold addComment
  refine (Action.ofExcept_reads _).grows.bind fun _ => ?_
  refine Action.session_reads.grows.bind fun session => .transaction ?_
  refine .bind (Action.execute_grows fun _ _ _ _ hrun => ?_) fun _ => ?_
  · obtain ⟨-, -, -, rfl⟩ := Statement.insertComment_eq_ok_iff.mp hrun
    exact { Database.Grows.refl _ with comments := List.prefix_append _ _ }
  · exact (applyEvent_grows _).bind fun _ => (Action.pure_reads _).grows

/-- A like that sets off the removal of its advertisement does not go through, since there is no
score left to move. -/
theorem react_grows (kind : ReactionKind) (userId advertisementId : String) :
    (react kind userId advertisementId : Action τ Reaction).Grows named := by
  intro session db
  unfold react
  simp only [Action.meets_bind, Action.meets_session, Action.meets_transaction,
    Action.meets_execute, Action.meets_pure]
  refine ⟨fun _ mid hrun => ?_, fun _ _ => .refl db⟩
  obtain ⟨-, -, -, hpresent, ⟨-, found, hdropped⟩ | ⟨-, rfl⟩⟩ :=
    Statement.insertReaction_eq_ok_iff.mp hrun
  · apply (applyEvent_meets _).mono
    · rintro - after ⟨advertisement, score, hadvertisement, -⟩
      rcases Statement.deleteAdvertisement_eq_ok_iff.mp hdropped with
        ⟨-, -, -, rfl⟩ | ⟨habsent, -⟩
      · simp [advertisement?_dropAdvertisements_self] at hadvertisement
      · rw [hasAdvertisement_addReaction, hpresent] at habsent
        contradiction
    · exact fun _ _ _ => .refl db
  · apply (applyEvent_grows _ session _).mono
    · exact fun _ _ hscored => (Database.Grows.addReaction kind _).trans hscored
    · exact fun _ _ _ => .refl db

end Growing

/-! ## Deletions -/

/-- The operations that are there to take rows away. -/
def Command.Deletes : Command → Prop
  | .deleteCategory _ | .deleteAdvertisement _ | .deleteComment _ => True
  | _ => False

/-- The moderators that an operation names. -/
def Command.Names (command : Command) (row : ModeratorRow) : Prop :=
  command = .addModerator row.advertisementId row.userId

theorem Command.perform_grows {command : Command} (hkeeps : ¬ command.Deletes) :
    (command.perform : Action τ Reply).Grows command.Names := by
  cases command with
  | createCategory draft => exact (insertCategory_grows draft).replying
  | getCategory id => exact (getCategory_reads id).grows.replying
  | findCategoryByName name => exact (Action.query_reads _).grows.replying
  | listCategories => exact (Action.query_reads _).grows.replying
  | updateCategory id patch => exact (updateCategory_grows id patch).replying
  | deleteCategory id => exact absurd trivial hkeeps
  | createAdvertisement creatorId placed =>
      exact (createAdvertisement_grows creatorId placed).replying
  | createAdvertisementWithCategory creatorId category draft =>
      exact (createAdvertisementWithCategory_grows creatorId category draft).replying
  | getAdvertisement id => exact (getAdvertisement_reads id).grows.replying
  | activeAdvertisements => exact (Action.query_reads _).grows.replying
  | updateAdvertisement id patch => exact (updateAdvertisement_grows id patch).replying
  | setAdvertisementActive id active => exact (setAdvertisementActive_grows id active).replying
  | deleteAdvertisement id => exact absurd trivial hkeeps
  | addModerator advertisementId userId =>
      have hnamed : (addModerator advertisementId userId).Names ⟨advertisementId, userId⟩ := rfl
      exact (addModerator_grows advertisementId userId hnamed).replying
  | moderators advertisementId => exact (moderators_reads advertisementId).grows.replying
  | addComment draft => exact (addComment_grows draft).replying
  | getComment id => exact (getComment_reads id).grows.replying
  | deleteComment id => exact absurd trivial hkeeps
  | likeAdvertisement userId advertisementId =>
      exact (react_grows .like userId advertisementId).replying
  | saveAdvertisement userId advertisementId =>
      exact (react_grows .save userId advertisementId).replying

/-- Whether an id is that of one of these advertisements. -/
def Database.isOneOf (db : Database τ) (gone : AdvertisementRow τ → Bool) (id : String) : Bool :=
  db.advertisements.any fun row => row.id == id && gone row

/-- Some advertisements are gone, with the rows that refer to one of them. -/
structure Database.LosesAdvertisements (gone : AdvertisementRow τ → Bool)
    (db after : Database τ) : Prop where
  advertisements : after.advertisements = db.advertisements.filter fun row => !gone row
  moderators : after.moderators =
    db.moderators.filter fun row => !db.isOneOf gone row.advertisementId
  comments : after.comments = db.comments.filter fun row => !db.isOneOf gone row.advertisementId
  likes : after.likes = db.likes.filter fun row => !db.isOneOf gone row.advertisementId
  saves : after.saves = db.saves.filter fun row => !db.isOneOf gone row.advertisementId

/-- A comment is gone, and a score is another. -/
structure Database.LosesComment (row : CommentRow τ) (db after : Database τ) : Prop where
  categories : after.categories = db.categories
  advertisements : ∃ score, after.advertisements = db.advertisements.map fun other =>
    if other.id = row.advertisementId then { other with score } else other
  moderators : after.moderators = db.moderators
  comments : after.comments = db.comments.filter fun other => other.id != row.id
  likes : after.likes = db.likes
  saves : after.saves = db.saves

theorem isOneOf_of_mem (h : db.Consistent) {gone : AdvertisementRow τ → Bool}
    {row : AdvertisementRow τ} (hrow : row ∈ db.advertisements) :
    db.isOneOf gone row.id = gone row := by
  rw [Bool.eq_iff_iff, Database.isOneOf, List.any_eq_true]
  constructor
  · rintro ⟨other, hother, hboth⟩
    rw [Bool.and_eq_true, beq_iff_eq] at hboth
    rw [← List.inj_on_of_nodup_map h.advertisementIds hother hrow hboth.1]
    exact hboth.2
  · intro hgone
    exact ⟨row, hrow, by simp [hgone]⟩

/-- Deleting by ids takes the rows that refer to a deleted advertisement. -/
theorem dropAdvertisements_loses (h : db.Consistent) {goneId : String → Bool}
    {gone : AdvertisementRow τ → Bool}
    (hgone : ∀ row ∈ db.advertisements, goneId row.id = gone row) :
    db.LosesAdvertisements gone (db.dropAdvertisements goneId) := by
  have hreferred {id : String} (hpresent : db.hasAdvertisement id = true) :
      (!goneId id) = !db.isOneOf gone id := by
    obtain ⟨row, hrow, rfl⟩ := hasAdvertisement_iff.mp hpresent
    rw [hgone row hrow, isOneOf_of_mem h hrow]
  constructor
  case advertisements =>
    exact List.filter_congr fun row hrow => by rw [hgone row hrow]
  case moderators =>
    exact List.filter_congr fun row hrow => hreferred (h.moderatorReferences row hrow)
  case comments =>
    exact List.filter_congr fun row hrow => hreferred (h.commentReferences row hrow)
  case likes =>
    exact List.filter_congr fun row hrow => hreferred (h.reactionReferences .like row hrow)
  case saves =>
    exact List.filter_congr fun row hrow => hreferred (h.reactionReferences .save row hrow)

theorem deleteCategory_meets (id : String) :
    (deleteCategory id session db).Meets
      (fun _ after => db.hasCategory id = true ∧ after = db.dropCategory id)
      (fun _ after => after = db) := by
  unfold deleteCategory
  simp only [Action.meets_bind, Action.meets_execute, Action.meets_expectRow,
    Statement.deleteCategory_eq_ok_iff, implies_true, and_true]
  rintro found after (⟨hpresent, -, -, rfl, rfl⟩ | ⟨-, rfl, rfl⟩)
  · simp [hpresent]
  · simp

theorem deleteAdvertisement_meets (id : String) :
    (deleteAdvertisement id session db).Meets
      (fun _ after => db.hasAdvertisement id = true ∧ after = db.dropAdvertisements (· == id))
      (fun _ after => after = db) := by
  unfold deleteAdvertisement
  simp only [Action.meets_bind, Action.meets_execute, Action.meets_expectRow,
    Statement.deleteAdvertisement_eq_ok_iff, implies_true, and_true]
  rintro found after (⟨hpresent, -, rfl, rfl⟩ | ⟨-, rfl, rfl⟩)
  · simp [hpresent]
  · simp

theorem deleteComment_meets (id : String) :
    (deleteComment id session db).Meets
      (fun _ after => ∃ row, db.comment? id = some row ∧ db.LosesComment row after)
      (fun _ after => after = db) := by
  unfold deleteComment
  simp only [Action.meets_bind, Action.meets_transaction, Action.meets_execute,
    Statement.deleteComment_eq_ok_iff, implies_true, and_true]
  rintro at? mid (⟨row, hrow, -, rfl, rfl⟩ | ⟨-, rfl, rfl⟩)
  · have hid : row.id = id := key_eq_of_find? hrow
    simp only [Action.meets_bind, Action.meets_pure]
    apply (applyEvent_meets _).mono
    · rintro - after ⟨advertisement, score, -, -, rfl⟩
      refine ⟨row, hrow, rfl, ⟨score, rfl⟩, rfl, ?_, rfl, rfl⟩
      rw [hid]
      rfl
    · exact fun _ _ _ => trivial
  · simp

/-- A deletion that succeeds takes exactly the row of the id, and with a category its advertisements,
and with advertisements the rows that refer to them; a deleted comment costs its advertisement
points.  A deletion that fails changes nothing, and no other operation takes a row away. -/
theorem Command.deletions_cascade (session : Session τ) (h : db.Consistent) :
    (∀ id, ((Command.deleteCategory id).perform session db).Meets
      (fun _ after => db.hasCategory id = true ∧
        after.categories = (db.categories.filter fun row => row.id != id) ∧
        db.LosesAdvertisements (fun row => row.categoryId == id) after)
      (fun _ after => after = db)) ∧
    (∀ id, ((Command.deleteAdvertisement id).perform session db).Meets
      (fun _ after => db.hasAdvertisement id = true ∧ after.categories = db.categories ∧
        db.LosesAdvertisements (fun row => row.id == id) after)
      (fun _ after => after = db)) ∧
    (∀ id, ((Command.deleteComment id).perform session db).Meets
      (fun _ after => ∃ row ∈ db.comments, row.id = id ∧ db.LosesComment row after)
      (fun _ after => after = db)) ∧
    (∀ command : Command, ¬ command.Deletes →
      db.Grows command.Names (command.perform session db).database) ∧
    ∀ events, db.Grows (fun _ => False) (applyEvents events session db).database := by
  refine ⟨fun id => ?category, fun id => ?advertisement, fun id => ?comment,
    fun command hkeeps => (Command.perform_grows hkeeps session db).database,
    fun events => (applyEvents_grows events session db).database⟩
  case category =>
    apply Action.meets_replying.mpr
    apply (deleteCategory_meets id).mono
    · rintro - after ⟨hpresent, rfl⟩
      have hstands : ∀ row ∈ db.advertisements, db.isIn id row.id = (row.categoryId == id) :=
        fun row hrow => isOneOf_of_mem h hrow
      have hrest := dropAdvertisements_loses h hstands
      refine ⟨hpresent, rfl, ?_⟩
      exact ⟨hrest.advertisements, hrest.moderators, hrest.comments, hrest.likes, hrest.saves⟩
    · exact fun _ _ hsame => hsame
  case advertisement =>
    apply Action.meets_replying.mpr
    apply (deleteAdvertisement_meets id).mono
    · rintro - after ⟨hpresent, rfl⟩
      exact ⟨hpresent, rfl, dropAdvertisements_loses h fun _ _ => rfl⟩
    · exact fun _ _ hsame => hsame
  case comment =>
    apply Action.meets_replying.mpr
    apply (deleteComment_meets id).mono
    · rintro - after ⟨row, hrow, hloses⟩
      exact ⟨row, List.mem_of_find?_eq_some hrow, by simpa using List.find?_some hrow, hloses⟩
    · exact fun _ _ hsame => hsame

end Noticeboard.Store

namespace Noticeboard

open Store

/-- Of two advertisements with comments and likes one is deleted. -/
theorem sample_deletions_cascade :
    let db := sampleBoard.run sampleStart sampleTurns
    let outcome := sampleBoard.perform (sampleTurn "7" (.store (.deleteAdvertisement "a4"))) db
    db.LosesAdvertisements (fun row => row.id == "a4") outcome.database ∧
      outcome.database.likes = db.likes ∧ outcome.database.comments = [] := by
  intro db outcome
  have hconsistent : db.Consistent := Board.run_consistent sampleStart_consistent sampleTurns
  obtain ⟨-, hdelete, -⟩ := Command.deletions_cascade
    (sampleBoard.session (sampleTurn "7" (.store (.deleteAdvertisement "a4")))) hconsistent
  have hanswer : outcome.answer = .ok .done := rfl
  obtain ⟨-, -, hloses⟩ := (hdelete "a4").of_ok hanswer
  exact ⟨hloses, rfl, rfl⟩

end Noticeboard
