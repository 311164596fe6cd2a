import Mathlib.Logic.Relation
import Noticeboard.Proofs.Statements

/-!
# What an operation does to the tables

A `Revision` is one write to categories, advertisements or moderators; it never moves a score.  An
`Engagement` is a comment or a reaction that comes or goes together with its points.  Every
operation of the store amounts to some revisions or to one engagement, and if it fails the tables
are as they were, unless it wrote a category or an advertisement and could not read it again.
-/

namespace Noticeboard.Store

variable {τ α β : Type}

/-- One write that succeeds, with all that its operation and the keys of the tables make sure of. -/
inductive Revision (session : Session τ) (db : Database τ) : Database τ → Prop where
  | addCategory {given : String} {row : CategoryRow τ}
      (hid : row.id = session.ids.category)
      (hname : normalizeCategoryName given = .ok row.name)
      (hcreated : row.createdAt = session.stamp)
      (hupdated : row.updatedAt = session.stamp)
      (hnew : db.hasCategory row.id = false)
      (hfree : ∀ other ∈ db.categories, other.name ≠ row.name) :
      Revision session db { db with categories := db.categories ++ [row] }
  | changeCategory {id name : String} {description : Option String}
      (hname : (∃ given, normalizeCategoryName given = .ok name) ∨
        ∃ row ∈ db.categories, row.id = id ∧ row.name = name)
      (hfree : ∀ other ∈ db.categories, other.name = name → other.id = id) :
      Revision session db (changeCategory db id fun row =>
        { row with name, description, updatedAt := session.stamp })
  | dropCategory (id : String) :
      Revision session db (db.dropCategory id)
  | addAdvertisement {row : AdvertisementRow τ}
      (hid : row.id = session.ids.advertisement)
      (hcheck : checkAdvertisement row.title row.priceCents = .ok ())
      (hscore : row.score = .whole 0)
      (hactive : row.isActive = false)
      (hcreated : row.createdAt = session.stamp)
      (hupdated : row.updatedAt = session.stamp)
      (hnew : db.hasAdvertisement row.id = false)
      (hcategory : db.hasCategory row.categoryId = true) :
      Revision session db { db with advertisements := db.advertisements ++ [row] }
  | changeAdvertisement {id title : String} {description : Option String} {priceCents : Int64}
      {categoryId : String}
      (hcheck : checkAdvertisement title priceCents = .ok ())
      (hcategory : db.hasCategory categoryId = true) :
      Revision session db (Statement.changeAdvertisement db id fun row =>
        { row with title, description, priceCents, categoryId, updatedAt := session.stamp })
  | setActive (id : String) (active : Bool) :
      Revision session db (Statement.changeAdvertisement db id fun row =>
        { row with isActive := active, updatedAt := session.stamp })
  | dropAdvertisement (id : String) :
      Revision session db (db.dropAdvertisements (· == id))
  | addModerator {row : ModeratorRow}
      (hnew : row ∉ db.moderators)
      (hadvertisement : db.hasAdvertisement row.advertisementId = true) :
      Revision session db { db with moderators := db.moderators ++ [row] }

/-- A comment or a reaction, and the points it moves. -/
inductive Engagement (session : Session τ) (db : Database τ) : Database τ → Prop where
  | addComment {row : CommentRow τ} {advertisement : AdvertisementRow τ} {score : Score}
      (hid : row.id = session.ids.comment)
      (hcontent : checkComment row.content = .ok ())
      (hcreated : row.createdAt = session.stamp)
      (hnew : ∀ other ∈ db.comments, other.id ≠ row.id)
      (hadvertisement : db.advertisement? row.advertisementId = some advertisement)
      (hscore : session.backend.addScore advertisement.score
        (session.weights.delta .commentAdded) = .ok score) :
      Engagement session db
        (setScore { db with comments := db.comments ++ [row] } row.advertisementId score)
  | removeComment {id : String} {row : CommentRow τ} {advertisement : AdvertisementRow τ}
      {score : Score}
      (hrow : db.comment? id = some row)
      (hadvertisement : db.advertisement? row.advertisementId = some advertisement)
      (hscore : session.backend.addScore advertisement.score
        (session.weights.delta .commentRemoved) = .ok score) :
      Engagement session db
        (setScore { db with comments := db.comments.filter fun row => row.id != id }
          row.advertisementId score)
  | react {kind : ReactionKind} {row : ReactionRow τ} {advertisement : AdvertisementRow τ}
      {score : Score}
      (hid : row.id = kind.freshId session.ids)
      (hnew : ∀ other ∈ db.reactions kind, other.id ≠ row.id)
      (honce : ∀ other ∈ db.reactions kind,
        other.userId = row.userId → other.advertisementId ≠ row.advertisementId)
      (hadvertisement : db.advertisement? row.advertisementId = some advertisement)
      (hscore : session.backend.addScore advertisement.score
        (session.weights.delta kind.event) = .ok score)
      (hcreated : row.createdAt = session.stamp) :
      Engagement session db (setScore (db.addReaction kind row) row.advertisementId score)

/-- What an operation may have done to the tables. -/
def Changed (session : Session τ) (db after : Database τ) : Prop :=
  Relation.ReflTransGen (Revision session) db after ∨ Engagement session db after

theorem Changed.refl (session : Session τ) (db : Database τ) : Changed session db db :=
  .inl .refl

/-- What every revision keeps, and every engagement too, is kept by every operation. -/
theorem Changed.keeps {session : Session τ} {db after : Database τ}
    {Keeps : Database τ → Prop} (h : Changed session db after)
    (hrevision : ∀ {mid next}, Keeps mid → Revision session mid next → Keeps next)
    (hengagement : Keeps db → Engagement session db after → Keeps after) (hdb : Keeps db) :
    Keeps after := by
  rcases h with hrevisions | hlast
  · clear hengagement
    induction hrevisions with
    | refl => exact hdb
    | tail _ hlast ih => exact hrevision ih hlast
  · exact hengagement hdb hlast

theorem Revision.changed {session : Session τ} {db after : Database τ}
    (h : Revision session db after) : Changed session db after :=
  .inl (.single h)

/-! ## Reads -/

/-- A read leaves the tables alone. -/
def Action.Reads (action : Action τ α) : Prop :=
  ∀ session db, (action session db).database = db

theorem Action.reads_iff_meets {action : Action τ α} :
    action.Reads ↔ ∀ session db,
      (action session db).Meets (fun _ after => after = db) (fun _ after => after = db) := by
  refine forall_congr' fun session => forall_congr' fun db => ?_
  unfold Outcome.Meets
  split <;> rfl

theorem Action.Reads.meets_iff {action : Action τ α} (h : action.Reads) {session : Session τ}
    {db : Database τ} {good : α → Database τ → Prop} {bad : Failure → Database τ → Prop} :
    (action session db).Meets good bad ↔
      (∀ a, (action session db).answer = .ok a → good a db) ∧
        ∀ failure, (action session db).answer = .error failure → bad failure db := by
  unfold Outcome.Meets
  rw [h session db]
  cases (action session db).answer with
  | ok a => simp
  | error failure => simp

/-- A read that succeeds leaves everything to what follows it. -/
theorem Action.Reads.bind_agrees {action : Action τ β} {next : β → Action τ α}
    (h : action.Reads) {session : Session τ} {db : Database τ} {b : β} {other : Outcome τ α}
    (hanswer : (action session db).answer = .ok b)
    (hnext : (next b session db).Agrees other) : ((action >>= next) session db).Agrees other := by
  rw [Outcome.agrees_iff_meets] at hnext ⊢
  rw [Action.meets_bind, h.meets_iff, hanswer]
  simpa using hnext

theorem Action.query_reads (look : Backend τ → Database τ → Except Failure α) :
    (Action.query look).Reads :=
  fun _ _ => rfl

theorem Action.pure_reads (a : α) : (pure a : Action τ α).Reads :=
  fun _ _ => rfl

theorem Action.fail_reads (failure : Failure) : (fail failure : Action τ α).Reads :=
  fun _ _ => rfl

theorem Action.ofExcept_reads (result : Except Failure α) :
    (ofExcept result : Action τ α).Reads :=
  fun _ _ => rfl

theorem Action.session_reads : (Action.session : Action τ (Session τ)).Reads :=
  fun _ _ => rfl

theorem Action.expectRow_reads (failure : Failure) (found : Bool) :
    (expectRow failure found : Action τ Unit).Reads := by
  cases found with
  | true => exact pure_reads ()
  | false => exact fail_reads failure

theorem Action.Reads.replying {action : Action τ α} {wrap : α → Reply} (h : action.Reads) :
    (action.replying wrap).Reads := by
  rw [Action.reads_iff_meets]
  intro session db
  simp [h.meets_iff]

theorem getCategory_reads (id : String) : (getCategory id : Action τ Category).Reads :=
  Action.query_reads _

theorem getAdvertisement_reads (id : String) :
    (getAdvertisement id : Action τ Advertisement).Reads :=
  Action.query_reads _

theorem moderators_reads (id : String) : (moderators id : Action τ (List String)).Reads :=
  Action.query_reads _

theorem getComment_reads (id : String) : (getComment id : Action τ Comment).Reads :=
  Action.query_reads _

/-! ## Operations -/

/-- A write that stands although the operation fails, because the category or the advertisement it
wrote cannot be read again. -/
def Unread (session : Session τ) (db : Database τ) (failure : Failure) (after : Database τ) :
    Prop :=
  Revision session db after ∧
    ((∃ row ∈ after.categories, session.backend.readCategory row = .error failure) ∨
      ∃ id, after.hasAdvertisement id = true ∧
        (getAdvertisement id session after).answer = .error failure)

/-- What every operation keeps to. -/
def Outcome.Settled (session : Session τ) (db : Database τ) (outcome : Outcome τ α) : Prop :=
  outcome.Meets (fun _ after => Changed session db after)
    (fun failure after => after = db ∨ Unread session db failure after)

variable {session : Session τ} {db : Database τ}

theorem Outcome.Settled.changed {outcome : Outcome τ α} (h : outcome.Settled session db) :
    Changed session db outcome.database := by
  apply Outcome.Meets.database
  apply h.mono
  · exact fun _ _ hchanged => hchanged
  · rintro failure after (rfl | ⟨hrevision, -⟩)
    · exact Changed.refl session after
    · exact hrevision.changed

theorem Action.Reads.settled {action : Action τ α} (h : action.Reads) :
    (action session db).Settled session db := by
  unfold Outcome.Settled
  rw [h.meets_iff]
  exact ⟨fun _ _ => Changed.refl session db, fun _ _ => .inl rfl⟩

theorem Outcome.Meets.settled {outcome : Outcome τ α} {good : α → Database τ → Prop}
    {bad : Failure → Database τ → Prop} (h : outcome.Meets good bad)
    (hgood : ∀ a after, good a after → Changed session db after)
    (hbad : ∀ failure after, bad failure after → after = db) : outcome.Settled session db :=
  h.mono hgood fun failure after hfailed => .inl (hbad failure after hfailed)

theorem Action.Reads.bind_settled {action : Action τ β} {next : β → Action τ α}
    (h : action.Reads)
    (hnext : ∀ b, (action session db).answer = .ok b →
      (next b session db).Settled session db) :
    ((action >>= next) session db).Settled session db := by
  unfold Outcome.Settled at *
  rw [Action.meets_bind, h.meets_iff]
  exact ⟨hnext, fun _ _ => .inl rfl⟩

/-- A category that was read is that of a row. -/
theorem getCategory_eq_ok {id : String} {category : Category}
    (hread : (getCategory id session db).answer = .ok category) :
    ∃ row ∈ db.categories, row.id = id ∧ row.id = category.id ∧ row.name = category.name := by
  simp only [getCategory, Action.query, lookUpCategory] at hread
  split at hread
  next row hrow =>
    refine ⟨row, List.mem_of_find?_eq_some hrow, key_eq_of_find? hrow, ?_⟩
    simp only [Backend.readCategory, bind_eq_ok, pure_eq_ok] at hread
    obtain ⟨_, -, _, -, rfl⟩ := hread
    exact ⟨rfl, rfl⟩
  next => simp at hread

theorem insertCategory_meets (draft : CategoryDraft) :
    (insertCategory draft session db).Meets
      (fun category after => Revision session db after ∧ after.hasCategory category.id = true)
      (fun _ after => after = db) := by
  unfold insertCategory
  simp only [Action.meets_bind, Action.meets_ofExcept, Action.meets_session, Action.meets_execute,
    Action.meets_pure, Statement.insertCategory_eq_ok_iff, implies_true, and_true]
  rintro name hname - after ⟨-, hnew, hfree, rfl⟩
  constructor
  · exact .addCategory rfl hname rfl rfl hnew hfree
  · simp [Database.hasCategory]

theorem createCategory_settled (draft : CategoryDraft) :
    (createCategory draft session db).Settled session db := by
  unfold createCategory
  apply (insertCategory_meets draft).settled
  · exact fun _ _ h => h.1.changed
  · exact fun _ _ h => h

/-- A patched name is a normalized text or the name that was there. -/
theorem patchedName_eq_ok {id name : String} {patch : CategoryPatch} {existing : Category}
    (hread : (getCategory id session db).answer = .ok existing)
    (hpatched : patchedName patch existing.name = .ok name) :
    (∃ given, normalizeCategoryName given = .ok name) ∨
      ∃ row ∈ db.categories, row.id = id ∧ row.name = name := by
  unfold patchedName at hpatched
  split at hpatched
  next given _ => exact .inl ⟨given, hpatched⟩
  next =>
    simp only [Except.ok.injEq] at hpatched
    subst name
    obtain ⟨row, hrow, hid, -, hname⟩ := getCategory_eq_ok hread
    exact .inr ⟨row, hrow, hid, hname⟩

theorem mergeCategory_settled (id : String) (patch : CategoryPatch) :
    (mergeCategory id patch session db).Settled session db := by
  unfold mergeCategory
  refine (getCategory_reads id).bind_settled fun existing hread => ?_
  unfold Outcome.Settled
  simp only [Action.meets_bind, Action.meets_ofExcept, Action.meets_session,
    Action.meets_execute, Action.meets_pure, Statement.updateCategory_eq_ok_iff, true_or,
    implies_true, and_true]
  rintro name hpatched found after (⟨-, -, hfree, -, rfl⟩ | ⟨-, -, rfl⟩)
  · exact (Revision.changeCategory (patchedName_eq_ok hread hpatched) hfree).changed
  · exact Changed.refl session _

/-- The name that a patch leaves in a row. -/
theorem name_of_patch {patch : CategoryPatch} {name : Option String} {row : CategoryRow τ}
    (hname : patch.name.mapM normalizeCategoryName = .ok name) :
    (∃ given, normalizeCategoryName given = .ok (name.getD row.name)) ∨
      name.getD row.name = row.name := by
  cases hpatch : patch.name with
  | none =>
      simp only [hpatch, Option.mapM_none, pure_eq_ok] at hname
      subst name
      exact .inr rfl
  | some given =>
      simp only [hpatch, Option.mapM_some] at hname
      cases hnormalized : normalizeCategoryName given with
      | ok normalized =>
          rw [hnormalized] at hname
          obtain rfl : some normalized = name := Except.ok.inj hname
          exact .inl ⟨given, hnormalized⟩
      | error failure =>
          rw [hnormalized] at hname
          contradiction

theorem patchCategory_settled (id : String) (patch : CategoryPatch) :
    (patchCategory id patch session db).Settled session db := by
  unfold patchCategory Outcome.Settled
  simp only [Action.meets_bind, Action.meets_ofExcept, Action.meets_session,
    Action.meets_execute, true_or, implies_true, and_true]
  intro name hname found after hrun
  rcases Statement.patchCategory_eq_ok_iff.mp hrun with ⟨row, hrow, hwrite, rfl⟩ | ⟨-, rfl, rfl⟩
  · rcases Statement.updateCategory_eq_ok_iff.mp hwrite with ⟨-, -, hfree, -, rfl⟩ | ⟨-, hno, -⟩
    · have hmem := List.mem_of_find?_eq_some hrow
      have hid : row.id = id := key_eq_of_find? hrow
      have hrevision : Revision session db (changeCategory db id fun old =>
          { old with
            name := name.getD row.name
            description := patch.description.apply row.description
            updatedAt := session.stamp }) :=
        .changeCategory
          ((name_of_patch hname).imp_right fun hsame => ⟨row, hmem, hid, hsame.symm⟩) hfree
      rw [Action.meets_ofExcept]
      refine ⟨fun _ _ => hrevision.changed, fun failure hread => .inr ⟨hrevision, .inl ?_⟩⟩
      refine ⟨_, List.mem_map.mpr ⟨row, hmem, ?_⟩, hread⟩
      rw [if_pos hid]
    · contradiction
  · exact (Action.meets_fail _).mpr (.inl rfl)

theorem updateCategory_settled (id : String) (patch : CategoryPatch) :
    (updateCategory id patch session db).Settled session db := by
  unfold updateCategory Outcome.Settled
  simp only [Action.meets_bind, Action.meets_session, Action.meets_ite]
  exact ⟨fun _ => patchCategory_settled id patch, fun _ => mergeCategory_settled id patch⟩

theorem deleteCategory_settled (id : String) :
    (deleteCategory id session db).Settled session db := by
  unfold deleteCategory Outcome.Settled
  simp only [Action.meets_bind, Action.meets_execute, Action.meets_expectRow,
    Statement.deleteCategory_eq_ok_iff, true_or, implies_true, and_true]
  rintro found after (⟨-, -, -, rfl, rfl⟩ | ⟨-, rfl, rfl⟩)
  · exact ⟨fun _ => (Revision.dropCategory id).changed, by simp⟩
  · exact ⟨by simp, fun _ => .inl rfl⟩

theorem insertAdvertisement_meets {creatorId : String} {category : Category}
    {draft : AdvertisementDraft}
    (hcheck : checkAdvertisement draft.title draft.priceCents = .ok ()) :
    (insertAdvertisement creatorId category draft session db).Meets
      (fun _ after => Revision session db after) (fun _ after => after = db) := by
  unfold insertAdvertisement
  simp only [Action.meets_bind, Action.meets_session, Action.meets_execute, Action.meets_pure,
    Statement.insertAdvertisement_eq_ok_iff, implies_true, and_true]
  rintro - after ⟨-, -, -, hnew, hcategory, rfl⟩
  exact .addAdvertisement rfl hcheck rfl rfl rfl rfl hnew hcategory

theorem createAdvertisement_settled (creatorId : String) (placed : PlacedDraft) :
    (createAdvertisement creatorId placed session db).Settled session db := by
  unfold createAdvertisement Outcome.Settled
  simp only [Action.meets_bind, Action.meets_ofExcept, (getCategory_reads _).meets_iff, true_or,
    implies_true, and_true]
  intro _ hcheck category _
  exact (insertAdvertisement_meets hcheck).settled (fun _ _ h => h.changed) (fun _ _ h => h)

theorem createAdvertisementWithCategory_settled (creatorId : String) (category : CategoryDraft)
    (draft : AdvertisementDraft) :
    (createAdvertisementWithCategory creatorId category draft session db).Settled session db := by
  unfold createAdvertisementWithCategory Outcome.Settled
  simp only [Action.meets_bind, Action.meets_ofExcept, Action.meets_transaction, true_or,
    implies_true, and_true]
  intro _ hcheck
  -- both writes are in one transaction, so only what they come to together matters
  apply (insertCategory_meets category).mono
  · rintro created mid ⟨hfirst, -⟩
    apply (insertAdvertisement_meets hcheck).mono
    · exact fun _ after hsecond => .inl ((Relation.ReflTransGen.single hfirst).tail hsecond)
    · exact fun _ _ _ => trivial
  · exact fun _ _ _ => trivial

@[simp] theorem hasAdvertisement_changeAdvertisement (db : Database τ) (id other : String)
    (change : AdvertisementRow τ → AdvertisementRow τ) (hchange : ∀ row, (change row).id = row.id) :
    (Statement.changeAdvertisement db id change).hasAdvertisement other =
      db.hasAdvertisement other := by
  unfold Statement.changeAdvertisement Database.hasAdvertisement
  simp only [List.any_map]
  congr 1
  funext row
  simp only [Function.comp_apply]
  split
  · rw [hchange]
  · rfl

theorem reread_settled {after : Database τ} {id : String} (hrevision : Revision session db after)
    (hpresent : after.hasAdvertisement id = true) :
    (getAdvertisement id session after).Settled session db := by
  unfold Outcome.Settled
  rw [(getAdvertisement_reads id).meets_iff]
  exact ⟨fun _ _ => hrevision.changed, fun _ hread => .inr ⟨hrevision, .inr ⟨id, hpresent, hread⟩⟩⟩

theorem updateAdvertisement_settled (id : String) (patch : AdvertisementPatch) :
    (updateAdvertisement id patch session db).Settled session db := by
  have hwrite {title : String} {description : Option String} {priceCents : Int64}
      {categoryId : String} {found : Bool} {after : Database τ}
      (hcheck : checkAdvertisement title priceCents = .ok ())
      (hrun : Statement.updateAdvertisement id title description priceCents categoryId
        session.stamp session.triggers db = .ok (found, after)) :
      (getAdvertisement id session after).Settled session db := by
    rcases Statement.updateAdvertisement_eq_ok_iff.mp hrun with
      ⟨hpresent, -, hcategory, -, rfl⟩ | ⟨-, -, rfl⟩
    · apply reread_settled (.changeAdvertisement hcheck hcategory)
      simpa using hpresent
    · exact (getAdvertisement_reads id).settled
  unfold updateAdvertisement
  refine (getAdvertisement_reads id).bind_settled fun existing _ => ?_
  unfold Outcome.Settled
  cases patch.categoryId with
  | none =>
      simp only [Action.meets_bind, Action.meets_ofExcept, Action.meets_session,
        Action.meets_execute, Action.meets_pure, true_or, implies_true, and_true]
      intro _ hcheck found after hrun
      exact hwrite hcheck hrun
  | some categoryId =>
      simp only [Action.meets_bind, Action.meets_ofExcept, Action.meets_session,
        Action.meets_execute, Action.meets_pure, (getCategory_reads _).meets_iff, true_or,
        implies_true, and_true]
      intro _ hcheck category _ found after hrun
      exact hwrite hcheck hrun

theorem setAdvertisementActive_settled (id : String) (active : Bool) :
    (setAdvertisementActive id active session db).Settled session db := by
  unfold setAdvertisementActive Outcome.Settled
  simp only [Action.meets_bind, Action.meets_session, Action.meets_execute,
    Action.meets_expectRow, Statement.setActive_eq_ok_iff, true_or, implies_true, and_true]
  rintro found after (⟨hpresent, rfl, rfl⟩ | ⟨-, rfl, rfl⟩)
  · refine ⟨fun _ => ?_, by simp⟩
    apply reread_settled (.setActive id active)
    simpa using hpresent
  · exact ⟨by simp, fun _ => .inl rfl⟩

theorem deleteAdvertisement_settled (id : String) :
    (deleteAdvertisement id session db).Settled session db := by
  unfold deleteAdvertisement Outcome.Settled
  simp only [Action.meets_bind, Action.meets_execute, Action.meets_expectRow,
    Statement.deleteAdvertisement_eq_ok_iff, true_or, implies_true, and_true]
  rintro found after (⟨-, -, rfl, rfl⟩ | ⟨-, rfl, rfl⟩)
  · exact ⟨fun _ => (Revision.dropAdvertisement id).changed, by simp⟩
  · exact ⟨by simp, fun _ => .inl rfl⟩

theorem addModerator_settled (advertisementId userId : String) :
    (addModerator advertisementId userId session db).Settled session db := by
  unfold addModerator Outcome.Settled
  simp only [Action.meets_execute, Statement.insertModerator_eq_ok_iff, true_or, implies_true,
    and_true]
  rintro - after ⟨-, ⟨-, rfl⟩ | ⟨hnew, hadvertisement, rfl⟩⟩
  · exact Changed.refl session _
  · exact (Revision.addModerator hnew hadvertisement).changed

/-! ## Points

The statements before an event run in its transaction, so only what a successful event adds to
them is left. -/

theorem applyEvent_meets (event : ScoreEvent) :
    (applyEvent event session db).Meets
      (fun _ after => ∃ row score, db.advertisement? event.advertisementId = some row ∧
        session.backend.addScore row.score (session.weights.delta event.kind) = .ok score ∧
        after = setScore db event.advertisementId score)
      (fun _ _ => True) := by
  unfold applyEvent increment
  simp only [Action.meets_bind, Action.meets_session, Action.meets_reporting,
    Action.meets_execute, Action.meets_expectRow, Action.meets_pure,
    Statement.addScore_eq_ok_iff, implies_true, and_true]
  rintro found after (⟨row, score, hrow, -, hscore, rfl, rfl⟩ | ⟨-, rfl, rfl⟩)
  · exact fun _ => ⟨row, score, hrow, hscore, rfl⟩
  · simp

theorem addComment_settled (draft : CommentDraft) :
    (addComment draft session db).Settled session db := by
  unfold addComment Outcome.Settled
  simp only [Action.meets_bind, Action.meets_ofExcept, Action.meets_session,
    Action.meets_transaction, Action.meets_execute, Action.meets_pure,
    Statement.insertComment_eq_ok_iff, true_or, implies_true, and_true]
  rintro _ hcontent _ mid ⟨-, hnew, -, rfl⟩
  apply (applyEvent_meets _).mono
  · rintro - after ⟨advertisement, score, hadvertisement, hscore, rfl⟩
    exact .inr (.addComment rfl hcontent rfl hnew hadvertisement hscore)
  · exact fun _ _ _ => trivial

theorem deleteComment_settled (id : String) :
    (deleteComment id session db).Settled session db := by
  unfold deleteComment Outcome.Settled
  simp only [Action.meets_bind, Action.meets_transaction, Action.meets_execute,
    Statement.deleteComment_eq_ok_iff, true_or, implies_true, and_true]
  rintro at? mid (⟨row, hrow, -, rfl, rfl⟩ | ⟨-, rfl, rfl⟩)
  · simp only [Action.meets_bind, Action.meets_pure]
    apply (applyEvent_meets _).mono
    · rintro - after ⟨advertisement, score, hadvertisement, hscore, rfl⟩
      exact .inr (.removeComment hrow hadvertisement hscore)
    · exact fun _ _ _ => trivial
  · simp

@[simp] theorem advertisement?_addReaction (db : Database τ) (kind : ReactionKind)
    (row : ReactionRow τ) (id : String) :
    (db.addReaction kind row).advertisement? id = db.advertisement? id := by
  cases kind <;> rfl

@[simp] theorem hasAdvertisement_addReaction (db : Database τ) (kind : ReactionKind)
    (row : ReactionRow τ) (id : String) :
    (db.addReaction kind row).hasAdvertisement id = db.hasAdvertisement id := by
  cases kind <;> rfl

theorem advertisement?_dropAdvertisements_self (db : Database τ) (id : String) :
    (db.dropAdvertisements (· == id)).advertisement? id = none := by
  simp [Database.advertisement?, Database.dropAdvertisements]

theorem react_settled (kind : ReactionKind) (userId advertisementId : String) :
    (react kind userId advertisementId session db).Settled session db := by
  unfold react Outcome.Settled
  simp only [Action.meets_bind, Action.meets_session, Action.meets_transaction,
    Action.meets_execute, Action.meets_pure, Statement.insertReaction_eq_ok_iff, true_or,
    implies_true, and_true]
  rintro - mid ⟨-, hnew, honce, hpresent, ⟨-, found, hdropped⟩ | ⟨-, rfl⟩⟩
  · apply (applyEvent_meets _).mono
    · -- the reaction set off a write that removed its advertisement, so there is no score to move
      rintro - after ⟨advertisement, score, hadvertisement, -⟩
      rcases Statement.deleteAdvertisement_eq_ok_iff.mp hdropped with
        ⟨-, -, -, rfl⟩ | ⟨habsent, -⟩
      · simp [advertisement?_dropAdvertisements_self] at hadvertisement
      · rw [hasAdvertisement_addReaction, hpresent] at habsent
        contradiction
    · exact fun _ _ _ => trivial
  · apply (applyEvent_meets _).mono
    · rintro - after ⟨advertisement, score, hadvertisement, hscore, rfl⟩
      rw [advertisement?_addReaction] at hadvertisement
      exact .inr (.react rfl hnew honce hadvertisement hscore rfl)
    · exact fun _ _ _ => trivial

/-! ## Commands -/

theorem Outcome.Settled.replying {action : Action τ α} {wrap : α → Reply}
    (h : (action session db).Settled session db) :
    (action.replying wrap session db).Settled session db :=
  Action.meets_replying.mpr h

theorem Outcome.Settled.settling {action : Action τ Unit}
    (h : (action session db).Settled session db) :
    (action.settling session db).Settled session db :=
  h.replying

theorem Command.perform_settled (command : Command) :
    (command.perform session db).Settled session db := by
  cases command with
  | createCategory draft => exact (createCategory_settled draft).replying
  | getCategory id => exact (getCategory_reads id).settled.replying
  | findCategoryByName name => exact (Action.query_reads _).settled.replying
  | listCategories => exact (Action.query_reads _).settled.replying
  | updateCategory id patch => exact (updateCategory_settled id patch).replying
  | deleteCategory id => exact (deleteCategory_settled id).settling
  | createAdvertisement creatorId placed =>
      exact (createAdvertisement_settled creatorId placed).replying
  | createAdvertisementWithCategory creatorId category draft =>
      exact (createAdvertisementWithCategory_settled creatorId category draft).replying
  | getAdvertisement id => exact (getAdvertisement_reads id).settled.replying
  | activeAdvertisements => exact (Action.query_reads _).settled.replying
  | updateAdvertisement id patch => exact (updateAdvertisement_settled id patch).replying
  | setAdvertisementActive id active =>
      exact (setAdvertisementActive_settled id active).replying
  | deleteAdvertisement id => exact (deleteAdvertisement_settled id).settling
  | addModerator advertisementId userId =>
      exact (addModerator_settled advertisementId userId).settling
  | moderators advertisementId => exact (moderators_reads advertisementId).settled.replying
  | addComment draft => exact (addComment_settled draft).replying
  | getComment id => exact (getComment_reads id).settled.replying
  | deleteComment id => exact (deleteComment_settled id).settling
  | likeAdvertisement userId advertisementId =>
      exact (react_settled .like userId advertisementId).replying
  | saveAdvertisement userId advertisementId =>
      exact (react_settled .save userId advertisementId).replying

end Noticeboard.Store
