import Noticeboard.Proofs.Run

/-!
# Access rights

Who may do what is stated over the rows of the tables.  A call without the right is refused and
leaves the tables alone; a call with it is the operation of the store below it.  The service finds
the rights through the record of an advertisement, so a call is also refused if there is one whose
score has left the integers, for that cannot be read.
-/

namespace Noticeboard.Service

open Store (Session Database Action Outcome AdvertisementRow CommentRow)

variable {τ α : Type}

/-! ## Rights -/

def Owns (actor : Actor) (row : AdvertisementRow τ) : Prop :=
  actor.isSuperuser = true ∨ row.creatorId = actor.userId

def Manages (db : Database τ) (actor : Actor) (row : AdvertisementRow τ) : Prop :=
  Owns actor row ∨ ⟨row.id, actor.userId⟩ ∈ db.moderators

def Sees (db : Database τ) (actor : Actor) (row : AdvertisementRow τ) : Prop :=
  row.isActive = true ∨ Manages db actor row

instance (actor : Actor) (row : AdvertisementRow τ) : Decidable (Owns actor row) :=
  inferInstanceAs (Decidable (_ ∨ _))

instance (db : Database τ) (actor : Actor) (row : AdvertisementRow τ) :
    Decidable (Manages db actor row) :=
  inferInstanceAs (Decidable (_ ∨ _))

/-- A comment is its author's, and the creator's of the advertisement it is at. -/
def MayRemove (db : Database τ) (actor : Actor) (comment : CommentRow τ) : Prop :=
  actor.isSuperuser = true ∨ comment.userId = actor.userId ∨
    ∃ row, db.advertisement? comment.advertisementId = some row ∧ row.creatorId = actor.userId

/-- The rights that calls need, on the advertisement or comment that they name. -/
def Command.Permitted (db : Database τ) : Command → Prop
  | .updateCategory actor _ _ | .deleteCategory actor _ | .approveAdvertisement actor _ _ =>
      actor.isStaff = true ∨ actor.isSuperuser = true
  | .updateAdvertisement actor id _ | .deleteAdvertisement actor id =>
      ∃ row, db.advertisement? id = some row ∧ Manages db actor row
  | .addModerator actor id _ => ∃ row, db.advertisement? id = some row ∧ Owns actor row
  | .addComment actor id _ | .likeAdvertisement actor id | .saveAdvertisement actor id =>
      ∃ row, db.advertisement? id = some row ∧ Sees db actor row
  | .deleteComment actor commentId =>
      ∃ comment, db.comment? commentId = some comment ∧ MayRemove db actor comment
  | _ => True

/-- A patch that changes nothing is refused. -/
def Command.IdlePatch : Command → Prop
  | .updateCategory _ _ patch => patch.isEmpty = true
  | .updateAdvertisement _ _ patch => patch.isEmpty = true
  | _ => False

/-- To find the rights, the call has to read an advertisement whose score is off the scale. -/
def Command.Obstructed (db : Database τ) : Command → Prop
  | .updateAdvertisement _ id _ | .deleteAdvertisement _ id | .addModerator _ id _
  | .addComment _ id _ | .likeAdvertisement _ id | .saveAdvertisement _ id => db.OffScale id
  | .deleteComment actor commentId =>
      ∃ comment, db.comment? commentId = some comment ∧ comment.userId ≠ actor.userId ∧
        actor.isSuperuser = false ∧ db.OffScale comment.advertisementId
  | _ => False

/-- The operation of the store that a call comes down to, if it writes. -/
def Command.operation? : Command → Option Store.Command
  | .createCategory _ draft => some (.createCategory draft)
  | .updateCategory _ id patch => some (.updateCategory id patch)
  | .deleteCategory _ id => some (.deleteCategory id)
  | .createAdvertisement actor request =>
      match request.category with
      | .existing id => some (.createAdvertisement actor.userId (request.draft.inCategory id))
      | .new category =>
          some (.createAdvertisementWithCategory actor.userId category request.draft)
  | .updateAdvertisement _ id patch => some (.updateAdvertisement id patch)
  | .deleteAdvertisement _ id => some (.deleteAdvertisement id)
  | .approveAdvertisement _ id active => some (.setAdvertisementActive id active)
  | .addModerator _ id userId => some (.addModerator id userId)
  | .addComment actor id content => some (.addComment ⟨id, actor.userId, content⟩)
  | .deleteComment _ commentId => some (.deleteComment commentId)
  | .likeAdvertisement actor id => some (.likeAdvertisement actor.userId id)
  | .saveAdvertisement actor id => some (.saveAdvertisement actor.userId id)
  | _ => none

variable {session : Session τ} {db : Database τ} {actor : Actor} {id : String}
  {row : AdvertisementRow τ} {advertisement : Advertisement}

/-! ## What the checks find -/

theorem ownsOrOverrules_iff (hshown : row.ShownBy advertisement) :
    ownsOrOverrules actor advertisement = true ↔ Owns actor row := by
  simp [ownsOrOverrules, Owns, hshown.creatorId]

theorem canManage_answer (hshown : row.ShownBy advertisement) :
    (canManage actor advertisement session db).answer = .ok (decide (Manages db actor row)) := by
  rw [Outcome.answer_eq_ok_iff_meets]
  by_cases howns : Owns actor row
  · have hread := (ownsOrOverrules_iff hshown).mpr howns
    simp [canManage, hread, Manages, howns]
  · have hread : ownsOrOverrules actor advertisement = false := by
      simpa using mt (ownsOrOverrules_iff hshown).mp howns
    have hlisted : (∃ moderator ∈ db.moderators, moderator.advertisementId = row.id ∧
        moderator.userId = actor.userId) ↔ ⟨row.id, actor.userId⟩ ∈ db.moderators := by
      constructor
      · rintro ⟨⟨_, _⟩, hmem, rfl, rfl⟩
        exact hmem
      · exact fun hmem => ⟨_, hmem, rfl, rfl⟩
    simpa [canManage, hread, Manages, howns, Store.moderators, hshown.id, and_assoc] using hlisted

/-- Checking for a manager lets managers pass and refuses the others. -/
theorem meets_requireManager {deed : String} {good : Unit → Database τ → Prop}
    {bad : Failure → Database τ → Prop} (hshown : row.ShownBy advertisement) :
    (requireManager actor advertisement deed session db).Meets good bad ↔
      (Manages db actor row → good () db) ∧
        (¬ Manages db actor row → bad (.notAllowed deed) db) := by
  simp [requireManager, (canManage_reads actor advertisement).meets_iff, canManage_answer hshown]

/-- An advertisement that an actor is shown was read from a row that the actor may see. -/
theorem visibleAdvertisement_eq_ok
    (hvisible : (visibleAdvertisement (some actor) id session db).answer = .ok advertisement) :
    ∃ row, db.advertisement? id = some row ∧ row.ShownBy advertisement ∧ Sees db actor row := by
  have hmeets : (visibleAdvertisement (some actor) id session db).Meets
      (fun record _ => ∃ row, db.advertisement? id = some row ∧ row.ShownBy record ∧
        Sees db actor row) (fun _ _ => True) := by
    simp only [visibleAdvertisement, Action.meets_bind, Action.meets_ite, Action.meets_fail,
      Action.meets_pure, (Store.getAdvertisement_reads _).meets_iff,
      (canManage_reads _ _).meets_iff, implies_true, and_true, true_and]
    intro _ record hread
    obtain ⟨row, hrow, hshown⟩ := Store.getAdvertisement_eq_ok hread
    refine ⟨fun hactive => ⟨row, hrow, hshown, .inl (hshown.isActive ▸ hactive)⟩, ?_⟩
    intro _ manages hmanages hpass
    rw [canManage_answer hshown, Except.ok.injEq] at hmanages
    subst hmanages
    exact ⟨row, hrow, hshown, .inr (of_decide_eq_true hpass)⟩
  exact hmeets.of_ok hvisible

theorem visibleAdvertisement_ok (hgiven : (Text.trim id).isEmpty = false)
    (hread : (Store.getAdvertisement id session db).answer = .ok advertisement)
    (hshown : row.ShownBy advertisement) (hsees : Sees db actor row) :
    (visibleAdvertisement (some actor) id session db).answer = .ok advertisement := by
  have hmanages : advertisement.isActive = false → Manages db actor row := by
    intro hinactive
    rcases hsees with hactive | hmanages
    · rw [← hshown.isActive, hinactive] at hactive
      exact absurd hactive Bool.false_ne_true
    · exact hmanages
  rw [Outcome.answer_eq_ok_iff_meets]
  simpa [visibleAdvertisement, (Store.getAdvertisement_reads _).meets_iff,
    (canManage_reads _ _).meets_iff, hgiven, hread, canManage_answer hshown] using hmanages

/-! ## Calls without the right -/

section Refused

variable {next : Advertisement → Action τ α}

theorem calling_refused {operation : Operation} {details : List (String × Json)}
    {work : Action τ α} (h : (work session db).Refused db) :
    (calling operation details work session db).Refused db := by
  rw [Outcome.refused_iff_meets] at h ⊢
  exact meets_calling.mpr h

theorem visible_bind_refused
    (hnext : ∀ advertisement row, db.advertisement? id = some row → row.ShownBy advertisement →
      Sees db actor row → (next advertisement session db).Refused db) :
    ((visibleAdvertisement (some actor) id >>= next) session db).Refused db := by
  rw [Outcome.refused_iff_meets, Action.meets_bind, (visibleAdvertisement_reads _ _).meets_iff]
  refine ⟨fun advertisement hvisible => ?_, fun _ _ => rfl⟩
  obtain ⟨row, hrow, hshown, hsees⟩ := visibleAdvertisement_eq_ok hvisible
  exact Outcome.refused_iff_meets.mp (hnext advertisement row hrow hshown hsees)

/-- Whoever cannot see an advertisement gets no further, and nobody does if it cannot be read. -/
theorem unseen_refused
    (hunseen : ¬ (∃ row, db.advertisement? id = some row ∧ Sees db actor row) ∨ db.OffScale id) :
    ((visibleAdvertisement (some actor) id >>= next) session db).Refused db := by
  refine visible_bind_refused fun advertisement row hrow hshown hsees => ?_
  exact absurd ⟨row, hrow, hsees⟩ (hunseen.resolve_right (hshown.not_offScale hrow))

theorem unmanaged_refused {deed : String} {work : Action τ α}
    (hunmanaged : ¬ (∃ row, db.advertisement? id = some row ∧ Manages db actor row) ∨
      db.OffScale id) :
    ((do
      let advertisement ← visibleAdvertisement (some actor) id
      requireManager actor advertisement deed
      work) session db).Refused db := by
  refine visible_bind_refused fun advertisement row hrow hshown _ => ?_
  have hother : ¬ Manages db actor row := fun h =>
    hunmanaged.resolve_right (hshown.not_offScale hrow) ⟨row, hrow, h⟩
  rw [Outcome.refused_iff_meets, Action.meets_bind, meets_requireManager hshown]
  exact ⟨fun h => absurd h hother, fun _ => rfl⟩

theorem unmoderated_refused {deed : String} {work : Action τ α}
    (hunmoderated : ¬ (actor.isStaff = true ∨ actor.isSuperuser = true)) :
    ((do
      requireSiteModerator actor deed
      work) session db).Refused db := by
  have hplain : actor.isSiteModerator = false := by
    simpa [Actor.isSiteModerator] using hunmoderated
  rw [Outcome.refused_iff_meets]
  simp [requireSiteModerator, hplain]

theorem updateAdvertisement_refused (patch : AdvertisementPatch)
    (hunmanaged : ¬ (∃ row, db.advertisement? id = some row ∧ Manages db actor row) ∨
      db.OffScale id) :
    (updateAdvertisement actor id patch session db).Refused db := by
  apply calling_refused
  by_cases hidle : patch.isEmpty = true
  · rw [Outcome.refused_iff_meets]
    simp [hidle]
  · simp only [hidle]
    exact unmanaged_refused hunmanaged

theorem addModerator_refused (userId : String)
    (hunowned : ¬ (∃ row, db.advertisement? id = some row ∧ Owns actor row) ∨ db.OffScale id) :
    (addModerator actor id userId session db).Refused db := by
  apply calling_refused
  refine visible_bind_refused fun advertisement row hrow hshown _ => ?_
  have hother : ownsOrOverrules actor advertisement = false := by
    have hrights : ¬ Owns actor row := fun h =>
      hunowned.resolve_right (hshown.not_offScale hrow) ⟨row, hrow, h⟩
    simpa using mt (ownsOrOverrules_iff hshown).mp hrights
  rw [Outcome.refused_iff_meets]
  simp [hother]

theorem deleteComment_refused {commentId : String}
    (hother : ¬ (Command.deleteComment actor commentId).Permitted db ∨
      (Command.deleteComment actor commentId).Obstructed db) :
    (deleteComment actor commentId session db).Refused db := by
  apply calling_refused
  rw [Outcome.refused_iff_meets]
  simp only [Action.meets_bind, Action.meets_ite, Action.meets_fail,
    (Store.getComment_reads _).meets_iff, (Store.getAdvertisement_reads _).meets_iff,
    implies_true, and_true]
  intro comment hread
  obtain ⟨found, hfound, huser, hat⟩ := Store.getComment_eq_ok hread
  have hstranger : actor.isSuperuser = false ∧ found.userId ≠ actor.userId ∧
      ∀ row advertisement, db.advertisement? found.advertisementId = some row →
        row.ShownBy advertisement → row.creatorId ≠ actor.userId := by
    rcases hother with hforbidden | ⟨same, hsame, hforeign, hplain, hscale⟩
    · have hrights : ¬ MayRemove db actor found := fun h => hforbidden ⟨found, hfound, h⟩
      simp only [MayRemove, not_or, Bool.not_eq_true] at hrights
      exact ⟨hrights.1, hrights.2.1, fun row _ hrow _ hcreator =>
        hrights.2.2 ⟨row, hrow, hcreator⟩⟩
    · obtain rfl : found = same := Option.some.inj (hfound.symm.trans hsame)
      exact ⟨hplain, hforeign, fun row _ hrow hshown =>
        absurd hscale (hshown.not_offScale hrow)⟩
  obtain ⟨hplain, hforeign, hcreator⟩ := hstranger
  rw [huser, hat]
  refine ⟨fun _ advertisement hadvertisement => ⟨trivial, fun hcreated => ?_⟩, fun hrights => ?_⟩
  · obtain ⟨row, hrow, hshown⟩ := Store.getAdvertisement_eq_ok hadvertisement
    have hsame : row.creatorId = actor.userId := hshown.creatorId ▸ by simpa using hcreated
    exact absurd hsame (hcreator row advertisement hrow hshown)
  · simp [hforeign, hplain] at hrights

end Refused

/-- A call without the right fails, and the tables stay as they were.  So does one that cannot read
the advertisement by which it would tell. -/
theorem Command.perform_refused (settings : EngineSettings) {command : Command}
    (hstopped : ¬ command.Permitted db ∨ command.Obstructed db) :
    (command.perform settings session db).Refused db := by
  cases command with
  | updateCategory actor id patch =>
      exact (calling_refused (unmoderated_refused (hstopped.resolve_right not_false))).replying
  | deleteCategory actor id =>
      exact (calling_refused (unmoderated_refused (hstopped.resolve_right not_false))).settling
  | approveAdvertisement actor id active =>
      exact (calling_refused (unmoderated_refused (hstopped.resolve_right not_false))).replying
  | updateAdvertisement actor id patch =>
      exact (updateAdvertisement_refused patch hstopped).replying
  | deleteAdvertisement actor id =>
      exact (calling_refused (unmanaged_refused hstopped)).settling
  | addModerator actor id userId => exact (addModerator_refused userId hstopped).settling
  | addComment actor id content => exact (calling_refused (unseen_refused hstopped)).replying
  | likeAdvertisement actor id => exact (calling_refused (unseen_refused hstopped)).replying
  | saveAdvertisement actor id => exact (calling_refused (unseen_refused hstopped)).replying
  | deleteComment actor commentId => exact (deleteComment_refused hstopped).settling
  | _ => exact absurd trivial (hstopped.resolve_right not_false)

/-! ## Calls with the right -/

/-- Ids are not blank, so that a call can name them. -/
def IdsGiven (db : Database τ) : Prop :=
  ∀ id, db.hasAdvertisement id = true → (Text.trim id).isEmpty = false

section Agrees

variable {next : Advertisement → Action τ α} {other : Outcome τ α}

theorem calling_agrees {operation : Operation} {details : List (String × Json)}
    {work : Action τ α} (h : (work session db).Agrees other) :
    (calling operation details work session db).Agrees other := by
  rw [Outcome.agrees_iff_meets] at h ⊢
  exact meets_calling.mpr h

theorem visible_bind_agrees (horderly : db.Orderly session.backend) (hgiven : IdsGiven db)
    (hscale : ¬ db.OffScale id)
    (hnext : ∀ advertisement, row.ShownBy advertisement →
      (next advertisement session db).Agrees other)
    (hrow : db.advertisement? id = some row) (hsees : Sees db actor row) :
    ((visibleAdvertisement (some actor) id >>= next) session db).Agrees other := by
  obtain ⟨advertisement, hread⟩ := Store.getAdvertisement_ok horderly hrow hscale
  obtain ⟨found, hfound, hshown⟩ := Store.getAdvertisement_eq_ok hread
  obtain rfl : row = found := Option.some.inj (hrow.symm.trans hfound)
  have hnamed := hgiven id (Store.hasAdvertisement_of_find hrow)
  exact (visibleAdvertisement_reads _ _).bind_agrees
    (visibleAdvertisement_ok hnamed hread hshown hsees) (hnext advertisement hshown)

theorem managed_agrees {deed : String} {work : Action τ α} (horderly : db.Orderly session.backend)
    (hgiven : IdsGiven db) (hscale : ¬ db.OffScale id)
    (hmanages : ∃ row, db.advertisement? id = some row ∧ Manages db actor row) :
    ((do
      let advertisement ← visibleAdvertisement (some actor) id
      requireManager actor advertisement deed
      work) session db).Agrees (work session db) := by
  obtain ⟨row, hrow, hmanages⟩ := hmanages
  refine visible_bind_agrees horderly hgiven hscale (fun advertisement hshown => ?_) hrow
    (.inr hmanages)
  apply (requireManager_reads _ _ _).bind_agrees
  · rw [Outcome.answer_eq_ok_iff_meets, meets_requireManager hshown]
    exact ⟨fun _ => rfl, fun hother => hother hmanages⟩
  · exact ⟨rfl, rfl⟩

theorem moderated_agrees {deed : String} {work : Action τ α}
    (hmoderates : actor.isStaff = true ∨ actor.isSuperuser = true) :
    ((do
      requireSiteModerator actor deed
      work) session db).Agrees (work session db) := by
  have hpass : actor.isSiteModerator = true := by
    simpa [Actor.isSiteModerator] using hmoderates
  apply (requireSiteModerator_reads _ _).bind_agrees (b := ())
  · rw [Outcome.answer_eq_ok_iff_meets]
    simp [requireSiteModerator, hpass]
  · exact ⟨rfl, rfl⟩

/-- A check that the operation makes again makes no difference. -/
theorem checked_agrees {check : Except Failure Unit} {work : Action τ α} :
    ((do
      Action.ofExcept check
      Action.ofExcept check
      work) session db).Agrees
      ((do
        Action.ofExcept check
        work) session db) := by
  cases check with
  | ok u => exact ⟨rfl, rfl⟩
  | error failure => exact ⟨rfl, rfl⟩

theorem createAdvertisement_agrees (request : AdvertisementRequest) {operation : Store.Command}
    (hoperation : (Command.createAdvertisement actor request).operation? = some operation) :
    ((createAdvertisement actor request).replying .advertisement session db).Agrees
      (operation.perform session db) := by
  obtain ⟨draft, choice⟩ := request
  cases choice with
  | existing categoryId =>
      obtain rfl := Option.some.inj hoperation
      exact Outcome.Agrees.replying (calling_agrees checked_agrees)
  | new category =>
      obtain rfl := Option.some.inj hoperation
      exact Outcome.Agrees.replying (calling_agrees checked_agrees)

theorem updateCategory_agrees {patch : CategoryPatch} (hchanges : patch.isEmpty = false)
    (hmoderates : actor.isStaff = true ∨ actor.isSuperuser = true) :
    (updateCategory actor id patch session db).Agrees
      (Store.updateCategory id patch session db) := by
  apply calling_agrees
  simp only [hchanges]
  exact moderated_agrees hmoderates

theorem updateAdvertisement_agrees {patch : AdvertisementPatch} (hchanges : patch.isEmpty = false)
    (horderly : db.Orderly session.backend) (hgiven : IdsGiven db) (hscale : ¬ db.OffScale id)
    (hmanages : ∃ row, db.advertisement? id = some row ∧ Manages db actor row) :
    (updateAdvertisement actor id patch session db).Agrees
      (Store.updateAdvertisement id patch session db) := by
  apply calling_agrees
  simp only [hchanges]
  exact managed_agrees horderly hgiven hscale hmanages

theorem addModerator_agrees (userId : String) (horderly : db.Orderly session.backend)
    (hgiven : IdsGiven db) (hscale : ¬ db.OffScale id)
    (howns : ∃ row, db.advertisement? id = some row ∧ Owns actor row) :
    (addModerator actor id userId session db).Agrees (Store.addModerator id userId session db) := by
  obtain ⟨row, hrow, howns⟩ := howns
  apply calling_agrees
  refine visible_bind_agrees horderly hgiven hscale (fun advertisement hshown => ?_) hrow
    (.inr (.inl howns))
  simp only [(ownsOrOverrules_iff hshown).mpr howns]
  exact ⟨rfl, rfl⟩

theorem seen_agrees {work : Action τ α} (horderly : db.Orderly session.backend)
    (hgiven : IdsGiven db) (hscale : ¬ db.OffScale id)
    (hsees : ∃ row, db.advertisement? id = some row ∧ Sees db actor row) :
    ((do
      let _ ← visibleAdvertisement (some actor) id
      work) session db).Agrees (work session db) := by
  obtain ⟨row, hrow, hsees⟩ := hsees
  exact visible_bind_agrees horderly hgiven hscale (fun _ _ => ⟨rfl, rfl⟩) hrow hsees

theorem deleteComment_agrees {commentId : String} (horderly : db.Orderly session.backend)
    (hscale : ¬ (Command.deleteComment actor commentId).Obstructed db)
    (hrights : ∃ comment, db.comment? commentId = some comment ∧ MayRemove db actor comment) :
    (deleteComment actor commentId session db).Agrees
      (Store.deleteComment commentId session db) := by
  obtain ⟨comment, hcomment, hrights⟩ := hrights
  obtain ⟨record, hread⟩ := Store.getComment_ok horderly hcomment
  obtain ⟨found, hfound, huser, hat⟩ := Store.getComment_eq_ok hread
  obtain rfl : comment = found := Option.some.inj (hcomment.symm.trans hfound)
  apply calling_agrees
  apply (Store.getComment_reads _).bind_agrees hread
  by_cases hforeign : (record.userId != actor.userId && !actor.isSuperuser) = true
  · have hstranger : comment.userId ≠ actor.userId ∧ actor.isSuperuser = false := by
      simpa [huser] using hforeign
    rcases hrights with hsuper | hauthor | ⟨row, hrow, hcreator⟩
    · simp [hsuper] at hforeign
    · simp [huser, hauthor] at hforeign
    · have hthere : ¬ db.OffScale comment.advertisementId := fun h =>
        hscale ⟨comment, hcomment, hstranger.1, hstranger.2, h⟩
      obtain ⟨advertisement, hadvertisement⟩ := Store.getAdvertisement_ok horderly hrow hthere
      obtain ⟨same, hsame, hshown⟩ := Store.getAdvertisement_eq_ok hadvertisement
      obtain rfl : row = same := Option.some.inj (hrow.symm.trans hsame)
      have hpass : (advertisement.creatorId != actor.userId) = false := by
        simp [hshown.creatorId, hcreator]
      rw [← hat] at hadvertisement
      simp only [hforeign]
      apply (Store.getAdvertisement_reads _).bind_agrees hadvertisement
      simp only [hpass]
      exact ⟨rfl, rfl⟩
  · simp only [hforeign]
    exact ⟨rfl, rfl⟩

end Agrees

/-- A call with the right answers what the operation of the store answers, and does what it does. -/
theorem Command.perform_agrees (settings : EngineSettings) {command : Command}
    {operation : Store.Command} (horderly : db.Orderly session.backend) (hgiven : IdsGiven db)
    (hpermitted : command.Permitted db) (hpatch : ¬ command.IdlePatch)
    (hclear : ¬ command.Obstructed db) (hoperation : command.operation? = some operation) :
    (command.perform settings session db).Agrees (operation.perform session db) := by
  cases command with
  | createAdvertisement actor request => exact createAdvertisement_agrees request hoperation
  | createCategory actor draft =>
      obtain rfl := Option.some.inj hoperation
      exact Outcome.Agrees.replying (calling_agrees ⟨rfl, rfl⟩)
  | updateCategory actor id patch =>
      obtain rfl := Option.some.inj hoperation
      have hchanges : patch.isEmpty = false := by simpa [IdlePatch] using hpatch
      exact Outcome.Agrees.replying (updateCategory_agrees hchanges hpermitted)
  | deleteCategory actor id =>
      obtain rfl := Option.some.inj hoperation
      exact Outcome.Agrees.settling (calling_agrees (moderated_agrees hpermitted))
  | approveAdvertisement actor id active =>
      obtain rfl := Option.some.inj hoperation
      exact Outcome.Agrees.replying (calling_agrees (moderated_agrees hpermitted))
  | updateAdvertisement actor id patch =>
      obtain rfl := Option.some.inj hoperation
      have hchanges : patch.isEmpty = false := by simpa [IdlePatch] using hpatch
      exact Outcome.Agrees.replying
        (updateAdvertisement_agrees hchanges horderly hgiven hclear hpermitted)
  | deleteAdvertisement actor id =>
      obtain rfl := Option.some.inj hoperation
      exact Outcome.Agrees.settling
        (calling_agrees (managed_agrees horderly hgiven hclear hpermitted))
  | addModerator actor id userId =>
      obtain rfl := Option.some.inj hoperation
      exact Outcome.Agrees.settling
        (addModerator_agrees userId horderly hgiven hclear hpermitted)
  | addComment actor id content =>
      obtain rfl := Option.some.inj hoperation
      exact Outcome.Agrees.replying
        (calling_agrees (seen_agrees horderly hgiven hclear hpermitted))
  | deleteComment actor commentId =>
      obtain rfl := Option.some.inj hoperation
      exact Outcome.Agrees.settling (deleteComment_agrees horderly hclear hpermitted)
  | likeAdvertisement actor id =>
      obtain rfl := Option.some.inj hoperation
      exact Outcome.Agrees.replying
        (calling_agrees (seen_agrees horderly hgiven hclear hpermitted))
  | saveAdvertisement actor id =>
      obtain rfl := Option.some.inj hoperation
      exact Outcome.Agrees.replying
        (calling_agrees (seen_agrees horderly hgiven hclear hpermitted))
  | _ => contradiction

end Noticeboard.Service

namespace Noticeboard.Board

variable {τ : Type} {board : Board τ} {turns : List Turn} {last : Turn}
  {command : Service.Command}

theorem run_idsGiven (hids : ∀ turn ∈ turns, (Text.trim turn.ids.advertisement).isEmpty = false) :
    Service.IdsGiven (board.run .empty turns) := by
  refine run_keeps (fun id hnone => ?_) fun turn hturn db after h hchanged id hafter => ?_
  · simp [Store.Database.hasAdvertisement, Store.Database.empty] at hnone
  · rcases hchanged.hasAdvertisement hafter with hbefore | rfl
    · exact h id hbefore
    · exact hids turn hturn

theorem perform_refused (board : Board τ) (turn : Turn) {db : Store.Database τ}
    (hcall : turn.call = .service command)
    (hstopped : ¬ command.Permitted db ∨ command.Obstructed db) :
    (board.perform turn db).Refused db := by
  unfold perform Call.perform
  rw [hcall]
  exact command.perform_refused board.settings hstopped

/-- After any run from empty tables, a call of the service without the right fails and changes
nothing, and so does one that cannot read the advertisement by which it would find the right, since
the score there has left the 64-bit integers.  Any other call, unless its patch changes nothing,
answers and does exactly what the operation of the store below it answers and does.  The clock has
to show times that the database can keep, and new ids must not be blank. -/
theorem access_control (hclock : ∀ turn ∈ turns, board.backend.Timely turn.now)
    (hids : ∀ turn ∈ turns, (Text.trim turn.ids.advertisement).isEmpty = false) :
    (¬ command.Permitted (board.run .empty turns) ∨ command.Obstructed (board.run .empty turns) →
      (board.perform { last with call := .service command } (board.run .empty turns)).Refused
        (board.run .empty turns)) ∧
    (command.Permitted (board.run .empty turns) → ¬ command.Obstructed (board.run .empty turns) →
      ¬ command.IdlePatch → ∀ operation, command.operation? = some operation →
        (board.perform { last with call := .service command } (board.run .empty turns)).Agrees
          (board.perform { last with call := .store operation } (board.run .empty turns))) := by
  constructor
  · exact fun hstopped => board.perform_refused _ rfl hstopped
  · intro hpermitted hclear hpatch operation hoperation
    have horderly : (board.run .empty turns).Orderly (board.session last).backend :=
      run_orderly hclock
    exact command.perform_agrees board.settings horderly (run_idsGiven hids) hpermitted hpatch
      hclear hoperation

/-- An embedded database and likes that bring the most points that there can be. -/
def offScaleBoard : Board String :=
  ⟨.embedded, ⟨1, 0x7FFFFFFFFFFFFFFF, 1⟩, .standard⟩

/-- Two likes, of which the second takes the score off the scale. -/
def offScaleHistory : List Turn :=
  [sampleTurn "1" (.service (.createAdvertisement (.user "ann")
      ⟨⟨"Road bike", none, 25000⟩, .new ⟨"Bikes", none⟩⟩)),
    sampleTurn "2" (.store (.likeAdvertisement "bob" "a1")),
    sampleTurn "3" (.store (.likeAdvertisement "eve" "a1"))]

/-- The creator may delete an advertisement whose score is off the scale, and the store would do it,
but the call fails. -/
theorem off_scale_disagrees :
    (Service.Command.deleteAdvertisement (.user "ann") "a1").Permitted
        (offScaleBoard.run .empty offScaleHistory) ∧
      ¬ (offScaleBoard.perform
          (sampleTurn "4" (.service (.deleteAdvertisement (.user "ann") "a1")))
          (offScaleBoard.run .empty offScaleHistory)).Agrees
        (offScaleBoard.perform (sampleTurn "4" (.store (.deleteAdvertisement "a1")))
          (offScaleBoard.run .empty offScaleHistory)) := by
  constructor
  · exact ⟨_, rfl, by decide⟩
  · have hdone : (offScaleBoard.perform (sampleTurn "4" (.store (.deleteAdvertisement "a1")))
        (offScaleBoard.run .empty offScaleHistory)).answer = .ok .done := rfl
    have hscale : (offScaleBoard.run .empty offScaleHistory).OffScale "a1" := by decide +kernel
    have hobstructed : (Service.Command.deleteAdvertisement (.user "ann") "a1").Obstructed
        (offScaleBoard.run .empty offScaleHistory) := hscale
    obtain ⟨⟨failure, hfailed⟩, -⟩ := offScaleBoard.perform_refused
      (sampleTurn "4" (.service (.deleteAdvertisement (.user "ann") "a1"))) rfl
      (.inr hobstructed)
    rintro ⟨hanswer, -⟩
    rw [hdone, hfailed] at hanswer
    simp at hanswer

def samplePatch : AdvertisementPatch :=
  ⟨none, .keep, some 20000, none⟩

/-- A moderator may change an advertisement, and a member of the staff who is none may not. -/
theorem sample_access_control :
    (sampleBoard.perform
      (sampleTurn "4" (.service (.updateAdvertisement (.staff "eve") "a1" samplePatch)))
      (sampleBoard.run .empty sampleHistory)).Refused (sampleBoard.run .empty sampleHistory) ∧
    (sampleBoard.perform
      (sampleTurn "4" (.service (.updateAdvertisement (.user "bob") "a1" samplePatch)))
      (sampleBoard.run .empty sampleHistory)).Agrees
        (sampleBoard.perform (sampleTurn "4" (.store (.updateAdvertisement "a1" samplePatch)))
          (sampleBoard.run .empty sampleHistory)) := by
  have hids : ∀ turn ∈ sampleHistory, (Text.trim turn.ids.advertisement).isEmpty = false := by
    decide
  have hrights (command : Service.Command) :=
    @access_control _ sampleBoard sampleHistory (sampleTurn "4" (.service command)) command
      (fun _ _ => .server _) hids
  constructor
  · apply (hrights _).1
    refine .inl ?_
    rintro ⟨row, hrow, hmanages⟩
    obtain rfl := Option.some.inj hrow
    revert hmanages
    decide
  · apply (hrights (.updateAdvertisement (.user "bob") "a1" samplePatch)).2
    · exact ⟨_, rfl, by decide⟩
    · exact sampleHistory_scoresWhole.not_offScale "a1"
    · show ¬ samplePatch.isEmpty = true
      decide
    · rfl

end Noticeboard.Board
