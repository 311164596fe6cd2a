import Noticeboard.Proofs.CallsAsOperations
import Noticeboard.Proofs.Deletions

/-!
# How rights are come by

The creator of an advertisement stays the same for as long as it is there, and the only way to
become one of its moderators is to be named, by the creator or by a superuser.  So no calls of
others, however many and in whatever order, give anybody a right to manage it.

Of the operations only one adds moderators, and the call that comes down to it is refused to others.
-/

namespace Noticeboard

open Store (Session Database Action Outcome AdvertisementRow ModeratorRow Revision Changed
  Engagement)

variable {τ : Type} {session : Session τ} {db after : Database τ}

/-! ## Creators -/

namespace Store

/-- Whatever advertisement has the id, it is by this creator. -/
def Database.CreatedBy (id creatorId : String) (db : Database τ) : Prop :=
  ∀ row ∈ db.advertisements, row.id = id → row.creatorId = creatorId

/-- A row that was there before, with the same creator. -/
def AdvertisementRow.StemsFrom (row : AdvertisementRow τ) (db : Database τ) : Prop :=
  ∃ old ∈ db.advertisements, old.id = row.id ∧ old.creatorId = row.creatorId

theorem Database.CreatedBy.of_stems {id creatorId : String} (h : db.CreatedBy id creatorId)
    (hrows : ∀ row ∈ after.advertisements, row.id = id → row.StemsFrom db) :
    after.CreatedBy id creatorId := by
  intro row hrow hid
  obtain ⟨old, hold, hsame, hcreator⟩ := hrows row hrow hid
  rw [← hcreator]
  exact h old hold (hsame.trans hid)

variable {row : AdvertisementRow τ}

theorem stemsFrom_of_mem (hrow : row ∈ db.advertisements) : row.StemsFrom db :=
  ⟨row, hrow, rfl, rfl⟩

theorem stemsFrom_changeAdvertisement {id : String}
    {change : AdvertisementRow τ → AdvertisementRow τ}
    (hrow : row ∈ (Statement.changeAdvertisement db id change).advertisements)
    (hid : ∀ row, (change row).id = row.id)
    (hcreator : ∀ row, (change row).creatorId = row.creatorId) : row.StemsFrom db := by
  obtain ⟨old, hold, rfl⟩ := List.mem_map.mp hrow
  refine ⟨old, hold, ?_⟩
  split
  · exact ⟨(hid old).symm, (hcreator old).symm⟩
  · exact ⟨rfl, rfl⟩

theorem Revision.stemsFrom (h : Revision session db after) (hrow : row ∈ after.advertisements)
    (hold : row.id ≠ session.ids.advertisement) : row.StemsFrom db := by
  cases h with
  | addCategory => exact stemsFrom_of_mem hrow
  | changeCategory => exact stemsFrom_of_mem hrow
  | dropCategory => exact stemsFrom_of_mem (List.mem_filter.mp hrow).1
  | addAdvertisement hid =>
      rcases List.mem_append.mp hrow with hmem | hnew
      · exact stemsFrom_of_mem hmem
      · obtain rfl := List.mem_singleton.mp hnew
        exact absurd hid hold
  | changeAdvertisement =>
      exact stemsFrom_changeAdvertisement hrow (fun _ => rfl) fun _ => rfl
  | setActive => exact stemsFrom_changeAdvertisement hrow (fun _ => rfl) fun _ => rfl
  | dropAdvertisement => exact stemsFrom_of_mem (List.mem_filter.mp hrow).1
  | addModerator => exact stemsFrom_of_mem hrow

theorem Engagement.stemsFrom (h : Engagement session db after)
    (hrow : row ∈ after.advertisements) : row.StemsFrom db := by
  cases h with
  | addComment => exact stemsFrom_changeAdvertisement hrow (fun _ => rfl) fun _ => rfl
  | removeComment => exact stemsFrom_changeAdvertisement hrow (fun _ => rfl) fun _ => rfl
  | @react kind =>
      have hstems := stemsFrom_changeAdvertisement hrow (fun _ => rfl) fun _ => rfl
      cases kind with
      | like => exact hstems
      | save => exact hstems

/-- An operation that does not use its id for a new row leaves the creator to an advertisement. -/
theorem Changed.createdBy {id creatorId : String} (h : Changed session db after)
    (hold : id ≠ session.ids.advertisement) (hdb : db.CreatedBy id creatorId) :
    after.CreatedBy id creatorId := by
  apply h.keeps _ _ hdb
  · intro mid next hmid hrevision
    exact hmid.of_stems fun row hrow hid => hrevision.stemsFrom hrow (hid ▸ hold)
  · intro _ hengagement
    exact hdb.of_stems fun row hrow _ => hengagement.stemsFrom hrow

/-! ## Moderators -/

/-- A deletion makes nobody a moderator. -/
theorem Command.Deletes.moderators_subset {command : Command} (hdeletes : command.Deletes) :
    (command.perform session db).database.moderators ⊆ db.moderators := by
  have hmeets : (command.perform session db).Meets
      (fun _ after => after.moderators ⊆ db.moderators)
      (fun _ after => after.moderators ⊆ db.moderators) := by
    have hrefused : ∀ (f : Failure) (after : Database τ), after = db →
        after.moderators ⊆ db.moderators := by
      rintro _ _ rfl
      exact List.Subset.refl _
    cases command with
    | deleteCategory id =>
        apply Action.meets_replying.mpr
        refine (deleteCategory_meets id).mono ?_ hrefused
        rintro _ _ ⟨-, rfl⟩
        exact List.filter_sublist.subset
    | deleteAdvertisement id =>
        apply Action.meets_replying.mpr
        refine (deleteAdvertisement_meets id).mono ?_ hrefused
        rintro _ _ ⟨-, rfl⟩
        exact List.filter_sublist.subset
    | deleteComment id =>
        apply Action.meets_replying.mpr
        refine (deleteComment_meets id).mono ?_ hrefused
        rintro _ _ ⟨_, -, hloses⟩
        rw [hloses.moderators]
        exact List.Subset.refl _
    | _ => exact hdeletes.elim
  exact hmeets.database

/-- Of the operations only the one that names a moderator adds one. -/
theorem Command.perform_appointed (command : Command) {row : ModeratorRow}
    (hrow : row ∈ (command.perform session db).database.moderators) :
    row ∈ db.moderators ∨ command.Names row := by
  by_cases hdeletes : command.Deletes
  · exact .inl (hdeletes.moderators_subset hrow)
  · exact (Command.perform_grows hdeletes session db).database.appointed row hrow

end Store

namespace Service

theorem Command.eq_addModerator {command : Command} {row : ModeratorRow}
    {operation : Store.Command} (hoperation : command.operation? = some operation)
    (hnames : operation.Names row) :
    ∃ actor, command = .addModerator actor row.advertisementId row.userId := by
  obtain rfl : operation = .addModerator row.advertisementId row.userId := hnames
  cases command with
  | addModerator actor id userId =>
      obtain ⟨rfl, rfl⟩ := Store.Command.addModerator.inj (Option.some.inj hoperation)
      exact ⟨actor, rfl⟩
  | createAdvertisement actor request =>
      obtain ⟨draft, choice⟩ := request
      cases choice with
      | existing => cases hoperation
      | new => cases hoperation
  | _ => cases hoperation

/-- Whoever is a moderator only after a call was named in it by somebody with the right to. -/
theorem Command.perform_appoints (settings : EngineSettings) (command : Command)
    {row : ModeratorRow} (hnew : row ∉ db.moderators)
    (hrow : row ∈ (command.perform settings session db).database.moderators) :
    ∃ actor, command = .addModerator actor row.advertisementId row.userId ∧
      ∃ advertisement, db.advertisement? row.advertisementId = some advertisement ∧
        Owns actor advertisement := by
  rcases command.perform_database settings with hsame | ⟨operation, hoperation, hsame⟩
  · rw [hsame] at hrow
    exact absurd hrow hnew
  · rw [hsame] at hrow
    have hnames : operation.Names row := (operation.perform_appointed hrow).resolve_left hnew
    obtain ⟨actor, rfl⟩ := eq_addModerator hoperation hnames
    refine ⟨actor, rfl, ?_⟩
    by_contra hforbidden
    -- a call without the right changes nothing, so it cannot have added the row
    have hrefused : ((Command.addModerator actor row.advertisementId row.userId).perform settings
        session db).Refused db := perform_refused settings (.inl hforbidden)
    rw [← hsame, hrefused.2] at hrow
    exact hnew hrow

/-- The actor that a call is made for. -/
def Command.actor? : Command → Option Actor
  | .searchCategories _ | .searchAdvertisements _ | .listCategories _ | .listAdvertisements _
  | .getCategory _ _ => none
  | .getAdvertisement actor _ => actor
  | .createCategory actor _ | .updateCategory actor _ _ | .deleteCategory actor _
  | .createAdvertisement actor _ | .updateAdvertisement actor _ _ | .deleteAdvertisement actor _
  | .approveAdvertisement actor _ _ | .addModerator actor _ _ | .addComment actor _ _
  | .deleteComment actor _ | .likeAdvertisement actor _ | .saveAdvertisement actor _ => some actor

end Service

/-! ## Runs -/

/-- A turn that is a call of the service for this actor. -/
def Turn.IsBy (turn : Turn) (actor : Actor) : Prop :=
  ∃ command, turn.call = .service command ∧ command.actor? = some actor

namespace Board

open Service (Owns Manages)

variable {board : Board τ} {start : Database τ} {turns : List Turn} {row : AdvertisementRow τ}

/-- As long as an advertisement is there, its creator is who it was. -/
theorem run_createdBy (hstart : start.Consistent) (hrow : row ∈ start.advertisements)
    (hfresh : ∀ turn ∈ turns, turn.ids.advertisement ≠ row.id) :
    (board.run start turns).CreatedBy row.id row.creatorId := by
  apply run_keeps
  · intro same hsame hid
    rw [List.inj_on_of_nodup_map hstart.advertisementIds hsame hrow hid]
  · intro turn hturn db after hdb hchanged
    exact hchanged.createdBy (hfresh turn hturn).symm hdb

theorem run_appoints (hstart : start.Consistent) (hrow : row ∈ start.advertisements)
    (hfresh : ∀ turn ∈ turns, turn.ids.advertisement ≠ row.id)
    (hservice : ∀ turn ∈ turns, ∃ command, turn.call = .service command) {userId : String}
    (hbefore : ⟨row.id, userId⟩ ∉ start.moderators)
    (hafter : ⟨row.id, userId⟩ ∈ (board.run start turns).moderators) :
    ∃ turn ∈ turns, ∃ actor, turn.call = .service (.addModerator actor row.id userId) ∧
      Owns actor row := by
  -- by the last turn: either it named the moderator, or an earlier one did
  induction turns using List.reverseRecOn with
  | nil => exact absurd hafter hbefore
  | append_singleton turns last ih =>
      have hfreshEarlier : ∀ turn ∈ turns, turn.ids.advertisement ≠ row.id :=
        fun turn hturn => hfresh turn (List.mem_append_left _ hturn)
      by_cases hnow : ⟨row.id, userId⟩ ∈ (board.run start turns).moderators
      · obtain ⟨turn, hturn, hnamed⟩ := ih hfreshEarlier
          (fun turn hturn => hservice turn (List.mem_append_left _ hturn)) hnow
        exact ⟨turn, List.mem_append_left _ hturn, hnamed⟩
      · obtain ⟨command, hcall⟩ := hservice last (by simp)
        rw [run_concat] at hafter
        simp only [perform, Call.perform, hcall] at hafter
        obtain ⟨actor, rfl, advertisement, hfound, howns⟩ :=
          command.perform_appoints board.settings hnow hafter
        have hid : advertisement.id = row.id := Store.key_eq_of_find? hfound
        have hcreator : advertisement.creatorId = row.creatorId :=
          run_createdBy hstart hrow hfreshEarlier _ (List.mem_of_find?_eq_some hfound) hid
        refine ⟨last, by simp, actor, hcall, ?_⟩
        rwa [Owns, hcreator] at howns

/-- In a run of calls of the service after any other run, an advertisement keeps its creator for as
long as it is there, and a new moderator of it was named to it by its creator or a superuser.  So if
neither acts, nobody comes to manage it who could not before.  The run must not give the id of the
advertisement to another. -/
theorem rights_come_from_the_creator {history : List Turn}
    (hrow : row ∈ (board.run .empty history).advertisements)
    (hfresh : ∀ turn ∈ turns, turn.ids.advertisement ≠ row.id)
    (hservice : ∀ turn ∈ turns, ∃ command, turn.call = .service command) :
    ((board.run (board.run .empty history) turns).CreatedBy row.id row.creatorId) ∧
    (∀ userId, ⟨row.id, userId⟩ ∉ (board.run .empty history).moderators →
      ⟨row.id, userId⟩ ∈ (board.run (board.run .empty history) turns).moderators →
      ∃ turn ∈ turns, ∃ actor, turn.call = .service (.addModerator actor row.id userId) ∧
        Owns actor row) ∧
    ((∀ turn ∈ turns, ∀ actor, turn.IsBy actor → ¬ Owns actor row) →
      ∀ later ∈ (board.run (board.run .empty history) turns).advertisements, later.id = row.id →
        ∀ actor, ¬ Manages (board.run .empty history) actor row →
          ¬ Manages (board.run (board.run .empty history) turns) actor later) := by
  have hconsistent : (board.run .empty history).Consistent := run_consistent .empty history
  have hcreated : (board.run (board.run .empty history) turns).CreatedBy row.id row.creatorId :=
    run_createdBy hconsistent hrow hfresh
  have happoints {userId : String}
      (hbefore : ⟨row.id, userId⟩ ∉ (board.run .empty history).moderators)
      (hafter : ⟨row.id, userId⟩ ∈ (board.run (board.run .empty history) turns).moderators) :=
    run_appoints hconsistent hrow hfresh hservice hbefore hafter
  refine ⟨hcreated, fun userId => happoints, fun hquiet later hlater hid actor hstranger => ?_⟩
  rintro (howns | hmoderates)
  · have hcreator : later.creatorId = row.creatorId := hcreated later hlater hid
    rw [Owns, hcreator] at howns
    exact hstranger (.inl howns)
  · rw [hid] at hmoderates
    by_cases hbefore : ⟨row.id, actor.userId⟩ ∈ (board.run .empty history).moderators
    · exact hstranger (.inr hbefore)
    · obtain ⟨turn, hturn, giver, hcall, howns⟩ := happoints hbefore hmoderates
      exact hquiet turn hturn giver ⟨_, hcall, rfl⟩ howns

/-- A member of the staff approves, and a moderator tries to name another. -/
def strangersTurns : List Turn :=
  [sampleTurn "4" (.service (.approveAdvertisement (.staff "eve") "a1" true)),
    sampleTurn "5" (.service (.addModerator (.user "bob") "a1" "eve"))]

/-- The creator names a moderator. -/
def creatorsTurns : List Turn :=
  [sampleTurn "6" (.service (.addModerator (.user "ann") "a1" "dan"))]

theorem sample_rights_come_from_the_creator :
    (∃ turn ∈ creatorsTurns, ∃ actor, turn.call = .service (.addModerator actor "a1" "dan") ∧
      ∃ row ∈ (sampleBoard.run .empty sampleHistory).advertisements, Owns actor row) ∧
    ∃ later ∈ (sampleBoard.run (sampleBoard.run .empty sampleHistory) strangersTurns).advertisements,
      later.isActive = true ∧
        ¬ Manages (sampleBoard.run (sampleBoard.run .empty sampleHistory) strangersTurns)
          (.staff "eve") later := by
  have hrow := sampleHistory_advertisements ▸ List.mem_singleton.mpr rfl
  constructor
  · obtain ⟨-, happoints, -⟩ := rights_come_from_the_creator hrow
      (by decide : ∀ turn ∈ creatorsTurns, turn.ids.advertisement ≠ "a1")
      (by simp [creatorsTurns, sampleTurn])
    obtain ⟨turn, hturn, actor, hcall, howns⟩ := happoints "dan" (by decide) (by decide)
    exact ⟨turn, hturn, actor, hcall, _, hrow, howns⟩
  · obtain ⟨-, -, hnobody⟩ := rights_come_from_the_creator hrow
      (by decide : ∀ turn ∈ strangersTurns, turn.ids.advertisement ≠ "a1")
      (by simp [strangersTurns, sampleTurn])
    have hquiet : ∀ turn ∈ strangersTurns, ∀ actor, turn.IsBy actor →
        actor = .staff "eve" ∨ actor = .user "bob" := by
      rintro turn hturn actor ⟨command, hcall, hactor⟩
      rcases List.mem_pair.mp hturn with rfl | rfl
      · obtain rfl := Call.service.inj hcall
        exact .inl (Option.some.inj hactor).symm
      · obtain rfl := Call.service.inj hcall
        exact .inr (Option.some.inj hactor).symm
    have hlater : (sampleBoard.run (sampleBoard.run .empty sampleHistory)
        strangersTurns).advertisements =
          [⟨"a1", "Road bike", none, "ann", 25000, "c1", .whole 3, true, sampleNow, sampleNow⟩] :=
      rfl
    have hmem := hlater ▸ List.mem_singleton.mpr rfl
    refine ⟨_, hmem, rfl, hnobody (fun turn hturn actor hby => ?_) _ hmem rfl _ ?_⟩
    · rcases hquiet turn hturn actor hby with rfl | rfl
      · decide
      · decide
    · decide

end Board
end Noticeboard
