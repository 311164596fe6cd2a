import Noticeboard.Proofs.ExactPoints
import Noticeboard.Proofs.HiddenAdvertisements

/-!
# Hidden or missing

An advertisement that is hidden from a viewer is refused like one that is not there: every call about
it fails as not found, before it does anything, and with the same kind of failure whether the
advertisement is hidden or was deleted.  The texts are not the same, however, so that the viewer can
tell the two apart by them.
-/

namespace Noticeboard

open Store

variable {τ α : Type}

namespace Service

variable {session : Session τ} {db : Database τ} {viewer : Option Actor} {id : String}
  {failure reason : Failure}

/-- The calls about the advertisement of an id, with whoever makes them. -/
inductive Command.About : Option Actor → String → Command → Prop where
  | get (viewer : Option Actor) (id : String) : About viewer id (.getAdvertisement viewer id)
  | update (actor : Actor) (id : String) (patch : AdvertisementPatch) :
      About (some actor) id (.updateAdvertisement actor id patch)
  | delete (actor : Actor) (id : String) : About (some actor) id (.deleteAdvertisement actor id)
  | addModerator (actor : Actor) (id userId : String) :
      About (some actor) id (.addModerator actor id userId)
  | addComment (actor : Actor) (id content : String) :
      About (some actor) id (.addComment actor id content)
  | like (actor : Actor) (id : String) : About (some actor) id (.likeAdvertisement actor id)
  | save (actor : Actor) (id : String) : About (some actor) id (.saveAdvertisement actor id)

/-- An id that names nothing is refused without a look at the tables. -/
def blankId? (id : String) : Option Failure :=
  if (Text.trim id).isEmpty then some .missingAdvertisementId else none

/-- What a call about an advertisement is refused for before the advertisement is looked for. -/
def Command.objection? (id : String) : Command → Option Failure
  | .updateAdvertisement _ _ patch => if patch.isEmpty then some .emptyPatch else blankId? id
  | _ => blankId? id

/-- A call about an advertisement fails with its objection, if it has one, and otherwise for this
reason. -/
def Command.refusal (id : String) (reason : Failure) (command : Command) : Failure :=
  (command.objection? id).getD reason

theorem Command.refusal_of_objection?_none {command : Command}
    (hobjection : command.objection? id = none) (reason : Failure) :
    command.refusal id reason = reason := by
  rw [refusal, hobjection, Option.getD_none]

/-! ## Calls that stop at the advertisement -/

theorem visible_unread (hread : (Store.getAdvertisement id session db).answer = .error failure) :
    (visibleAdvertisement viewer id session db).answer =
      .error ((blankId? id).getD failure) := by
  rw [Outcome.answer_eq_error_iff_meets, blankId?]
  by_cases hblank : (Text.trim id).isEmpty = true
  · simp [visibleAdvertisement, hblank]
  · simp [visibleAdvertisement, (Store.getAdvertisement_reads _).meets_iff, hblank, hread]

theorem visible_veiled (hhidden : ReadsHidden session viewer id db) :
    (visibleAdvertisement viewer id session db).answer =
      .error ((blankId? id).getD (.hiddenAdvertisement id)) := by
  unfold blankId?
  cases hblank : (Text.trim id).isEmpty with
  | true => exact visible_blank hblank
  | false => exact visible_hidden hblank hhidden

theorem visible_bind_fails {next : Advertisement → Action τ α}
    (h : (visibleAdvertisement viewer id session db).answer = .error failure) :
    ((visibleAdvertisement viewer id >>= next) session db).Fails failure db := by
  rw [Outcome.fails_iff_meets, Action.meets_bind, (visibleAdvertisement_reads _ _).meets_iff, h]
  simp

theorem calling_fails {operation : Operation} {details : List (String × Json)}
    {work : Action τ α} (h : (work session db).Fails failure db) :
    (calling operation details work session db).Fails failure db := by
  rw [Outcome.fails_iff_meets] at h ⊢
  exact meets_calling.mpr h

/-- A viewer who cannot see an advertisement is told so by every call about it. -/
theorem Command.About.fails (settings : EngineSettings) {command : Command}
    (h : command.About viewer id)
    (hunseen : (visibleAdvertisement viewer id session db).answer =
      .error ((blankId? id).getD reason)) :
    (command.perform settings session db).Fails (command.refusal id reason) db := by
  unfold refusal
  cases h with
  | get =>
      apply Outcome.Fails.replying
      rw [Outcome.fails_iff_meets]
      unfold Service.getAdvertisement
      rw [meets_finishing, (visibleAdvertisement_reads _ _).meets_iff, hunseen]
      simp [objection?]
  | update actor id patch =>
      apply Outcome.Fails.replying
      apply calling_fails
      cases hpatch : patch.isEmpty with
      | true =>
          rw [Outcome.fails_iff_meets]
          simp [objection?, hpatch]
      | false =>
          simp only [objection?, hpatch, Bool.false_eq_true, if_false]
          exact visible_bind_fails hunseen
  | delete => exact Outcome.Fails.settling (calling_fails (visible_bind_fails hunseen))
  | addModerator => exact Outcome.Fails.settling (calling_fails (visible_bind_fails hunseen))
  | addComment => exact Outcome.Fails.replying (calling_fails (visible_bind_fails hunseen))
  | like => exact Outcome.Fails.replying (calling_fails (visible_bind_fails hunseen))
  | save => exact Outcome.Fails.replying (calling_fails (visible_bind_fails hunseen))

/-! ## Hidden, and missing -/

theorem not_inSight {row : AdvertisementRow τ} (hinactive : row.isActive = false)
    (hforeign : ∀ actor, viewer = some actor → ¬ Manages db actor row) :
    ¬ InSight db viewer row := by
  rintro (hactive | ⟨actor, hviewer, hmanages⟩)
  · rw [hinactive] at hactive
    contradiction
  · exact hforeign actor hviewer hmanages

/-- Why a hidden advertisement is not shown; one whose score cannot be read gives that away. -/
def hiddenReason (db : Database τ) (id : String) : Failure :=
  if db.OffScale id then .database .unreadableScore else .hiddenAdvertisement id

theorem hidden_unseen {row : AdvertisementRow τ} (horderly : db.Orderly session.backend)
    (hrow : db.advertisement? id = some row) (hsight : ¬ InSight db viewer row) :
    (visibleAdvertisement viewer id session db).answer =
      .error ((blankId? id).getD (hiddenReason db id)) := by
  unfold hiddenReason
  by_cases hscale : db.OffScale id
  · rw [if_pos hscale]
    exact visible_unread (getAdvertisement_offScale horderly.consistent hscale)
  · obtain ⟨shown, hread⟩ := getAdvertisement_ok horderly hrow hscale
    obtain ⟨found, hfound, hshown⟩ := getAdvertisement_eq_ok hread
    obtain rfl : row = found := Option.some.inj (hrow.symm.trans hfound)
    rw [if_neg hscale]
    exact visible_veiled ⟨row, shown, hread, hshown, hsight⟩

theorem missing_unseen (hmissing : db.advertisement? id = none) :
    (visibleAdvertisement viewer id session db).answer =
      .error ((blankId? id).getD (.noAdvertisement id)) := by
  apply visible_unread
  simp [Store.getAdvertisement, Action.query, hmissing]

/-! ## What the viewer is told -/

theorem hiddenAdvertisement_message_ne (id : String) :
    (Failure.hiddenAdvertisement id).message ≠ (Failure.noAdvertisement id).message := by
  intro hsame
  have hlength : ("Not found: " ++
      ("Advertisement with ID " ++ id ++ " does not exist or is inactive.")).length =
        ("Not found: " ++ ("Advertisement with ID " ++ id ++ " does not exist.")).length :=
    congrArg String.length hsame
  simp only [String.length_append] at hlength
  have hlong : " does not exist or is inactive.".length = 31 := rfl
  have hshort : " does not exist.".length = 16 := rfl
  omega

theorem unreadableScore_message_ne (id : String) :
    (Failure.database .unreadableScore).message ≠ (Failure.noAdvertisement id).message := by
  have hunreadable : (Failure.database .unreadableScore).message.toList.head? = some 'P' := by
    show ("Persistence failure: " ++ _).toList.head? = _
    rw [String.toList_append]
    rfl
  have hmissing : (Failure.noAdvertisement id).message.toList.head? = some 'N' := by
    show ("Not found: " ++ _).toList.head? = _
    rw [String.toList_append]
    rfl
  intro hsame
  rw [hsame, hmissing] at hunreadable
  contradiction

theorem hiddenReason_message_ne (db : Database τ) (id : String) :
    (hiddenReason db id).message ≠ (Failure.noAdvertisement id).message := by
  unfold hiddenReason
  split
  · exact unreadableScore_message_ne id
  · exact hiddenAdvertisement_message_ne id

theorem Command.refusal_message_eq_iff (db : Database τ) (id : String) (command : Command) :
    (command.refusal id (hiddenReason db id)).message =
        (command.refusal id (.noAdvertisement id)).message ↔
      (command.objection? id).isSome = true := by
  unfold refusal
  cases command.objection? id with
  | some objection => simp
  | none => simpa using hiddenReason_message_ne db id

theorem Command.refusal_kind (hscale : ¬ db.OffScale id) (command : Command) :
    (command.refusal id (hiddenReason db id)).kind =
        (command.refusal id (.noAdvertisement id)).kind ∧
      (command.refusal id (hiddenReason db id)).field =
        (command.refusal id (.noAdvertisement id)).field := by
  unfold refusal hiddenReason
  rw [if_neg hscale]
  cases command.objection? id with
  | some objection => exact ⟨rfl, rfl⟩
  | none => exact ⟨rfl, rfl⟩

end Service

namespace Board

variable {board : Board τ} {turns : List Turn} {deletion last : Turn} {command : Service.Command}
  {viewer : Option Actor} {id : String}

theorem deleted_missing {db : Database τ} {reply : Reply}
    (hdeletion : deletion.call = .store (.deleteAdvertisement id))
    (hdeleted : (board.perform deletion db).answer = .ok reply) :
    (board.perform deletion db).database.advertisement? id = none := by
  have hmeets : (board.perform deletion db).Meets
      (fun _ after => after.advertisement? id = none) fun _ _ => True := by
    rw [perform_store hdeletion]
    show (Action.settling (deleteAdvertisement id) (board.session deletion) db).Meets _ _
    unfold Action.settling deleteAdvertisement
    simp only [Action.meets_replying, Action.meets_bind, Action.meets_execute,
      Action.meets_expectRow, Statement.deleteAdvertisement_eq_ok_iff, implies_true, and_true]
    rintro found after (⟨-, -, -, rfl⟩ | ⟨-, rfl, rfl⟩)
    · exact fun _ => advertisement?_dropAdvertisements_self db id
    · exact fun hfound => absurd hfound Bool.false_ne_true
  exact hmeets.of_ok hdeleted

theorem hidden_fails (board : Board τ) {db : Database τ} {row : AdvertisementRow τ}
    (horderly : db.Orderly board.backend)
    (hrow : db.advertisement? id = some row) (hsight : ¬ Service.InSight db viewer row)
    (hcall : last.call = .service command) (habout : command.About viewer id) :
    (board.perform last db).Fails (command.refusal id (Service.hiddenReason db id)) db := by
  rw [perform_service hcall]
  have horderly : db.Orderly (board.session last).backend := horderly
  exact habout.fails board.settings (Service.hidden_unseen horderly hrow hsight)

theorem missing_fails (board : Board τ) {db : Database τ} (hmissing : db.advertisement? id = none)
    (hcall : last.call = .service command) (habout : command.About viewer id) :
    (board.perform last db).Fails (command.refusal id (.noAdvertisement id)) db := by
  rw [perform_service hcall]
  exact habout.fails board.settings (Service.missing_unseen hmissing)

/-- A viewer who cannot manage an inactive advertisement is refused by every call about it, and so is
everybody once it is deleted; nothing changes either way.  Unless the call has another fault, or the
advertisement's score cannot be read, both are the same kind of failure about the same field.  But
the texts are different unless the call has another fault. -/
theorem hidden_or_missing {row : AdvertisementRow τ} {reply : Reply}
    (hclock : ∀ turn ∈ turns, board.backend.Timely turn.now)
    (hrow : (board.run .empty turns).advertisement? id = some row)
    (hinactive : row.isActive = false)
    (hforeign : ∀ actor, viewer = some actor →
      ¬ Service.Manages (board.run .empty turns) actor row)
    (hdeletion : deletion.call = .store (.deleteAdvertisement id))
    (hdeleted : (board.perform deletion (board.run .empty turns)).answer = .ok reply)
    (hcall : last.call = .service command) (habout : command.About viewer id) :
    (board.perform last (board.run .empty turns)).Fails
        (command.refusal id (Service.hiddenReason (board.run .empty turns) id))
        (board.run .empty turns) ∧
      (board.perform last (board.run .empty (turns ++ [deletion]))).Fails
        (command.refusal id (.noAdvertisement id)) (board.run .empty (turns ++ [deletion])) ∧
      (¬ (board.run .empty turns).OffScale id →
        (command.refusal id (Service.hiddenReason (board.run .empty turns) id)).kind =
            (command.refusal id (.noAdvertisement id)).kind ∧
          (command.refusal id (Service.hiddenReason (board.run .empty turns) id)).field =
            (command.refusal id (.noAdvertisement id)).field) ∧
      ((command.refusal id (Service.hiddenReason (board.run .empty turns) id)).message =
          (command.refusal id (.noAdvertisement id)).message ↔
        (command.objection? id).isSome = true) := by
  refine ⟨?_, ?_, fun hscale => Service.Command.refusal_kind hscale command,
    Service.Command.refusal_message_eq_iff _ id command⟩
  · have horderly : (board.run .empty turns).Orderly board.backend := run_orderly hclock
    have hsight : ¬ Service.InSight (board.run .empty turns) viewer row :=
      Service.not_inSight hinactive hforeign
    exact hidden_fails board horderly hrow hsight hcall habout
  · rw [run_concat]
    exact missing_fails board (deleted_missing hdeletion hdeleted) hcall habout

def roadBikeDeletion : Turn :=
  sampleTurn "4" (.store (.deleteAdvertisement "a1"))

def strangersTurn (command : Service.Command) : Turn :=
  sampleTurn "5" (.service command)

theorem roadBike_row : (sampleBoard.run .empty sampleHistory).advertisement? "a1" =
    some ⟨"a1", "Road bike", none, "ann", 25000, "c1", .whole 3, false, sampleNow, sampleNow⟩ :=
  rfl

theorem roadBike_foreign (actor : Actor) (heve : some (Actor.user "eve") = some actor) :
    ¬ Service.Manages (sampleBoard.run .empty sampleHistory) actor
      ⟨"a1", "Road bike", none, "ann", 25000, "c1", .whole 3, false, sampleNow, sampleNow⟩ := by
  cases heve
  decide

theorem roadBike_hiddenReason :
    Service.hiddenReason (sampleBoard.run .empty sampleHistory) "a1" =
      .hiddenAdvertisement "a1" :=
  if_neg (sampleHistory_scoresWhole.not_offScale "a1")

theorem roadBike_deleted : (sampleBoard.perform roadBikeDeletion
    (sampleBoard.run .empty sampleHistory)).answer = .ok .done :=
  rfl

/-- A stranger who likes an advertisement that waits for its approval, or once it is deleted. -/
theorem strangers_like_is_refused :
    (sampleBoard.perform (strangersTurn (.likeAdvertisement (.user "eve") "a1"))
        (sampleBoard.run .empty sampleHistory)).Fails (.hiddenAdvertisement "a1")
      (sampleBoard.run .empty sampleHistory) ∧
    (sampleBoard.perform (strangersTurn (.likeAdvertisement (.user "eve") "a1"))
        (sampleBoard.run .empty (sampleHistory ++ [roadBikeDeletion]))).Fails
      (.noAdvertisement "a1") (sampleBoard.run .empty (sampleHistory ++ [roadBikeDeletion])) := by
  have hcall (command : Service.Command) : (strangersTurn command).call = .service command := rfl
  have hobjection :
      (Service.Command.likeAdvertisement (.user "eve") "a1").objection? "a1" = none := by
    decide
  obtain ⟨hhidden, hmissing, -⟩ := hidden_or_missing (fun turn _ => .server turn.now) roadBike_row
    rfl roadBike_foreign rfl roadBike_deleted (hcall _) (.like (.user "eve") "a1")
  rw [roadBike_hiddenReason, Service.Command.refusal_of_objection?_none hobjection] at hhidden
  rw [Service.Command.refusal_of_objection?_none hobjection] at hmissing
  exact ⟨hhidden, hmissing⟩

/-- A stranger asks for an advertisement that waits for its approval, and again after it was deleted,
and is told something else. -/
theorem stranger_can_tell :
    let request := strangersTurn (.getAdvertisement (some (.user "eve")) "a1")
    (sampleBoard.perform request (sampleBoard.run .empty sampleHistory)).answer =
        .error (.hiddenAdvertisement "a1") ∧
      (sampleBoard.perform request
        (sampleBoard.run .empty (sampleHistory ++ [roadBikeDeletion]))).answer =
          .error (.noAdvertisement "a1") ∧
      (Failure.hiddenAdvertisement "a1").message =
        "Not found: Advertisement with ID a1 does not exist or is inactive." ∧
      (Failure.noAdvertisement "a1").message =
        "Not found: Advertisement with ID a1 does not exist." := by
  intro request
  have hcall : request.call = .service (.getAdvertisement (some (.user "eve")) "a1") := rfl
  have habout := Service.Command.About.get (some (.user "eve")) "a1"
  have hobjection : (Service.Command.getAdvertisement (some (.user "eve")) "a1").objection? "a1" =
      none := by
    decide
  refine ⟨?_, ?_, rfl, rfl⟩
  · have hfails := hidden_fails sampleBoard (run_orderly fun turn _ => .server turn.now)
      roadBike_row (Service.not_inSight rfl roadBike_foreign) hcall habout
    rw [roadBike_hiddenReason, Service.Command.refusal_of_objection?_none hobjection] at hfails
    exact hfails.1
  · have hmissing := deleted_missing rfl roadBike_deleted
    rw [← run_concat] at hmissing
    have hfails := missing_fails sampleBoard hmissing hcall habout
    rw [Service.Command.refusal_of_objection?_none hobjection] at hfails
    exact hfails.1

end Board
end Noticeboard
