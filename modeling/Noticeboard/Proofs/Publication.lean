import Noticeboard.Proofs.PatchedRows
import Noticeboard.Proofs.SingleReads

/-!
# Publishing a row that cannot be read

An advertisement is published or withdrawn by a write of its flag and a read of its row after it.
No transaction holds the two together.  Where the read fails for the sake of a column that the write
does not touch, the call fails and its write stands.
-/

namespace Noticeboard

open Store

variable {τ α : Type}

namespace Store

/-- What a row needs to be read once its flag was set. -/
structure AdvertisementRow.Rereadable (backend : Backend τ) (db : Database τ)
    (row : AdvertisementRow τ) : Prop where
  placed : ∃ category, db.category? row.categoryId = some category
  whole : ∃ n : Int64, row.score = .whole n
  created : ∃ t, backend.readStamp "created_at" row.createdAt = .ok t

def AdvertisementRow.published (active : Bool) (stamp : τ) (row : AdvertisementRow τ) :
    AdvertisementRow τ :=
  { row with isActive := active, updatedAt := stamp }

/-- Success with the flag as asked for, or failure with the row as it was. -/
def Outcome.AllOrNothing (outcome : Outcome τ α) (db : Database τ) (id : String) (active : Bool) :
    Prop :=
  (∃ a, outcome.answer = .ok a) ∧
      (∃ row, outcome.database.advertisement? id = some row ∧ row.isActive = active) ∨
    (∃ failure, outcome.answer = .error failure) ∧
      outcome.database.advertisement? id = db.advertisement? id

/-- What becomes of a call that publishes or withdraws an advertisement.  The row is written in any
case; only rows that can be read again give an answer. -/
structure Outcome.Publishes (outcome : Outcome τ α) (session : Session τ) (db : Database τ)
    (id : String) (active : Bool) : Prop where
  missing : db.advertisement? id = none →
    outcome.answer = .error (.noAdvertisement id) ∧ outcome.database = db
  written : ∀ row, db.advertisement? id = some row → outcome.database =
    Statement.changeAdvertisement db id (AdvertisementRow.published active session.stamp)
  answered : ∀ row, db.advertisement? id = some row →
    ((∃ a, outcome.answer = .ok a) ↔ row.Rereadable session.backend db)
  allOrNothing : outcome.AllOrNothing db id active ↔
    ∀ row, db.advertisement? id = some row →
      row.Rereadable session.backend db ∨ row.published active session.stamp = row

variable {session : Session τ} {db : Database τ} {id : String} {active : Bool}

theorem Outcome.Publishes.of_agrees {outcome other : Outcome τ α}
    (h : other.Publishes session db id active) (hagrees : outcome.Agrees other) :
    outcome.Publishes session db id active := by
  obtain ⟨hanswer, hdatabase⟩ := hagrees
  obtain ⟨hmissing, hwritten, hanswered, hall⟩ := h
  unfold Outcome.AllOrNothing at hall
  constructor
  · rwa [hanswer, hdatabase]
  · rwa [hdatabase]
  · rwa [hanswer]
  · rwa [Outcome.AllOrNothing, hanswer, hdatabase]

/-! ## The write and the read -/

theorem setAdvertisementActive_missing (hnone : db.advertisement? id = none) :
    (setAdvertisementActive id active session db).answer = .error (.noAdvertisement id) ∧
      (setAdvertisementActive id active session db).database = db := by
  have habsent : db.hasAdvertisement id = false := by
    rw [← Bool.not_eq_true]
    intro hpresent
    obtain ⟨row, hrow⟩ := advertisement?_of_hasAdvertisement hpresent
    rw [hnone] at hrow
    contradiction
  have hrun : Statement.setActive id active session.stamp session.triggers db = .ok (false, db) :=
    Statement.setActive_eq_ok_iff.mpr (.inr ⟨habsent, rfl, rfl⟩)
  have hmeets : (setAdvertisementActive id active session db).Meets (fun _ _ => False)
      fun failure after => failure = .noAdvertisement id ∧ after = db := by
    unfold setAdvertisementActive
    rw [Session.stamp] at hrun
    simp [hrun]
  cases hanswer : (setAdvertisementActive id active session db).answer with
  | ok a => exact (hmeets.of_ok hanswer).elim
  | error failure =>
      obtain ⟨rfl, hsame⟩ := hmeets.of_error hanswer
      exact ⟨rfl, hsame⟩

/-- A row that is there is written, whatever comes of reading it. -/
theorem setAdvertisementActive_agrees {row : AdvertisementRow τ}
    (hrow : db.advertisement? id = some row) :
    (setAdvertisementActive id active session db).Agrees (getAdvertisement id session
      (Statement.changeAdvertisement db id (AdvertisementRow.published active session.stamp))) := by
  have hrun : Statement.setActive id active session.stamp session.triggers db = .ok (true,
      Statement.changeAdvertisement db id (AdvertisementRow.published active session.stamp)) :=
    Statement.setActive_eq_ok_iff.mpr (.inl ⟨hasAdvertisement_of_find hrow, rfl, rfl⟩)
  rw [Outcome.agrees_iff_meets]
  unfold setAdvertisementActive
  rw [Session.stamp] at hrun ⊢
  simp only [Action.meets_bind, Action.meets_session, Action.meets_execute, hrun,
    Action.meets_expectRow, (getAdvertisement_reads id).meets_iff, Except.ok.injEq, Prod.mk.injEq,
    reduceCtorEq, false_implies, implies_true, and_true]
  rintro _ _ ⟨rfl, rfl⟩
  simp only [reduceCtorEq, false_implies, and_true, forall_const]
  exact ⟨fun _ hanswer => ⟨hanswer, getAdvertisement_reads id _ _⟩,
    fun _ hanswer => ⟨hanswer, getAdvertisement_reads id _ _⟩⟩

theorem getAdvertisement_published_iff {row : AdvertisementRow τ}
    (htimely : session.backend.Timely session.now) (hrow : db.advertisement? id = some row) :
    (∃ advertisement, (getAdvertisement id session (Statement.changeAdvertisement db id
      (AdvertisementRow.published active session.stamp))).answer = .ok advertisement) ↔
      row.Rereadable session.backend db := by
  have hafter : (Statement.changeAdvertisement db id
      (AdvertisementRow.published active session.stamp)).advertisement? id =
        some (row.published active session.stamp) := advertisement?_changed hrow fun _ => rfl
  constructor
  · rintro ⟨advertisement, hanswer⟩
    obtain ⟨found, hfound, hread⟩ := getAdvertisement_eq_ok_iff.mp hanswer
    obtain rfl := Option.some.inj (hafter.symm.trans hfound)
    obtain ⟨category, n, created, -, hcategory, hscore, hcreated, -⟩ :=
      readJoined_eq_ok_iff.mp hread
    exact ⟨⟨category, hcategory⟩, ⟨n, hscore⟩, ⟨created, hcreated⟩⟩
  · rintro ⟨⟨category, hcategory⟩, ⟨n, hscore⟩, ⟨created, hcreated⟩⟩
    obtain ⟨updated, hupdated⟩ := htimely.readStamp "updated_at"
    have hread : ∃ advertisement, readJoined session.backend (Statement.changeAdvertisement db id
        (AdvertisementRow.published active session.stamp)) (row.published active session.stamp) =
          some (.ok advertisement) :=
      ⟨_, readJoined_eq_ok_iff.mpr
        ⟨category, n, created, updated, hcategory, hscore, hcreated, hupdated, rfl⟩⟩
    obtain ⟨advertisement, hread⟩ := hread
    exact ⟨advertisement, getAdvertisement_eq_ok_iff.mpr ⟨_, hafter, hread⟩⟩

theorem setAdvertisementActive_publishes (htimely : session.backend.Timely session.now)
    (db : Database τ) (id : String) (active : Bool) :
    (setAdvertisementActive id active session db).Publishes session db id active := by
  cases hfound : db.advertisement? id with
  | none =>
      obtain ⟨hanswer, hsame⟩ := @setAdvertisementActive_missing _ session _ _ active hfound
      constructor
      case missing => exact fun _ => ⟨hanswer, hsame⟩
      case written | answered =>
        intro row hrow
        rw [hfound] at hrow
        contradiction
      case allOrNothing =>
        refine iff_of_true (.inr ⟨⟨_, hanswer⟩, by rw [hsame]⟩) fun row hrow => ?_
        rw [hfound] at hrow
        contradiction
  | some row =>
      obtain ⟨hanswer, hwritten⟩ := @setAdvertisementActive_agrees _ session _ _ active _ hfound
      rw [getAdvertisement_reads id session] at hwritten
      have hafter : (setAdvertisementActive id active session db).database.advertisement? id =
          some (row.published active session.stamp) := by
        rw [hwritten]
        exact advertisement?_changed hfound fun _ => rfl
      have hanswered : (∃ a, (setAdvertisementActive id active session db).answer = .ok a) ↔
          row.Rereadable session.backend db := by
        rw [hanswer]
        exact getAdvertisement_published_iff htimely hfound
      constructor
      case missing =>
        intro hnone
        rw [hfound] at hnone
        contradiction
      case written => exact fun _ _ => hwritten
      case answered =>
        intro other hother
        obtain rfl := Option.some.inj (hfound.symm.trans hother)
        exact hanswered
      case allOrNothing =>
        rw [Outcome.AllOrNothing, hafter, hfound, hanswered]
        constructor
        · rintro (⟨hread, -⟩ | ⟨-, hsame⟩) other hother
          · exact .inl (Option.some.inj hother ▸ hread)
          · exact .inr (Option.some.inj hother ▸ Option.some.inj hsame)
        · intro h
          rcases h row rfl with hread | hsame
          · exact .inl ⟨hread, _, rfl, rfl⟩
          · cases hok : (setAdvertisementActive id active session db).answer with
            | ok a => exact .inl ⟨hanswered.mp ⟨a, hok⟩, _, rfl, rfl⟩
            | error failure => exact .inr ⟨⟨failure, rfl⟩, by rw [hsame]⟩

end Store

/-! ## Calls -/

/-- For any tables, at a time that the database can keep: what becomes of the operation, and of the
call for it by whoever looks after the whole board. -/
theorem publication_all_or_nothing_iff {session : Session τ}
    (htimely : session.backend.Timely session.now) (db : Database τ) (id : String) (active : Bool)
    (actor : Actor) (hmoderates : actor.isSiteModerator = true) :
    (setAdvertisementActive id active session db).Publishes session db id active ∧
      (Service.approveAdvertisement actor id active session db).Publishes session db id active := by
  have hpublishes := setAdvertisementActive_publishes htimely db id active
  refine ⟨hpublishes, hpublishes.of_agrees ?_⟩
  apply Service.calling_agrees
  apply Service.moderated_agrees
  simpa [Actor.isSiteModerator] using hmoderates

namespace Board

/-- In the tables of a run whose scores are whole, every row can be read again. -/
theorem run_rereadable {board : Board τ} {turns : List Turn}
    (hclock : ∀ turn ∈ turns, board.backend.Timely turn.now)
    (hwhole : (board.run .empty turns).ScoresWhole) :
    ∀ row ∈ (board.run .empty turns).advertisements,
      row.Rereadable board.backend (board.run .empty turns) := by
  have horderly : (board.run .empty turns).Orderly board.backend := run_orderly hclock
  intro row hrow
  exact ⟨category?_of_hasCategory (horderly.consistent.advertisementReferences row hrow),
    hwhole row hrow, (horderly.stamped.advertisements row hrow).1.readStamp "created_at"⟩

theorem run_allOrNothing {board : Board τ} {turns : List Turn} {turn : Turn}
    (hclock : ∀ turn ∈ turns, board.backend.Timely turn.now)
    (hwhole : (board.run .empty turns).ScoresWhole) (htimely : board.backend.Timely turn.now)
    (id : String) (active : Bool) :
    (setAdvertisementActive id active (board.session turn) (board.run .empty turns)).AllOrNothing
      (board.run .empty turns) id active := by
  refine (setAdvertisementActive_publishes htimely _ id active).allOrNothing.mpr fun row hrow => ?_
  exact .inl (run_rereadable hclock hwhole row (List.mem_of_find?_eq_some hrow))

theorem tandem_publication :
    let db := listedBoard.run .empty listedHistory
    let outcome := Service.approveAdvertisement (.staff "dan") "a3" true listedSession db
    (∃ advertisement, outcome.answer = .ok advertisement) ∧
      ∃ row, outcome.database.advertisement? "a3" = some row ∧ row.isActive = true := by
  intro db outcome
  obtain ⟨row, hrow⟩ : ∃ row, db.advertisement? "a3" = some row := ⟨_, rfl⟩
  have hread : row.Rereadable listedBoard.backend db :=
    run_rereadable (fun turn hturn => .embedded (listedHistory_ordinary turn hturn).year)
      listedBoard_legible.whole row (List.mem_of_find?_eq_some hrow)
  obtain ⟨-, hpublishes⟩ := @publication_all_or_nothing_iff _ listedSession
    (.embedded (by decide)) db "a3" true (.staff "dan") rfl
  refine ⟨(hpublishes.answered row hrow).mpr hread, row.published true listedSession.stamp, ?_, rfl⟩
  rw [hpublishes.written row hrow]
  exact advertisement?_changed hrow fun _ => rfl

/-- A bike with a time of creation that is not a time. -/
def undatedBike : Database String where
  categories := [⟨"c1", "bikes", none, sampleNow.storedText, sampleNow.storedText⟩]
  advertisements := [⟨"a1", "Road bike", none, "ann", 25000, "c1", .whole 0, false, "yesterday",
    sampleNow.storedText⟩]

theorem undated_bike_is_published :
    let outcome := setAdvertisementActive "a1" true listedSession undatedBike
    let called := Service.approveAdvertisement (.staff "dan") "a1" true listedSession undatedBike
    (outcome.answer = .error (.unreadableTime "created_at" "yesterday" .tooShort) ∧
        called.answer = outcome.answer ∧ called.database = outcome.database) ∧
      (undatedBike.advertisement? "a1").map AdvertisementRow.isActive = some false ∧
      (outcome.database.advertisement? "a1").map AdvertisementRow.isActive = some true ∧
      ¬ outcome.AllOrNothing undatedBike "a1" true := by
  intro outcome called
  have hfailed : outcome.answer = .error (.unreadableTime "created_at" "yesterday" .tooShort) := rfl
  have hbefore : (undatedBike.advertisement? "a1").map AdvertisementRow.isActive = some false := rfl
  have hafter : (outcome.database.advertisement? "a1").map AdvertisementRow.isActive =
      some true := rfl
  refine ⟨⟨hfailed, rfl, rfl⟩, hbefore, hafter, ?_⟩
  rintro (⟨⟨advertisement, hanswer⟩, -⟩ | ⟨-, hsame⟩)
  · rw [hfailed] at hanswer
    contradiction
  · rw [hsame, hbefore] at hafter
    contradiction

end Board
end Noticeboard
