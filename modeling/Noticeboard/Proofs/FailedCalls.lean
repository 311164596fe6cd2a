import Noticeboard.Proofs.Readable
import Noticeboard.Proofs.Run

/-!
# Failed calls change nothing

The one write that could stand although its call fails is a category or an advertisement that cannot
be read again.  The tables of a run never hold such a row: its times are stamps, the category of an
advertisement is there, and its score was not moved by the write.
-/

namespace Noticeboard

open Store

variable {τ : Type}

section

variable {α : Type} {session : Session τ} {db : Database τ} {outcome : Outcome τ α}
  {failure : Failure}

/-- A failure leaves the tables alone if whatever is written can be read again. -/
theorem Store.Outcome.Settled.failed (h : outcome.Settled session db)
    (horderly : db.Orderly session.backend) (hwhole : db.ScoresWhole)
    (htimely : session.backend.Timely session.now) (hfailed : outcome.answer = .error failure) :
    outcome.database = db := by
  unfold Outcome.Settled at h
  rcases h.of_error hfailed with
    hsame | ⟨hrevision, ⟨row, hrow, hunread⟩ | ⟨id, hpresent, hunread⟩⟩
  · exact hsame
  · have hafter := horderly.changed htimely hrevision.changed
    obtain ⟨category, hanswer⟩ := readCategory_ok hafter.stamped hrow
    rw [hanswer] at hunread
    contradiction
  · have hafter := horderly.changed htimely hrevision.changed
    obtain ⟨row, hrow⟩ := advertisement?_of_hasAdvertisement hpresent
    obtain ⟨advertisement, hanswer⟩ :=
      getAdvertisement_ok hafter hrow ((hwhole.revision hrevision).not_offScale id)
    rw [hanswer] at hunread
    contradiction

end

namespace Board

variable {board : Board τ} {turns : List Turn} {last : Turn} {failure : Failure}

/-- After any run from empty tables, with every score within the 64-bit integers, a call that fails
leaves all six tables as they were.  The clock has to show times that the database can keep. -/
theorem failed_call_changes_nothing (hclock : ∀ turn ∈ turns, board.backend.Timely turn.now)
    (hlast : board.backend.Timely last.now) (hwhole : (board.run .empty turns).ScoresWhole)
    (hfailed : (board.perform last (board.run .empty turns)).answer = .error failure) :
    (board.perform last (board.run .empty turns)).database = board.run .empty turns :=
  (perform_settled last _).failed (run_orderly hclock) hwhole hlast hfailed

/-- An advertisement that is refused together with the category that was to be created for it. -/
def sampleRefusal : Turn :=
  { sampleTurn "3" (.service (.createAdvertisement (.user "bob")
      ⟨⟨"Bell", none, 300⟩, .new ⟨"Parts", none⟩⟩)) with
    triggers := [.refuse .insertAdvertisement .readOnly] }

theorem sample_refusal_changes_nothing :
    (sampleBoard.perform sampleRefusal (sampleBoard.run .empty sampleHistory)).database =
      sampleBoard.run .empty sampleHistory := by
  have hfailed : (sampleBoard.perform sampleRefusal (sampleBoard.run .empty sampleHistory)).answer =
      .error (.database .readOnly) := rfl
  exact failed_call_changes_nothing (fun _ _ => .server _) (.server _) sampleHistory_scoresWhole
    hfailed

end Board
end Noticeboard
