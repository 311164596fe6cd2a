import Mathlib.Data.List.Induction
import Noticeboard.Proofs.Calls
import Noticeboard.Proofs.Readable
import Noticeboard.Time.Epoch

/-!
# Runs of a board

A board is a kind of database together with the weights of its points and the settings of its
searches.  A run makes calls one after another, each at a time of its own and with new ids at hand.
What every turn keeps, every run keeps.
-/

namespace Noticeboard

/-- A call of the service, or an operation of the store below the access rules. -/
inductive Call where
  | service (command : Service.Command)
  | store (command : Store.Command)

def Call.perform {τ : Type} (settings : EngineSettings) : Call → Store.Action τ Reply
  | .service command => command.perform settings
  | .store command => command.perform

/-- A call, with the time and the new ids it finds, and the writes that the database refuses. -/
structure Turn where
  call : Call
  now : Time.Instant
  ids : Store.FreshIds
  triggers : Store.Triggers := []

structure Board (τ : Type) where
  backend : Store.Backend τ
  weights : ScoreWeights
  settings : EngineSettings

namespace Board

variable {τ : Type}

/-- A board whose database is a file of its own. -/
def embedded (weights : ScoreWeights) (settings : EngineSettings) : Board String :=
  ⟨.embedded, weights, settings⟩

def server (weights : ScoreWeights) (settings : EngineSettings) : Board Time.Instant :=
  ⟨.server, weights, settings⟩

def session (board : Board τ) (turn : Turn) : Store.Session τ :=
  ⟨board.backend, turn.triggers, board.weights, turn.now, turn.ids⟩

def perform (board : Board τ) (turn : Turn) (db : Store.Database τ) : Store.Outcome τ Reply :=
  turn.call.perform board.settings (board.session turn) db

/-- The tables after some turns. -/
def run (board : Board τ) (start : Store.Database τ) (turns : List Turn) : Store.Database τ :=
  turns.foldl (fun db turn => (board.perform turn db).database) start

variable {board : Board τ} {start : Store.Database τ}

@[simp] theorem run_nil : board.run start [] = start :=
  rfl

@[simp] theorem run_concat (turns : List Turn) (turn : Turn) :
    board.run start (turns ++ [turn]) =
      (board.perform turn (board.run start turns)).database := by
  simp [run]

theorem perform_service {turn : Turn} {command : Service.Command}
    (hcall : turn.call = .service command) (db : Store.Database τ) :
    board.perform turn db = command.perform board.settings (board.session turn) db := by
  rw [perform, hcall, Call.perform]

theorem perform_store {turn : Turn} {command : Store.Command} (hcall : turn.call = .store command)
    (db : Store.Database τ) :
    board.perform turn db = command.perform (board.session turn) db := by
  rw [perform, hcall, Call.perform]

theorem perform_settled (turn : Turn) (db : Store.Database τ) :
    (board.perform turn db).Settled (board.session turn) db := by
  unfold perform Call.perform
  cases turn.call with
  | service command => exact command.perform_settled board.settings
  | store command => exact command.perform_settled

/-- What holds at the start and is kept by every turn of a run holds at its end. -/
theorem run_keeps {Keeps : Store.Database τ → Prop} {turns : List Turn} (hstart : Keeps start)
    (hturn : ∀ turn ∈ turns, ∀ db after, Keeps db →
      Store.Changed (board.session turn) db after → Keeps after) :
    Keeps (board.run start turns) := by
  induction turns using List.reverseRecOn with
  | nil =>
      rw [run_nil]
      exact hstart
  | append_singleton turns turn ih =>
      rw [run_concat]
      refine hturn turn (by simp) _ _ (ih fun earlier hearlier => ?_)
        (perform_settled turn _).changed
      exact hturn earlier (List.mem_append_left _ hearlier)

theorem run_consistent (hstart : start.Consistent) (turns : List Turn) :
    (board.run start turns).Consistent :=
  run_keeps hstart fun _ _ _ _ h hchanged => h.changed hchanged

/-- A run from empty tables keeps them in order, as long as the clock shows times that the database
can keep. -/
theorem run_orderly {turns : List Turn} (hclock : ∀ turn ∈ turns, board.backend.Timely turn.now) :
    (board.run .empty turns).Orderly board.backend := by
  refine run_keeps ⟨.empty, .empty⟩ fun turn hturn db _ h hchanged => ?_
  have horderly : db.Orderly (board.session turn).backend := h
  exact horderly.changed (hclock turn hturn) hchanged

/-- Scores stay whole where sums that are not are refused. -/
theorem run_scoresWhole (hsums : board.backend.SumsWhole) (turns : List Turn) :
    (board.run .empty turns).ScoresWhole := by
  refine run_keeps (fun row hnone => ?_) fun turn _ db after h hchanged =>
    hchanged.keeps (fun hmid => hmid.revision) (fun hdb => hdb.engagement hsums) h
  simp [Store.Database.empty] at hnone

end Board

/-! ## A board to try -/

def sampleBoard : Board Time.Instant :=
  ⟨.server, ⟨2, 3, -1⟩, .standard⟩

def sampleNow : Time.Instant :=
  .sinceEpoch 43200 0

/-- A call whose new ids end in this number. -/
def sampleTurn (number : String) (call : Call) : Turn :=
  ⟨call, sampleNow,
    ⟨"c" ++ number, "a" ++ number, "m" ++ number, "l" ++ number, "s" ++ number⟩, []⟩

/-- An advertisement with its category, a like, and a moderator. -/
def sampleHistory : List Turn :=
  [sampleTurn "1" (.service (.createAdvertisement (.user "ann")
      ⟨⟨"Road bike", none, 25000⟩, .new ⟨"Bikes", none⟩⟩)),
    sampleTurn "2" (.store (.likeAdvertisement "bob" "a1")),
    sampleTurn "3" (.store (.addModerator "a1" "bob"))]

theorem sampleHistory_advertisements :
    (sampleBoard.run .empty sampleHistory).advertisements =
      [⟨"a1", "Road bike", none, "ann", 25000, "c1", .whole 3, false, sampleNow, sampleNow⟩] :=
  rfl

theorem sampleHistory_scoresWhole : (sampleBoard.run .empty sampleHistory).ScoresWhole := by
  intro row hrow
  rw [sampleHistory_advertisements] at hrow
  obtain rfl := List.mem_singleton.mp hrow
  exact ⟨3, rfl⟩

end Noticeboard
