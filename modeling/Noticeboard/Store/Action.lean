import Noticeboard.Journal
import Noticeboard.Store.Backend
import Noticeboard.Store.Statement

/-!
# Store actions

An action works on the tables of a database within a session.  It answers or fails, and in either
case it leaves tables and journal entries behind.  A failure by itself undoes nothing: what was
written before it stays, unless it happens inside a transaction.
-/

namespace Noticeboard.Store

/-- The ids that new rows of each sort will get. -/
structure FreshIds where
  category : String
  advertisement : String
  comment : String
  like : String
  save : String

/-- What an action finds given: the database's ways, the triggers set on it, the weights of score
events, the time, and ids that no row has. -/
structure Session (τ : Type) where
  backend : Backend τ
  triggers : Triggers := []
  weights : ScoreWeights
  now : Time.Instant
  ids : FreshIds

structure Outcome (τ α : Type) where
  answer : Except Failure α
  database : Database τ
  journal : List Journal.Entry

def Action (τ α : Type) : Type :=
  Session τ → Database τ → Outcome τ α

namespace Action

variable {τ α β : Type}

protected def pure (a : α) : Action τ α := fun _ db =>
  ⟨.ok a, db, []⟩

/-- Goes on with the answer of the first action, on the tables it left; a failure ends both. -/
protected def bind (action : Action τ α) (next : α → Action τ β) : Action τ β := fun session db =>
  let first := action session db
  match first.answer with
  | .ok a =>
    let second := next a session first.database
    ⟨second.answer, second.database, first.journal ++ second.journal⟩
  | .error failure => ⟨.error failure, first.database, first.journal⟩

instance : Monad (Action τ) where
  pure := Action.pure
  bind := Action.bind

def fail (failure : Failure) : Action τ α := fun _ db =>
  ⟨.error failure, db, []⟩

def ofExcept (result : Except Failure α) : Action τ α := fun _ db =>
  ⟨result, db, []⟩

def session : Action τ (Session τ) := fun session db =>
  ⟨.ok session, db, []⟩

/-- Looks something up in the tables. -/
def query (look : Backend τ → Database τ → Except Failure α) : Action τ α := fun session db =>
  ⟨look session.backend db, db, []⟩

def note (entry : Journal.Entry) : Action τ Unit := fun _ db =>
  ⟨.ok (), db, [entry]⟩

/-- Carries out a write; `explain` says what a fault means here. -/
def execute (statement : Statement τ α) (explain : DatabaseFault → Failure) : Action τ α :=
  fun session db =>
    match statement session.triggers db with
    | .ok (a, changed) => ⟨.ok a, changed, []⟩
    | .error fault => ⟨.error (explain fault), db, []⟩

/-- The tables as they were, if the action fails; the journal stays. -/
def transaction (action : Action τ α) : Action τ α := fun session db =>
  let outcome := action session db
  match outcome.answer with
  | .ok _ => outcome
  | .error _ => { outcome with database := db }

/-- The tables as they were, whatever the action does. -/
def withoutTrace (action : Action τ α) : Action τ α := fun session db =>
  { action session db with database := db }

/-- Runs an action in a changed session. -/
def within (change : Session τ → Session τ) (action : Action τ α) : Action τ α :=
  fun session db => action (change session) db

/-- Runs an action and notes what `entry` makes of its answer. -/
def reporting (entry : Except Failure α → Journal.Entry) (action : Action τ α) : Action τ α :=
  fun session db =>
    let outcome := action session db
    { outcome with journal := outcome.journal ++ [entry outcome.answer] }

/-- Fails unless a write found its row. -/
def expectRow (failure : Failure) (found : Bool) : Action τ Unit :=
  if found then pure () else fail failure

end Action
end Noticeboard.Store
