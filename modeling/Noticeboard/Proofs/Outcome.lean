import Noticeboard.Store.Command

/-!
# What an outcome is like

`Outcome.Meets good bad` says of an outcome that its answer and tables are `good` if it succeeded,
and that its failure and tables are `bad` if it failed.  Each way of building an action has a lemma
that says when its outcome meets a pair of conditions.  Together they turn a statement about a whole
action into one about its reads and writes.
-/

namespace Noticeboard.Store

variable {τ α β : Type}

namespace Outcome

def Meets (outcome : Outcome τ α) (good : α → Database τ → Prop)
    (bad : Failure → Database τ → Prop) : Prop :=
  match outcome.answer with
  | .ok a => good a outcome.database
  | .error failure => bad failure outcome.database

variable {outcome : Outcome τ α} {good good' : α → Database τ → Prop}
  {bad bad' : Failure → Database τ → Prop}

theorem Meets.mono (h : outcome.Meets good bad)
    (hgood : ∀ a after, good a after → good' a after)
    (hbad : ∀ failure after, bad failure after → bad' failure after) :
    outcome.Meets good' bad' := by
  unfold Meets at *
  split
  next a hanswer =>
    rw [hanswer] at h
    exact hgood a _ h
  next failure hanswer =>
    rw [hanswer] at h
    exact hbad failure _ h

theorem Meets.of_ok (h : outcome.Meets good bad) {a : α} (hanswer : outcome.answer = .ok a) :
    good a outcome.database := by
  simpa [Meets, hanswer] using h

theorem Meets.of_error (h : outcome.Meets good bad) {failure : Failure}
    (hanswer : outcome.answer = .error failure) : bad failure outcome.database := by
  simpa [Meets, hanswer] using h

/-- A condition on the tables alone, whether the action succeeds or not. -/
theorem Meets.database {keeps : Database τ → Prop}
    (h : outcome.Meets (fun _ after => keeps after) (fun _ after => keeps after)) :
    keeps outcome.database := by
  unfold Meets at h
  split at h
  · exact h
  · exact h

theorem answer_eq_ok_iff_meets {a : α} :
    outcome.answer = .ok a ↔ outcome.Meets (fun b _ => b = a) (fun _ _ => False) := by
  unfold Meets
  cases outcome.answer with
  | ok b => simp
  | error failure => simp

theorem answer_eq_error_iff_meets {failure : Failure} :
    outcome.answer = .error failure ↔
      outcome.Meets (fun _ _ => False) (fun other _ => other = failure) := by
  unfold Meets
  cases outcome.answer with
  | ok b => simp
  | error other => simp

/-- A failure that leaves the tables alone. -/
def Refused (outcome : Outcome τ α) (db : Database τ) : Prop :=
  (∃ failure, outcome.answer = .error failure) ∧ outcome.database = db

theorem refused_iff_meets {db : Database τ} :
    outcome.Refused db ↔ outcome.Meets (fun _ _ => False) (fun _ after => after = db) := by
  unfold Refused Meets
  cases outcome.answer with
  | ok a => simp
  | error failure => simp

/-- The outcome is this failure, and the tables are as before. -/
def Fails (outcome : Outcome τ α) (failure : Failure) (db : Database τ) : Prop :=
  outcome.answer = .error failure ∧ outcome.database = db

theorem fails_iff_meets {failure : Failure} {db : Database τ} :
    outcome.Fails failure db ↔
      outcome.Meets (fun _ _ => False) fun other after => other = failure ∧ after = db := by
  unfold Fails Meets
  cases outcome.answer with
  | ok a => simp
  | error other => simp

theorem Fails.refused {failure : Failure} {db : Database τ} (h : outcome.Fails failure db) :
    outcome.Refused db :=
  ⟨⟨failure, h.1⟩, h.2⟩

/-- Two outcomes agree if they give the same answer and leave the same tables; what they noted in
the journal may differ. -/
def Agrees (outcome other : Outcome τ α) : Prop :=
  outcome.answer = other.answer ∧ outcome.database = other.database

theorem agrees_iff_meets {other : Outcome τ α} :
    outcome.Agrees other ↔
      outcome.Meets (fun a after => other.answer = .ok a ∧ other.database = after)
        (fun failure after => other.answer = .error failure ∧ other.database = after) := by
  unfold Agrees Meets
  cases outcome.answer with
  | ok a => simp only [eq_comm]
  | error failure => simp only [eq_comm]

end Outcome

namespace Action

variable {session : Session τ} {db : Database τ} {good : α → Database τ → Prop}
  {bad : Failure → Database τ → Prop}

@[simp] theorem meets_pure (a : α) :
    ((pure a : Action τ α) session db).Meets good bad ↔ good a db :=
  Iff.rfl

@[simp] theorem meets_bind {action : Action τ β} {next : β → Action τ α} :
    ((action >>= next) session db).Meets good bad ↔
      (action session db).Meets (fun b mid => (next b session mid).Meets good bad) bad := by
  show (Action.bind action next session db).Meets good bad ↔ _
  unfold Action.bind
  cases hanswer : (action session db).answer with
  | ok b => simp [Outcome.Meets, hanswer]
  | error failure => simp [Outcome.Meets, hanswer]

@[simp] theorem meets_fail (failure : Failure) :
    ((fail failure : Action τ α) session db).Meets good bad ↔ bad failure db :=
  Iff.rfl

@[simp] theorem meets_ofExcept (result : Except Failure α) :
    ((ofExcept result : Action τ α) session db).Meets good bad ↔
      (∀ a, result = .ok a → good a db) ∧ ∀ failure, result = .error failure → bad failure db := by
  cases result with
  | ok a => simp [ofExcept, Outcome.Meets]
  | error failure => simp [ofExcept, Outcome.Meets]

@[simp] theorem meets_session {good : Session τ → Database τ → Prop} :
    (Action.session session db).Meets good bad ↔ good session db :=
  Iff.rfl

@[simp] theorem meets_query {look : Backend τ → Database τ → Except Failure α} :
    (query look session db).Meets good bad ↔
      (∀ a, look session.backend db = .ok a → good a db) ∧
        ∀ failure, look session.backend db = .error failure → bad failure db := by
  show ((ofExcept (look session.backend db) : Action τ α) session db).Meets good bad ↔ _
  exact meets_ofExcept _

@[simp] theorem meets_note {entry : Journal.Entry} {good : Unit → Database τ → Prop} :
    (note entry session db).Meets good bad ↔ good () db :=
  Iff.rfl

@[simp] theorem meets_execute {statement : Statement τ α} {explain : DatabaseFault → Failure} :
    (execute statement explain session db).Meets good bad ↔
      (∀ a after, statement session.triggers db = .ok (a, after) → good a after) ∧
        ∀ fault, statement session.triggers db = .error fault → bad (explain fault) db := by
  unfold execute
  cases statement session.triggers db with
  | ok result =>
      obtain ⟨a, changed⟩ := result
      simp [Outcome.Meets]
  | error fault => simp [Outcome.Meets]

@[simp] theorem meets_transaction {action : Action τ α} :
    (transaction action session db).Meets good bad ↔
      (action session db).Meets good (fun failure _ => bad failure db) := by
  unfold transaction
  cases hanswer : (action session db).answer with
  | ok a => simp [Outcome.Meets, hanswer]
  | error failure => simp [Outcome.Meets, hanswer]

@[simp] theorem meets_reporting {entry : Except Failure α → Journal.Entry} {action : Action τ α} :
    (reporting entry action session db).Meets good bad ↔ (action session db).Meets good bad :=
  Iff.rfl

@[simp] theorem meets_ite (c : Prop) [Decidable c] (first second : Action τ α) :
    ((if c then first else second) session db).Meets good bad ↔
      (c → (first session db).Meets good bad) ∧ (¬c → (second session db).Meets good bad) := by
  by_cases hc : c <;> simp [hc]

@[simp] theorem meets_expectRow {failure : Failure} {found : Bool}
    {good : Unit → Database τ → Prop} :
    (expectRow failure found session db).Meets good bad ↔
      (found = true → good () db) ∧ (found = false → bad failure db) := by
  cases found <;> simp [expectRow]

@[simp] theorem meets_replying {wrap : α → Reply} {action : Action τ α}
    {good : Reply → Database τ → Prop} :
    (action.replying wrap session db).Meets good bad ↔
      (action session db).Meets (fun a after => good (wrap a) after) bad :=
  meets_bind

end Action

/-! ## Wrapped answers -/

section Replying

variable {session : Session τ} {db : Database τ} {action : Action τ α} {wrap : α → Reply}

theorem Outcome.Refused.replying (h : (action session db).Refused db) :
    (action.replying wrap session db).Refused db := by
  rw [refused_iff_meets] at h ⊢
  exact Action.meets_replying.mpr h

theorem Outcome.Refused.settling {action : Action τ Unit}
    (h : (action session db).Refused db) : (action.settling session db).Refused db :=
  h.replying

theorem Outcome.Fails.replying {failure : Failure} (h : (action session db).Fails failure db) :
    (action.replying wrap session db).Fails failure db := by
  rw [fails_iff_meets] at h ⊢
  exact Action.meets_replying.mpr h

theorem Outcome.Fails.settling {action : Action τ Unit} {failure : Failure}
    (h : (action session db).Fails failure db) : (action.settling session db).Fails failure db :=
  h.replying

theorem Outcome.Agrees.replying {other : Action τ α}
    (h : (action session db).Agrees (other session db)) :
    (action.replying wrap session db).Agrees (other.replying wrap session db) := by
  obtain ⟨hanswer, hdatabase⟩ := h
  unfold Action.replying Action.bind Agrees
  simp only [hanswer, hdatabase]
  cases (other session db).answer with
  | ok a => exact ⟨rfl, rfl⟩
  | error failure => exact ⟨rfl, rfl⟩

theorem Outcome.Agrees.settling {action other : Action τ Unit}
    (h : (action session db).Agrees (other session db)) :
    (action.settling session db).Agrees (other.settling session db) :=
  h.replying

end Replying

-- From here on outcomes are opened by the lemmas above only, never by evaluating an action.
attribute [irreducible] Outcome.Meets

end Noticeboard.Store
