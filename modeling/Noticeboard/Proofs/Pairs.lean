import Noticeboard.Proofs.Calls

/-!
# Two outcomes side by side

`Outcome.Pairs good bad` says of two outcomes that both succeeded, and their answers and tables are
`good` together, or that both failed, and their failures and tables are `bad` together.  The two may
belong to different kinds of database.  For each way of building an action there is a rule by which
its outcomes are paired if those of its parts are.
-/

namespace Noticeboard.Store

variable {σ τ α β γ δ : Type}

/-- Both results are fine, and `good` together, or both are not, and `bad` together. -/
def Paired {ε ε' : Type} (good : α → β → Prop) (bad : ε → ε' → Prop) :
    Except ε α → Except ε' β → Prop
  | .ok a, .ok b => good a b
  | .error e, .error e' => bad e e'
  | _, _ => False

section Results

variable {ε ε' : Type} {good good' : α → β → Prop} {bad bad' : ε → ε' → Prop}

theorem paired_ok {a : α} {b : β} (h : good a b) : Paired good bad (.ok a) (.ok b) :=
  h

theorem paired_error {e : ε} {e' : ε'} (h : bad e e') : Paired good bad (.error e) (.error e') :=
  h

theorem Paired.cases {first : Except ε α} {second : Except ε' β}
    (h : Paired good bad first second) :
    (∃ a b, first = .ok a ∧ second = .ok b ∧ good a b) ∨
      ∃ e e', first = .error e ∧ second = .error e' ∧ bad e e' := by
  cases first with
  | ok a =>
      cases second with
      | ok b => exact .inl ⟨a, b, rfl, rfl, h⟩
      | error e' => exact absurd h not_false
  | error e =>
      cases second with
      | ok b => exact absurd h not_false
      | error e' => exact .inr ⟨e, e', rfl, rfl, h⟩

theorem Paired.mono {first : Except ε α} {second : Except ε' β} (h : Paired good bad first second)
    (hgood : ∀ a b, good a b → good' a b) (hbad : ∀ e e', bad e e' → bad' e e') :
    Paired good' bad' first second := by
  rcases h.cases with ⟨a, b, rfl, rfl, h⟩ | ⟨e, e', rfl, rfl, h⟩
  · exact hgood a b h
  · exact hbad e e' h

/-- One result on both sides. -/
theorem paired_self {good : α → α → Prop} {bad : ε → ε → Prop} {result : Except ε α}
    (hgood : ∀ a, result = .ok a → good a a) (hbad : ∀ e, result = .error e → bad e e) :
    Paired good bad result result := by
  cases result with
  | ok a => exact hgood a rfl
  | error e => exact hbad e rfl

theorem paired_mapTables {f : Database τ → Database σ}
    {good : α × Database σ → α × Database τ → Prop} {bad : DatabaseFault → DatabaseFault → Prop}
    {first : Except DatabaseFault (α × Database σ)} {second : Except DatabaseFault (α × Database τ)}
    (hmap : first = mapTables f second)
    (hgood : ∀ a after, second = .ok (a, after) → good (a, f after) (a, after))
    (hbad : ∀ fault, second = .error fault → bad fault fault) : Paired good bad first second := by
  subst hmap
  cases second with
  | ok result => exact paired_ok (hgood result.1 result.2 rfl)
  | error fault => exact paired_error (hbad fault rfl)

end Results

namespace Outcome

def Pairs (first : Outcome σ α) (second : Outcome τ β)
    (good : α → β → Database σ → Database τ → Prop)
    (bad : Failure → Failure → Database σ → Database τ → Prop) : Prop :=
  Paired (fun a b => good a b first.database second.database)
    (fun f g => bad f g first.database second.database) first.answer second.answer

variable {first : Outcome σ α} {second : Outcome τ β}
  {good good' : α → β → Database σ → Database τ → Prop}
  {bad bad' : Failure → Failure → Database σ → Database τ → Prop}

theorem Pairs.cases (h : first.Pairs second good bad) :
    (∃ a b, first.answer = .ok a ∧ second.answer = .ok b ∧
        good a b first.database second.database) ∨
      ∃ f g, first.answer = .error f ∧ second.answer = .error g ∧
        bad f g first.database second.database :=
  Paired.cases h

theorem Pairs.mono (h : first.Pairs second good bad)
    (hgood : ∀ a b after after', good a b after after' → good' a b after after')
    (hbad : ∀ f g after after', bad f g after after' → bad' f g after after') :
    first.Pairs second good' bad' :=
  Paired.mono h (fun a b => hgood a b _ _) fun f g => hbad f g _ _

theorem Pairs.paired {good : α → β → Prop} {bad : Failure → Failure → Prop}
    (h : first.Pairs second (fun a b _ _ => good a b) fun f g _ _ => bad f g) :
    Paired good bad first.answer second.answer :=
  h

theorem Refused.pairs {db : Database σ} {db' : Database τ} (h : first.Refused db)
    (h' : second.Refused db') (hbad : ∀ f g, bad f g db db') : first.Pairs second good bad := by
  obtain ⟨⟨f, hfirst⟩, rfl⟩ := h
  obtain ⟨⟨g, hsecond⟩, rfl⟩ := h'
  unfold Pairs
  rw [hfirst, hsecond]
  exact paired_error (hbad f g)

theorem Agrees.pairs {other : Outcome σ α} (h : first.Agrees other)
    (hother : other.Pairs second good bad) : first.Pairs second good bad := by
  unfold Pairs at *
  rw [h.1, h.2]
  exact hother

end Outcome

namespace Action

variable {session : Session σ} {session' : Session τ} {db : Database σ} {db' : Database τ}
  {good : α → β → Database σ → Database τ → Prop}
  {bad : Failure → Failure → Database σ → Database τ → Prop}

theorem pairs_pure {a : α} {b : β} (h : good a b db db') :
    ((pure a : Action σ α) session db).Pairs ((pure b : Action τ β) session' db') good bad :=
  h

theorem pairs_fail {f g : Failure} (h : bad f g db db') :
    ((fail f : Action σ α) session db).Pairs ((fail g : Action τ β) session' db') good bad :=
  h

theorem pairs_session {good : Session σ → Session τ → Database σ → Database τ → Prop}
    (h : good session session' db db') :
    (Action.session session db).Pairs (Action.session session' db') good bad :=
  h

theorem pairs_note {entry : Journal.Entry} {good : Unit → Unit → Database σ → Database τ → Prop}
    (h : good () () db db') :
    ((note entry : Action σ Unit) session db).Pairs ((note entry : Action τ Unit) session' db')
      good bad :=
  h

theorem pairs_ofExcept {result : Except Failure α} {result' : Except Failure β}
    (h : Paired (fun a b => good a b db db') (fun f g => bad f g db db') result result') :
    ((ofExcept result : Action σ α) session db).Pairs
      ((ofExcept result' : Action τ β) session' db') good bad :=
  h

theorem pairs_execute {statement : Statement σ α} {statement' : Statement τ β}
    {explain explain' : DatabaseFault → Failure}
    (h : Paired (fun a b => good a.1 b.1 a.2 b.2)
      (fun f g => bad (explain f) (explain' g) db db')
      (statement session.triggers db) (statement' session'.triggers db')) :
    (execute statement explain session db).Pairs (execute statement' explain' session' db')
      good bad := by
  unfold execute
  rcases h.cases with ⟨⟨a, after⟩, ⟨b, after'⟩, hfirst, hsecond, h⟩ | ⟨f, g, hfirst, hsecond, h⟩
  · rw [hfirst, hsecond]
    exact h
  · rw [hfirst, hsecond]
    exact h

theorem pairs_bind {action : Action σ γ} {action' : Action τ δ} {next : γ → Action σ α}
    {next' : δ → Action τ β}
    (h : (action session db).Pairs (action' session' db')
      (fun a b after after' => (next a session after).Pairs (next' b session' after') good bad)
      bad) :
    ((action >>= next) session db).Pairs ((action' >>= next') session' db') good bad := by
  show (Action.bind action next session db).Pairs (Action.bind action' next' session' db') good bad
  unfold Action.bind
  rcases Paired.cases h with ⟨a, b, hfirst, hsecond, h⟩ | ⟨f, g, hfirst, hsecond, h⟩
  · simp only [hfirst, hsecond]
    exact h
  · simp only [hfirst, hsecond]
    exact h

theorem pairs_ite {c : Prop} [Decidable c] {action other : Action σ α}
    {action' other' : Action τ β}
    (hthen : c → (action session db).Pairs (action' session' db') good bad)
    (helse : ¬c → (other session db).Pairs (other' session' db') good bad) :
    ((if c then action else other) session db).Pairs
      ((if c then action' else other') session' db') good bad := by
  by_cases hc : c
  · rw [if_pos hc, if_pos hc]
    exact hthen hc
  · rw [if_neg hc, if_neg hc]
    exact helse hc

theorem pairs_transaction {action : Action σ α} {action' : Action τ β}
    (h : (action session db).Pairs (action' session' db') good fun f g _ _ => bad f g db db') :
    (transaction action session db).Pairs (transaction action' session' db') good bad := by
  unfold transaction
  rcases Paired.cases h with ⟨a, b, hfirst, hsecond, h⟩ | ⟨f, g, hfirst, hsecond, h⟩
  · simp only [Outcome.Pairs, hfirst, hsecond]
    exact h
  · simp only [Outcome.Pairs, hfirst, hsecond]
    exact h

theorem pairs_reporting {entry : Except Failure α → Journal.Entry}
    {entry' : Except Failure β → Journal.Entry} {action : Action σ α} {action' : Action τ β}
    (h : (action session db).Pairs (action' session' db') good bad) :
    (reporting entry action session db).Pairs (reporting entry' action' session' db') good bad :=
  h

theorem pairs_expectRow {failure : Failure} {found : Bool}
    {good : Unit → Unit → Database σ → Database τ → Prop}
    (hfound : found = true → good () () db db')
    (hlost : found = false → bad failure failure db db') :
    (expectRow failure found session db).Pairs (expectRow failure found session' db') good bad := by
  cases found with
  | true => exact hfound rfl
  | false => exact hlost rfl

theorem pairs_replying {wrap : α → Reply} {wrap' : β → Reply} {action : Action σ α}
    {action' : Action τ β} {good : Reply → Reply → Database σ → Database τ → Prop}
    (h : (action session db).Pairs (action' session' db')
      (fun a b after after' => good (wrap a) (wrap' b) after after') bad) :
    (action.replying wrap session db).Pairs (action'.replying wrap' session' db') good bad :=
  pairs_bind h

/-- Reads leave the tables alone, so it is enough that what they find is paired. -/
theorem Reads.pairs {action : Action σ α} {action' : Action τ β} (h : action.Reads)
    (h' : action'.Reads)
    (hanswer : Paired (fun a b => good a b db db') (fun f g => bad f g db db')
      (action session db).answer (action' session' db').answer) :
    (action session db).Pairs (action' session' db') good bad := by
  unfold Outcome.Pairs
  rw [h session db, h' session' db']
  exact hanswer

end Action

-- From here on pairs are taken apart by the rules above only, never by evaluating an action.
attribute [irreducible] Paired Outcome.Pairs

end Noticeboard.Store
