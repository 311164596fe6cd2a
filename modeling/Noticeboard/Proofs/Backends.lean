import Noticeboard.Proofs.StoredTime
import Noticeboard.Store.Backend

/-!
# What both kinds of database have in common

Points are added exactly as long as the sum is a 64-bit integer.  Past that the two kinds differ,
the one keeping a double and the other refusing the sum.  What is stored for a time can be read
again; the embedded kind writes times as texts that have four digits for the year.
-/

namespace Noticeboard.Store

/-- The two kinds of database that a board can have. -/
inductive Backend.Supplied : {τ : Type} → Backend τ → Prop where
  | embedded : Supplied Backend.embedded
  | server : Supplied Backend.server

/-- The times that a kind of database can keep. -/
inductive Backend.Timely : {τ : Type} → Backend τ → Time.Instant → Prop where
  | embedded {t : Time.Instant} (hyear : 0 ≤ t.date.year ∧ t.date.year ≤ 9999) :
      Timely Backend.embedded t
  | server (t : Time.Instant) : Timely Backend.server t

/-! ## Scores -/

theorem toInt_ofInt_of_isInt64 {n : Int} (h : Decimal.isInt64 n = true) :
    (Int64.ofInt n).toInt = n := by
  simp only [Decimal.isInt64, Bool.and_eq_true, decide_eq_true_eq] at h
  exact Int64.toInt_ofInt_of_le (by omega) (by omega)

theorem Backend.Supplied.addScore_eq {τ : Type} {backend : Backend τ} (h : backend.Supplied)
    {n delta : Int64} (hfits : Decimal.isInt64 (n.toInt + delta.toInt) = true) :
    backend.addScore (.whole n) delta = .ok (.whole (Int64.ofInt (n.toInt + delta.toInt))) := by
  cases h with
  | embedded => simp [Backend.embedded, Score.addReal, hfits]
  | server => simp [Backend.server, Score.addChecked, hfits]

theorem Backend.Supplied.addScore_whole {τ : Type} {backend : Backend τ}
    (h : backend.Supplied) {n delta : Int64} {score : Score}
    (hscore : backend.addScore (.whole n) delta = .ok score)
    (hfits : Decimal.isInt64 (n.toInt + delta.toInt) = true) :
    ∃ sum : Int64, score = .whole sum ∧ sum.toInt = n.toInt + delta.toInt := by
  rw [h.addScore_eq hfits, Except.ok.injEq] at hscore
  exact ⟨Int64.ofInt (n.toInt + delta.toInt), hscore.symm, toInt_ofInt_of_isInt64 hfits⟩

/-! ## Times -/

section Times

variable {τ : Type} {backend : Backend τ}

theorem Backend.Timely.readStamp {t : Time.Instant} (h : backend.Timely t) (column : String) :
    ∃ read, backend.readStamp column (backend.stamp t) = .ok read := by
  cases h with
  | embedded hyear =>
      obtain ⟨read, hread⟩ := Time.readStored_storedText_ok (t := t.toMicros) hyear
      refine ⟨read, ?_⟩
      simp only [Backend.embedded, hread]
      rfl
  | server => exact ⟨_, rfl⟩

/-- What a kind of database stores for a time that it can keep. -/
def Backend.Stamps (backend : Backend τ) (stamp : τ) : Prop :=
  ∃ t, backend.Timely t ∧ backend.stamp t = stamp

theorem Backend.Stamps.readStamp {stamp : τ} (h : backend.Stamps stamp) (column : String) :
    ∃ read, backend.readStamp column stamp = .ok read := by
  obtain ⟨t, htimely, rfl⟩ := h
  exact htimely.readStamp column

end Times

end Noticeboard.Store
