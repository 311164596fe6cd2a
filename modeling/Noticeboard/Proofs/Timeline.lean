import Mathlib.Data.Nat.Init
import Noticeboard.Proofs.TimeOrder
import Noticeboard.Time.Epoch

/-!
# Instants on the time line

Days are counted from the first day of 1970 by the rule of leap years, and nanoseconds from the
beginning of that day.  The next date is one day later, so this is the count of the calendar.  The
order of dates is the order of their days, and that of instants without leap seconds the order of
their nanoseconds.
-/

namespace Noticeboard.Time

/-! ## Days -/

/-- The days from the beginning of the year 1 to the beginning of a year. -/
def daysBeforeYear (year : Int) : Int :=
  365 * (year - 1) + (year - 1) / 4 - (year - 1) / 100 + (year - 1) / 400

def daysBeforeMonth (year : Int) : Nat → Nat
  | 0 | 1 => 0
  | month + 2 => daysBeforeMonth year (month + 1) + daysIn year (month + 1)

def yearLength (year : Int) : Nat :=
  if isLeap year then 366 else 365

theorem daysBeforeYear_succ (year : Int) :
    daysBeforeYear (year + 1) = daysBeforeYear year + yearLength year := by
  unfold daysBeforeYear yearLength
  by_cases hleap : isLeap year = true
  · simp [isLeap] at hleap ⊢
    simp [hleap]
    omega
  · simp [isLeap] at hleap ⊢
    split
    · omega
    · omega

theorem daysBeforeMonth_succ (year : Int) {month : Nat} (h : 1 ≤ month) :
    daysBeforeMonth year (month + 1) = daysBeforeMonth year month + daysIn year month := by
  obtain ⟨before, rfl⟩ := Nat.exists_eq_add_of_le' h
  rfl

theorem daysBeforeMonth_end (year : Int) : daysBeforeMonth year 13 = yearLength year := by
  by_cases hleap : isLeap year = true
  · simp [daysBeforeMonth, daysIn, yearLength, hleap]
  · simp [daysBeforeMonth, daysIn, yearLength, hleap]

theorem daysBeforeMonth_mono (year : Int) {month later : Nat} (h : month ≤ later) :
    daysBeforeMonth year month ≤ daysBeforeMonth year later := by
  induction later, h using Nat.le_induction with
  | base => exact Nat.le_refl _
  | succ later _ ih =>
      cases later with
      | zero => exact ih
      | succ before =>
          rw [daysBeforeMonth_succ year (by omega)]
          omega

theorem daysBeforeYear_mono {year later : Int} (h : year ≤ later) :
    daysBeforeYear year ≤ daysBeforeYear later := by
  unfold daysBeforeYear
  omega

namespace Date

/-- The days from the first day of 1970 to a date. -/
def dayNumber (d : Date) : Int :=
  daysBeforeYear d.year + (daysBeforeMonth d.year d.month + d.day : Nat) - 719163

theorem dayNumber_epoch : epoch.dayNumber = 0 := by
  decide

theorem dayNumber_next (d : Date) : d.next.dayNumber = d.dayNumber + 1 := by
  obtain ⟨hfirst, hlast⟩ := d.month_valid
  have hday := d.day_valid
  have hmonth := daysBeforeMonth_succ d.year hfirst
  unfold next
  split
  · simp only [dayNumber]
    omega
  · split
    · simp only [dayNumber, hmonth]
      omega
    · have hafter : d.month + 1 = 13 := by omega
      have hyear := daysBeforeYear_succ d.year
      have hstart : daysBeforeMonth (d.year + 1) 1 = 0 := rfl
      rw [hafter, daysBeforeMonth_end] at hmonth
      simp only [dayNumber, hyear, hstart]
      omega

theorem dayNumber_daysLater (d : Date) (days : Nat) :
    (d.daysLater days).dayNumber = d.dayNumber + days := by
  induction days with
  | zero => simp [daysLater, Nat.repeat]
  | succ days ih =>
      have hnext : d.daysLater (days + 1) = (d.daysLater days).next := rfl
      rw [hnext, dayNumber_next, ih]
      omega

theorem day_le_yearLength (d : Date) :
    daysBeforeMonth d.year d.month + d.day ≤ yearLength d.year := by
  have hday := d.day_valid.2
  have hmonth := daysBeforeMonth_succ d.year d.month_valid.1
  have hlater : daysBeforeMonth d.year (d.month + 1) ≤ daysBeforeMonth d.year 13 :=
    daysBeforeMonth_mono d.year (by have := d.month_valid; omega)
  rw [daysBeforeMonth_end] at hlater
  omega

theorem compare_eq_lt_iff {d e : Date} :
    d.compare e = .lt ↔
      d.year < e.year ∨ d.year = e.year ∧ (d.month < e.month ∨ d.month = e.month ∧ d.day < e.day) := by
  simp [compare, Ordering.then_eq_lt, Int.compare_eq_lt, Nat.compare_eq_lt]

theorem swap_compare (d e : Date) : (d.compare e).swap = e.compare d := by
  simp [compare, Ordering.swap_then, Int.compare_swap, Nat.compare_swap]

theorem eq_of_compare_eq {d e : Date} (h : d.compare e = .eq) : d = e := by
  cases d
  cases e
  simpa [compare, Ordering.then_eq_eq, Int.compare_eq_eq, Nat.compare_eq_eq] using h

theorem dayNumber_lt {d e : Date} (h : d.compare e = .lt) : d.dayNumber < e.dayNumber := by
  have hday := e.day_valid.1
  unfold dayNumber
  rcases compare_eq_lt_iff.mp h with hyear | ⟨hyear, hmonth | ⟨hmonth, hless⟩⟩
  · have hwithin := d.day_le_yearLength
    have hnext := daysBeforeYear_succ d.year
    have hlater : daysBeforeYear (d.year + 1) ≤ daysBeforeYear e.year := daysBeforeYear_mono hyear
    omega
  · have hwithin := d.day_valid.2
    have hnext := daysBeforeMonth_succ d.year d.month_valid.1
    have hlater : daysBeforeMonth d.year (d.month + 1) ≤ daysBeforeMonth d.year e.month :=
      daysBeforeMonth_mono d.year hmonth
    rw [← hyear]
    omega
  · rw [← hyear, ← hmonth]
    omega

theorem compare_dayNumber (d e : Date) : Ord.compare d.dayNumber e.dayNumber = d.compare e := by
  cases h : d.compare e with
  | lt => exact Int.compare_eq_lt.mpr (dayNumber_lt h)
  | eq =>
      rw [eq_of_compare_eq h]
      simp
  | gt =>
      have hswap : e.compare d = .lt := by
        rw [← swap_compare, h]
        rfl
      exact Int.compare_eq_gt.mpr (dayNumber_lt hswap)

end Date

/-! ## Nanoseconds -/

namespace Instant

/-- The nanoseconds from the beginning of 1970 to an instant that is no leap second. -/
def nanosSinceEpoch (t : Instant) : Int :=
  (((t.date.dayNumber * 24 + t.hour) * 60 + t.minute) * 60 + t.second) * 1000000000 + t.nano

theorem eq_of_compare_eq {t u : Instant} (h : t.compare u = .eq) : t = u := by
  cases t
  cases u
  simp [compare, Ordering.then_eq_eq] at h
  simpa [h] using Date.eq_of_compare_eq h.1

theorem compare_nanosSinceEpoch {t u : Instant} (ht : t.nano < 1000000000)
    (hu : u.nano < 1000000000) :
    Ord.compare t.nanosSinceEpoch u.nanosSinceEpoch = t.compare u := by
  have hnano {t : Instant} (h : t.nano < 1000000000) : (t.nano : Int) < 1000000000 :=
    Int.ofNat_lt.mpr h
  have hhour (t : Instant) : (t.hour : Int) < 24 := Int.ofNat_lt.mpr t.hour_lt
  have hminute (t : Instant) : (t.minute : Int) < 60 := Int.ofNat_lt.mpr t.minute_lt
  have hsecond (t : Instant) : (t.second : Int) < 60 := Int.ofNat_lt.mpr t.second_lt
  unfold nanosSinceEpoch compare
  rw [Decimal.compare_scaled_int (hnano ht) (hnano hu),
    Decimal.compare_scaled_int (hsecond t) (hsecond u),
    Decimal.compare_scaled_int (hminute t) (hminute u),
    Decimal.compare_scaled_int (hhour t) (hhour u), Date.compare_dayNumber]
  simp only [Ordering.then_assoc]

/-- An instant given by its seconds and nanoseconds is at that point of the line. -/
theorem nanosSinceEpoch_sinceEpoch (seconds nanos : Nat) :
    (sinceEpoch seconds nanos).nanosSinceEpoch =
      seconds * 1000000000 + (nanos % 1000000000 : Nat) := by
  have hday : (sinceEpoch seconds nanos).date.dayNumber = (seconds / 86400 : Nat) := by
    show (Date.epoch.daysLater (seconds / 86400)).dayNumber = _
    rw [Date.dayNumber_daysLater, Date.dayNumber_epoch]
    omega
  have hclock : ((seconds / 86400 * 24 + seconds / 3600 % 24) * 60 + seconds / 60 % 60) * 60 +
      seconds % 60 = seconds := by
    omega
  unfold nanosSinceEpoch
  rw [hday]
  simp only [sinceEpoch]
  omega

end Instant
end Noticeboard.Time
