/-!
# Calendar dates

Dates of the Gregorian calendar, extended to all years before and after.  A `Date` always names a
day that exists.
-/

namespace Noticeboard.Time

def isLeap (year : Int) : Bool :=
  (year % 4 == 0 && year % 100 != 0) || year % 400 == 0

def daysIn (year : Int) (month : Nat) : Nat :=
  match month with
  | 2 => if isLeap year then 29 else 28
  | 4 | 6 | 9 | 11 => 30
  | _ => 31

theorem daysIn_pos (year : Int) (month : Nat) : 1 ≤ daysIn year month := by
  unfold daysIn
  split <;> try split
  all_goals decide

structure Date where
  year : Int
  month : Nat
  day : Nat
  month_valid : 1 ≤ month ∧ month ≤ 12 := by decide
  day_valid : 1 ≤ day ∧ day ≤ daysIn year month := by decide
  deriving DecidableEq

namespace Date

def ofFields? (year : Int) (month day : Nat) : Option Date :=
  if hmonth : 1 ≤ month ∧ month ≤ 12 then
    if hday : 1 ≤ day ∧ day ≤ daysIn year month then some ⟨year, month, day, hmonth, hday⟩
    else none
  else none

def next (d : Date) : Date :=
  if hday : d.day + 1 ≤ daysIn d.year d.month then
    ⟨d.year, d.month, d.day + 1, d.month_valid, ⟨by omega, hday⟩⟩
  else if hmonth : d.month + 1 ≤ 12 then
    ⟨d.year, d.month + 1, 1, ⟨by omega, hmonth⟩, ⟨Nat.le_refl 1, daysIn_pos _ _⟩⟩
  else
    ⟨d.year + 1, 1, 1, by decide, ⟨Nat.le_refl 1, daysIn_pos _ _⟩⟩

def previous (d : Date) : Date :=
  if hday : 1 ≤ d.day - 1 then
    ⟨d.year, d.month, d.day - 1, d.month_valid,
      ⟨hday, Nat.le_trans (Nat.sub_le _ _) d.day_valid.2⟩⟩
  else if hmonth : 1 ≤ d.month - 1 then
    ⟨d.year, d.month - 1, daysIn d.year (d.month - 1),
      ⟨hmonth, Nat.le_trans (Nat.sub_le _ _) d.month_valid.2⟩, ⟨daysIn_pos _ _, Nat.le_refl _⟩⟩
  else
    ⟨d.year - 1, 12, daysIn (d.year - 1) 12, by decide, ⟨daysIn_pos _ _, Nat.le_refl _⟩⟩

/-- The first day of 1970. -/
def epoch : Date :=
  ⟨1970, 1, 1, by decide, by decide⟩

def daysLater (date : Date) (days : Nat) : Date :=
  Nat.repeat next days date

def compare (a b : Date) : Ordering :=
  (Ord.compare a.year b.year).then
    ((Ord.compare a.month b.month).then (Ord.compare a.day b.day))

end Date
end Noticeboard.Time
