import Noticeboard.Time.Date

/-!
# Instants

An instant is a date and a time of day in universal time, to the nanosecond.  A leap second counts
as the second before it with a full second or more of nanoseconds, so the order of instants is the
order of their fields.
-/

namespace Noticeboard.Time

structure Instant where
  date : Date
  hour : Nat
  minute : Nat
  second : Nat
  nano : Nat
  hour_lt : hour < 24 := by decide
  minute_lt : minute < 60 := by decide
  second_lt : second < 60 := by decide
  nano_lt : nano < 2000000000 := by decide
  deriving DecidableEq

namespace Instant

def compare (a b : Instant) : Ordering :=
  (a.date.compare b.date).then
    ((Ord.compare a.hour b.hour).then
      ((Ord.compare a.minute b.minute).then
        ((Ord.compare a.second b.second).then (Ord.compare a.nano b.nano))))

/-- Drops what a microsecond cannot hold. -/
def toMicros (t : Instant) : Instant :=
  { t with
    nano := t.nano - t.nano % 1000
    nano_lt := Nat.lt_of_le_of_lt (Nat.sub_le _ _) t.nano_lt }

/-- The instant at which a clock that runs `minutes` ahead of universal time shows `local`.  The
two differ by less than a day. -/
def ofLocal (clock : Instant) (minutes : Int) : Instant :=
  let total : Int := (clock.hour * 60 + clock.minute : Nat) - minutes
  let date :=
    if total < 0 then clock.date.previous
    else if 1440 ≤ total then clock.date.next
    else clock.date
  let within := (total % 1440).toNat
  { clock with
    date := date
    hour := within / 60 % 24
    minute := within % 60
    hour_lt := Nat.mod_lt _ (by decide)
    minute_lt := Nat.mod_lt _ (by decide) }

/-- The instant on a clock without leap seconds, where a leap second falls into the second after
it. -/
def withoutLeap (t : Instant) : Instant :=
  if ht : t.nano < 1000000000 then t
  else
    have hnano : t.nano - 1000000000 < 2000000000 := Nat.lt_of_le_of_lt (Nat.sub_le _ _) t.nano_lt
    if hsecond : t.second + 1 < 60 then
      { t with
        second := t.second + 1
        nano := t.nano - 1000000000
        second_lt := hsecond
        nano_lt := hnano }
    else
      { t.ofLocal (-1) with
        second := 0
        nano := t.nano - 1000000000
        second_lt := by decide
        nano_lt := hnano }

end Instant
end Noticeboard.Time
