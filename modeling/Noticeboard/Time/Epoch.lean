import Noticeboard.Time.Instant

/-!
# Counting from the epoch
-/

namespace Noticeboard.Time

/-- The instant so many seconds and nanoseconds after the epoch. -/
def Instant.sinceEpoch (seconds nanos : Nat) : Instant where
  date := Date.epoch.daysLater (seconds / 86400)
  hour := seconds / 3600 % 24
  minute := seconds / 60 % 60
  second := seconds % 60
  nano := nanos % 1000000000
  hour_lt := Nat.mod_lt _ (by decide)
  minute_lt := Nat.mod_lt _ (by decide)
  second_lt := Nat.mod_lt _ (by decide)
  nano_lt := Nat.lt_trans (Nat.mod_lt _ (by decide)) (by decide)

end Noticeboard.Time
