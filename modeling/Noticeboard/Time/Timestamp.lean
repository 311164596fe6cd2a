import Noticeboard.Time.Instant

/-!
# Writing instants

An instant is written as a date and a time of day joined by `T`, ending in `Z`.  Stored timestamps
always have six fraction digits, so that the order of the texts is the order of the instants;
elsewhere an instant has the fewest of zero, three, six and nine that lose nothing.
-/

namespace Noticeboard.Time

/-- The number in decimal, with zeros in front up to the given width. -/
def padded (width n : Nat) : List Char :=
  let digits := Nat.toDigits 10 n
  List.replicate (width - digits.length) '0' ++ digits

/-- Four digits for the years 0 to 9999; every other year has a sign. -/
def yearText (year : Int) : List Char :=
  if 0 ≤ year ∧ year ≤ 9999 then padded 4 year.toNat
  else (if year < 0 then '-' else '+') :: padded 4 year.natAbs

def Date.chars (d : Date) : List Char :=
  yearText d.year ++ '-' :: padded 2 d.month ++ '-' :: padded 2 d.day

namespace Instant

/-- The seconds shown: a leap second is the sixtieth. -/
def shownSecond (t : Instant) : Nat :=
  if t.nano < 1000000000 then t.second else t.second + 1

def shownNano (t : Instant) : Nat :=
  t.nano % 1000000000

def clockChars (t : Instant) : List Char :=
  t.date.chars ++ 'T' :: padded 2 t.hour ++ ':' :: padded 2 t.minute ++
    ':' :: padded 2 t.shownSecond

/-- The written form with as few fraction digits as the instant needs. -/
def text (t : Instant) : String :=
  let nano := t.shownNano
  let fraction :=
    if nano = 0 then []
    else if nano % 1000000 = 0 then '.' :: padded 3 (nano / 1000000)
    else if nano % 1000 = 0 then '.' :: padded 6 (nano / 1000)
    else '.' :: padded 9 nano
  String.ofList (t.clockChars ++ fraction ++ ['Z'])

/-- The written form that is stored, with six fraction digits. -/
def storedText (t : Instant) : String :=
  String.ofList (t.clockChars ++ '.' :: padded 6 (t.shownNano / 1000) ++ ['Z'])

end Instant
end Noticeboard.Time
