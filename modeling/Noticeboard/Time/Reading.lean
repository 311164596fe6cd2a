import Noticeboard.Decimal.Reading
import Noticeboard.Text.Blank
import Noticeboard.Text.ByteSize
import Noticeboard.Time.Instant

/-!
# Reading instants

There are two grammars.  Stored timestamps follow the strict one, with a fixed number of digits
for each field.  Data from outside may leave out leading zeros, put blanks around its fields, give
a year a sign and any number of digits, and name universal time as `UTC`.

The strict grammar checks the date and the time of day when all their fields have been read, and
the offset when nothing follows it.  The other one checks each field as it is read, and whether the
day exists once the whole text is known.
-/

namespace Noticeboard.Time

/-- Why a text is no instant. -/
inductive Fault where
  | outOfRange
  | impossible
  | invalid
  | tooShort
  | tooLong
  deriving Repr, DecidableEq

def Fault.message : Fault → String
  | .outOfRange => "input is out of range"
  | .impossible => "no possible date and time matching input"
  | .invalid => "input contains invalid characters"
  | .tooShort => "premature end of input"
  | .tooLong => "trailing input"

/-- A reader takes characters off the front of a text, or refuses it. -/
abbrev Scan := StateT (List Char) (Except Fault)

/-- Whether a text has fewer bytes than this in its written form. -/
def shorterThan (bytes : Nat) (text : List Char) : Bool :=
  decide (Text.byteSize (text.take bytes) < bytes)

/-- Reads between `least` and `most` digits. -/
def scanNumber (least most : Nat) : Scan Nat := fun text =>
  let digits := (text.take most).takeWhile Decimal.isDigit
  let value := Decimal.valueOfDigits digits
  if shorterThan least text then .error .tooShort
  else if digits.length < least then .error .invalid
  else if 0x8000000000000000 ≤ value then .error .outOfRange
  else .ok (value, text.drop digits.length)

/-- Takes one character that passes the test. -/
def scanChar (accepts : Char → Bool) : Scan Unit := fun text =>
  match text with
  | [] => .error .tooShort
  | c :: rest => if accepts c then .ok ((), rest) else .error .invalid

def scanMark (mark : Char) : Scan Unit :=
  scanChar (· == mark)

/-- The mark between a date and a time of day. -/
def scanJoin : Scan Unit :=
  scanChar fun c => c == 'T' || c == 't' || c == ' '

def skipBlanks : Scan Unit :=
  modify Text.trimStart

/-- Reads a number that has to lie between `low` and `high`. -/
def bounded (low high : Nat) (number : Scan Nat) : Scan Nat := do
  let n ← number
  if low ≤ n ∧ n ≤ high then return n else throw .outOfRange

/-- A date and a time of day as they stand in a text. -/
structure Fields where
  year : Int
  month : Nat
  day : Nat
  hour : Nat
  minute : Nat
  second : Nat
  nano : Nat

/-- The nanoseconds after a point, if there is one; digits past the ninth are dropped. -/
def scanFraction : Scan Nat := do
  match ← get with
  | '.' :: text =>
    set text
    let value ← scanNumber 1 9
    let given := text.length - (← get).length
    modify fun rest => rest.dropWhile Decimal.isDigit
    return value * Nat.pow 10 (9 - given)
  | _ => return 0

/-- Takes a sign; the answer tells whether the offset lies behind universal time. -/
def scanSign : Scan Bool := fun text =>
  match text with
  | '+' :: rest => .ok (false, rest)
  | '-' :: rest => .ok (true, rest)
  | '\u2212' :: rest => .ok (true, rest)
  | _ :: _ => .error .invalid
  | [] => .error .tooShort

/-- The signed minutes of an offset, with `between` taking what stands before the minutes. -/
def scanOffset (between : Scan Unit) : Scan Int := do
  let behind ← scanSign
  let hours ← scanNumber 2 2
  between
  let minutes ← bounded 0 59 (scanNumber 2 2)
  let size : Int := hours * 60 + minutes
  return if behind then -size else size

def minYear : Int := -262143

def maxYear : Int := 262142

/-- The clock that shows a time of day on a date; the sixtieth second is a leap second. -/
def clockOn (date : Date) (hour minute second nano : Nat) : Except Fault Instant :=
  let leap := second == 60
  let second := if leap then 59 else second
  let nano := if leap then nano + 1000000000 else nano
  if h : hour < 24 ∧ minute < 60 ∧ second < 60 ∧ nano < 2000000000 then
    .ok ⟨date, hour, minute, second, nano, h.1, h.2.1, h.2.2.1, h.2.2.2⟩
  else .error .outOfRange

/-- The instant at which a clock that is `offset` minutes ahead shows what it does. -/
def universal (clock : Instant) (offset : Int) : Except Fault Instant :=
  let instant := clock.ofLocal offset
  if offset ≤ -1440 ∨ 1440 ≤ offset then .error .outOfRange
  else if instant.date.year < minYear ∨ maxYear < instant.date.year then .error .impossible
  else .ok instant

/-- Puts the fields together, once all have been read. -/
def Fields.instant (fields : Fields) (offset : Int) : Except Fault Instant :=
  if fields.year < minYear ∨ maxYear < fields.year then .error .outOfRange
  else
    match Date.ofFields? fields.year fields.month fields.day with
    | none => .error .outOfRange
    | some date => do
      let clock ← clockOn date fields.hour fields.minute fields.second fields.nano
      universal clock offset

namespace Strict

/-- The written form up to the seconds, which every stored timestamp has. -/
def leastBytes : Nat := 19

def scanDate : Scan Date := do
  let year ← scanNumber 4 4
  scanMark '-'
  let month ← scanNumber 2 2
  scanMark '-'
  let day ← scanNumber 2 2
  match Date.ofFields? year month day with
  | some date => return date
  | none => throw .outOfRange

def scanClock : Scan Instant := do
  let date ← scanDate
  scanJoin
  let hour ← scanNumber 2 2
  scanMark ':'
  let minute ← scanNumber 2 2
  scanMark ':'
  let second ← scanNumber 2 2
  let nano ← scanFraction
  clockOn date hour minute second nano

def scanZone : Scan Int := do
  match ← get with
  | 'Z' :: rest => set rest; return 0
  | 'z' :: rest => set rest; return 0
  | _ => scanOffset (scanMark ':')

end Strict

/-- Reads a stored timestamp. -/
def readStored (text : String) : Except Fault Instant := do
  if shorterThan Strict.leastBytes text.toList then throw .tooShort
  let (clock, rest) ← Strict.scanClock.run text.toList
  let (offset, rest) ← Strict.scanZone.run rest
  if rest.isEmpty then universal clock offset else throw .tooLong

namespace Relaxed

/-- A number of at most two digits after any blanks. -/
def scanPart : Scan Nat := do
  skipBlanks
  scanNumber 1 2

/-- A year after any blanks: four digits at most, or a sign and any number of digits. -/
def scanYear : Scan Int := do
  skipBlanks
  match ← get with
  | '-' :: rest =>
    set rest
    let year ← scanNumber 1 rest.length
    if 0x80000000 < year then throw .outOfRange
    return -(year : Int)
  | '+' :: rest =>
    set rest
    let year ← scanNumber 1 rest.length
    if 0x80000000 ≤ year then throw .outOfRange
    return year
  | _ =>
    let year ← scanNumber 1 4
    return year

/-- A mark after any blanks. -/
def scanSpacedMark (mark : Char) : Scan Unit := do
  skipBlanks
  scanMark mark

def scanFields : Scan Fields := do
  let year ← scanYear
  scanSpacedMark '-'
  let month ← bounded 1 12 scanPart
  scanSpacedMark '-'
  let day ← bounded 1 31 scanPart
  scanJoin
  let hour ← bounded 0 23 scanPart
  scanSpacedMark ':'
  let minute ← bounded 0 59 scanPart
  scanSpacedMark ':'
  let second ← bounded 0 60 scanPart
  let nano ← scanFraction
  skipBlanks
  return ⟨year, month, day, hour, minute, second, nano⟩

/-- Colons and blanks may stand between the hours and the minutes of an offset. -/
def skipColons : Scan Unit :=
  modify fun text => text.dropWhile fun c => c == ':' || Text.isBlank c

def spellsUniversal (u t c : Char) : Bool :=
  (u == 'U' || u == 'u') && (t == 'T' || t == 't') && (c == 'C' || c == 'c')

/-- The offset, and any blanks behind it. -/
def scanZone : Scan Int := do
  let offset ← (do
    match ← get with
    | 'Z' :: rest => set rest; return 0
    | 'z' :: rest => set rest; return 0
    | u :: t :: c :: rest =>
      if spellsUniversal u t c then
        set rest
        return 0
      else scanOffset skipColons
    | _ => scanOffset skipColons : Scan Int)
  skipBlanks
  return offset

end Relaxed

/-- Reads an instant from outside data. -/
def readInstant (text : String) : Except Fault Instant := do
  let (fields, rest) ← Relaxed.scanFields.run text.toList
  let (offset, rest) ← Relaxed.scanZone.run rest
  if rest.isEmpty then fields.instant offset else throw .tooLong

end Noticeboard.Time
