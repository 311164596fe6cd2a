import Noticeboard.Decimal.Shortest

/-!
# Reading decimal numbers

`Decimal.toFloat` rounds a decimal number to the nearest double; far too large or too small a power
of ten is decided before any power is computed.  The digit readers below are shared by every
grammar in which numbers occur.
-/

namespace Noticeboard

def Decimal.infinity : Float := Float.ofBits 0x7FF0000000000000

/-- The double nearest to the number. -/
def Decimal.toFloat (number : Decimal) : Float :=
  let top : Int := (toString number.digits).length + number.exponent
  if number.digits = 0 then 0.0
  else if 320 < top then infinity
  else if top < -340 then 0.0
  else if 0 ≤ number.exponent then Float.ofScientific number.digits false number.exponent.toNat
  else Float.ofScientific number.digits true (-number.exponent).toNat

namespace Decimal

def isDigit (c : Char) : Bool :=
  decide ('0' ≤ c) && decide (c ≤ '9')

def digitValue (c : Char) : Nat :=
  c.toNat - '0'.toNat

/-- The number written by decimal digits. -/
def valueOfDigits (digits : List Char) : Nat :=
  digits.foldl (fun value c => 10 * value + digitValue c) 0

/-- Splits off the digits in front. -/
def takeDigits (text : List Char) : List Char × List Char :=
  (text.takeWhile isDigit, text.dropWhile isDigit)

/-- Splits off a sign in front; without one the number is positive. -/
def takeSign : List Char → Bool × List Char
  | '-' :: rest => (true, rest)
  | '+' :: rest => (false, rest)
  | text => (false, text)

/-- A whole number: an optional sign and at least one digit, and nothing else. -/
def readInt? (text : List Char) : Option Int :=
  let (negative, digits) := takeSign text
  if digits.isEmpty || !digits.all isDigit then none
  else some (if negative then -(valueOfDigits digits : Int) else valueOfDigits digits)

/-- Whether a number fits in 64 bits with a sign. -/
def isInt64 (n : Int) : Bool :=
  decide (-0x8000000000000000 ≤ n) && decide (n < 0x8000000000000000)

/-- Whether a number fits in 64 bits without a sign. -/
def isSize (n : Int) : Bool :=
  decide (0 ≤ n) && decide (n < 0x10000000000000000)

/-- A whole number of 64 bits with a sign. -/
def readInt64? (text : List Char) : Option Int :=
  (readInt? text).filter isInt64

/-- A whole number of 64 bits without a sign; a minus is not taken, even before zero. -/
def readSize? (text : List Char) : Option Nat :=
  match text with
  | '-' :: _ => none
  | text => ((readInt? text).filter isSize).map Int.toNat

/-- The number written by whole digits, fraction digits and a power of ten. -/
def ofParts (negative : Bool) (whole fraction : List Char) (power : Int) : Float :=
  let size := Decimal.toFloat ⟨valueOfDigits (whole ++ fraction), power - fraction.length⟩
  if negative then -size else size

end Decimal
end Noticeboard
