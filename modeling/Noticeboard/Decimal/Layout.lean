import Noticeboard.Decimal.Shortest

/-!
# How digits are laid out

A `Layout` holds the choices a number format makes once the digits are known: which magnitudes are
written positionally, and what follows a number without a fractional part.
-/

namespace Noticeboard

/-- The choices of a number format.  `positional` gets the power of ten of the leading digit. -/
structure Layout where
  positional : Int → Bool
  wholeEnding : String

namespace Layout

def zeros (count : Int) : String :=
  String.ofList (List.replicate count.toNat '0')

/-- Drops the zeros at the end of the digits and counts them into the exponent. -/
def strip (number : Decimal) : Decimal :=
  let digits := (toString number.digits).toList
  let kept := (digits.reverse.dropWhile (· == '0')).reverse
  let dropped := digits.length - kept.length
  ⟨number.digits / Nat.pow 10 dropped, number.exponent + dropped⟩

def layOut (layout : Layout) (number : Decimal) : String :=
  let number := strip number
  let digits := toString number.digits
  let whole : Int := digits.length + number.exponent
  if layout.positional (whole - 1) then
    if 0 ≤ number.exponent then digits ++ zeros number.exponent ++ layout.wholeEnding
    else if 0 < whole then
      String.ofList (digits.toList.take whole.toNat) ++ "." ++
        String.ofList (digits.toList.drop whole.toNat)
    else "0." ++ zeros (-whole) ++ digits
  else
    let lead := String.ofList (digits.toList.take 1)
    let rest := String.ofList (digits.toList.drop 1)
    let power := whole - 1
    lead ++ (if rest.isEmpty then "" else "." ++ rest) ++ "e" ++
      (if power < 0 then "-" else "+") ++ toString power.natAbs

/-- The text of a double under a layout. -/
def render (layout : Layout) (x : Float) : String :=
  let sign := if isSigned x then "-" else ""
  match Magnitude.ofFloat x with
  | .nan => "NaN"
  | .infinite => sign ++ "inf"
  | .finite value =>
    if value.mantissa = 0 then sign ++ "0" ++ layout.wholeEnding
    else sign ++ layout.layOut value.shortest

end Layout

/-- Numbers in messages: always positional, and a whole number has no point. -/
def Layout.plain : Layout := ⟨fun _ => true, ""⟩

/-- Numbers in data: positional from `0.00001` up to sixteen whole digits, with `.0` after a whole
number, and otherwise with a signed exponent. -/
def Layout.data : Layout := ⟨fun power => decide (-5 ≤ power) && decide (power ≤ 15), ".0"⟩

end Noticeboard
