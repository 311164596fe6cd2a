/-!
# The fewest digits that read back

A finite double is a binary number `mantissa * 2 ^ exponent`.  The reals that round to it form an
interval, and among the decimal numbers in that interval with the fewest digits `shortest` takes
the one nearest to the double.  All comparisons are made on whole numbers, after multiplying out
the powers of two and ten.
-/

namespace Noticeboard

/-- The positive number `digits * 10 ^ exponent`. -/
structure Decimal where
  digits : Nat
  exponent : Int
  deriving Repr, DecidableEq

/-- The number `mantissa * 2 ^ exponent`; `narrow` marks a power of two, whose gap below is half
of its gap above. -/
structure Binary where
  mantissa : Nat
  exponent : Int
  narrow : Bool
  deriving Repr, DecidableEq

namespace Binary

/-- Decodes the exponent and fraction fields of a finite double. -/
def ofFields (biased fraction : Nat) : Binary :=
  if biased = 0 then ⟨fraction, -1074, false⟩
  else ⟨0x10000000000000 + fraction, (biased : Int) - 1075, fraction == 0 && biased != 1⟩

/-- Writes `count * 2 ^ twos` over the unit `10 ^ tens`: the two whole numbers have that ratio. -/
def ratio (count : Nat) (twos tens : Int) : Nat × Nat :=
  (count * Nat.pow 2 twos.toNat * Nat.pow 10 (-tens).toNat,
    Nat.pow 2 (-twos).toNat * Nat.pow 10 tens.toNat)

/-- The least power of ten above the number, found from its length by at most one step. -/
def scale (x : Binary) : Int :=
  let (top, bottom) := ratio x.mantissa x.exponent 0
  let guess : Int := (toString top).length - (toString bottom).length
  let (top, bottom) := ratio x.mantissa x.exponent guess
  if bottom ≤ top then guess + 1 else guess

/-- The number of units `10 ^ tens` that reads back to `x`, if one of the two counts next to `x`
does; of two, the nearer one, and the even one when both are equally near. -/
def nearby? (x : Binary) (tens : Int) : Option Nat :=
  let (middle, unit) := ratio (4 * x.mantissa) (x.exponent - 2) tens
  let low := (ratio (4 * x.mantissa - if x.narrow then 1 else 2) (x.exponent - 2) tens).1
  let high := (ratio (4 * x.mantissa + 2) (x.exponent - 2) tens).1
  let inside (count : Nat) : Bool :=
    if x.mantissa % 2 = 0 then decide (low ≤ count * unit) && decide (count * unit ≤ high)
    else decide (low < count * unit) && decide (count * unit < high)
  let below := middle / unit
  let above := below + 1
  match inside below, inside above with
  | false, false => none
  | true, false => some below
  | false, true => some above
  | true, true =>
    let down := middle - below * unit
    let up := above * unit - middle
    if down < up then some below
    else if up < down then some above
    else if below % 2 = 0 then some below else some above

/-- Tries one digit, two digits and so on; seventeen always suffice for a double. -/
def shortest (x : Binary) : Decimal :=
  let top := x.scale
  let found := (List.range 17).findSome? fun (places : Nat) =>
    let tens := top - 1 - (places : Int)
    (x.nearby? tens).map fun digits => Decimal.mk digits tens
  found.getD ⟨(ratio x.mantissa x.exponent 0).1 / (ratio x.mantissa x.exponent 0).2, 0⟩

end Binary

/-- What the bits of a double stand for. -/
inductive Magnitude where
  | nan
  | infinite
  | finite (value : Binary)

def Magnitude.ofFloat (x : Float) : Magnitude :=
  let bits := x.toBits.toNat % 0x8000000000000000
  let biased := bits / 0x10000000000000
  let fraction := bits % 0x10000000000000
  if biased = 2047 then (if fraction = 0 then .infinite else .nan)
  else .finite (Binary.ofFields biased fraction)

def isSigned (x : Float) : Bool :=
  decide (0x8000000000000000 ≤ x.toBits.toNat)

end Noticeboard
