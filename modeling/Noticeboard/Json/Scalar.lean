import Noticeboard.Json.Problem

/-!
# Reading single values

Each reader accepts one kind of data value and says what it wanted otherwise.
-/

namespace Noticeboard.Json

def readText : Json → Except Problem String
  | .str value => .ok value
  | value => .error (.wrongType value "a string")

def readBool : Json → Except Problem Bool
  | .bool value => .ok value
  | value => .error (.wrongType value "a boolean")

/-- A whole number within 64 signed bits. -/
def readInt64 : Json → Except Problem Int64
  | .num (.whole n) =>
    if Decimal.isInt64 n then .ok (Int64.ofInt n)
    else .error (.wrongValue (.whole n) "i64")
  | value => .error (.wrongType value "i64")

/-- A whole number within 64 unsigned bits. -/
def readSize : Json → Except Problem UInt64
  | .num (.whole n) =>
    if Decimal.isSize n then .ok (UInt64.ofNat n.toNat)
    else .error (.wrongValue (.whole n) "usize")
  | value => .error (.wrongType value "usize")

/-- Any number; a whole one becomes the nearest double. -/
def readFloat : Json → Except Problem Float
  | .num (.real x) => .ok x
  | .num (.whole n) => .ok (Float.ofInt n)
  | value => .error (.wrongType value "f64")

def readInstant : Json → Except Problem Time.Instant
  | .str value =>
    match Time.readInstant value with
    | .ok instant => .ok instant
    | .error fault => .error (.instant fault)
  | value => .error (.wrongType value "an RFC 3339 formatted date and time string")

/-- Null stands for the absence of a value. -/
def readOptional (read : Json → Except Problem α) : Json → Except Problem (Option α)
  | .null => .ok none
  | value => (read value).map some

/-- Takes any value as it is; null again stands for none. -/
def readAny? : Json → Except Problem (Option Json)
  | .null => .ok none
  | value => .ok (some value)

end Noticeboard.Json
