import Noticeboard.Decimal.Reading
import Noticeboard.Json.Value
import Noticeboard.Text.Hex

/-!
# Reading data values

`Json.parse?` reads one value and nothing after it.  A whole number is kept exact between `-2^63`
and `2^64 - 1` and is a double beyond, as is `-0`.  Other numbers are doubles too: their leading
digits, as many as fit in 64 bits, are rounded to a double, which is then scaled by a power of ten,
so that the last place may be off.  Of two members with one key the later one counts.
-/

namespace Noticeboard
namespace Json

def isSpace (c : Char) : Bool :=
  c == ' ' || c == '\n' || c == '\t' || c == '\r'

def skipSpace (text : List Char) : List Char :=
  text.dropWhile isSpace

def hexUnit? (a b c d : Char) : Option Nat := do
  let a ← Text.hexValue? a
  let b ← Text.hexValue? b
  let c ← Text.hexValue? c
  let d ← Text.hexValue? d
  return 4096 * a + 256 * b + 16 * c + d

/-- The character of a surrogate pair. -/
def pairedChar? (high low : Nat) : Option Char :=
  if 0xD800 ≤ high ∧ high < 0xDC00 ∧ 0xDC00 ≤ low ∧ low < 0xE000 then
    some (Char.ofNat (0x10000 + (high - 0xD800) * 1024 + (low - 0xDC00)))
  else none

def plainChar? (unit : Nat) : Option Char :=
  if 0xD800 ≤ unit ∧ unit < 0xE000 then none else some (Char.ofNat unit)

def shortEscape? (c : Char) : Option Char :=
  if c = '"' ∨ c = '\\' ∨ c = '/' then some c
  else if c = 'n' then some '\n'
  else if c = 't' then some '\t'
  else if c = 'r' then some '\r'
  else if c = 'b' then some (Char.ofNat 8)
  else if c = 'f' then some (Char.ofNat 12)
  else none

def addChar (c : Char) (read : List Char × List Char) : List Char × List Char :=
  (c :: read.1, read.2)

/-- Reads the rest of a text up to its closing quote. -/
def readText? : List Char → Option (List Char × List Char)
  | [] => none
  | '"' :: rest => some ([], rest)
  | '\\' :: 'u' :: a :: b :: c :: d :: '\\' :: 'u' :: e :: f :: g :: h :: rest =>
    match (hexUnit? a b c d).bind plainChar? with
    | some read => (readText? ('\\' :: 'u' :: e :: f :: g :: h :: rest)).map (addChar read)
    | none => do
      let read ← pairedChar? (← hexUnit? a b c d) (← hexUnit? e f g h)
      (readText? rest).map (addChar read)
  | '\\' :: 'u' :: a :: b :: c :: d :: rest => do
    let read ← (hexUnit? a b c d).bind plainChar?
    (readText? rest).map (addChar read)
  | '\\' :: c :: rest => do
    let read ← shortEscape? c
    (readText? rest).map (addChar read)
  | c :: rest => if c.toNat < 32 then none else (readText? rest).map (addChar c)

/-- Reads the digits in front behind `value`, as many as fit in 64 bits. -/
def takeFitting (value : Nat) : List Char → Nat × List Char
  | [] => (value, [])
  | c :: rest =>
    let next := 10 * value + Decimal.digitValue c
    if Decimal.isSize next then takeFitting next rest else (value, c :: rest)

/-- The greatest power of ten that a double is scaled by at once. -/
def powerLimit : Nat :=
  308

/-- Scales a double by a power of ten; too great a number is none.  Four steps bring any double of
64 bits down to zero. -/
def scale? (x : Float) (power : Int) : Nat → Option Float
  | 0 => some x
  | steps + 1 =>
    let factor (power : Nat) : Float := Decimal.toFloat ⟨1, power⟩
    if power.natAbs ≤ powerLimit then
      if power < 0 then some (x / factor power.natAbs)
      else
        let y := x * factor power.natAbs
        if y.isInf then none else some y
    else if x == 0.0 then some x
    else if 0 ≤ power then none
    else scale? (x / factor powerLimit) (power + powerLimit) steps

/-- The double that stands for a number in digits. -/
def real? (negative : Bool) (whole fraction : List Char) (power : Int) : Option Float :=
  let (digits, left) := takeFitting 0 whole
  let (digits, passed) := takeFitting digits fraction
  let power := left.length - (fraction.length - passed.length) + power
  (scale? (UInt64.ofNat digits).toFloat power 4).map fun x => if negative then -x else x

def wholeNumber? (negative : Bool) (digits : List Char) : Option Number :=
  let size : Int := Decimal.valueOfDigits digits
  let value := if negative then -size else size
  if negative && size = 0 then some (.real (-0.0))
  else if Decimal.isInt64 value || Decimal.isSize value then some (.whole value)
  else (real? negative digits [] 0).map .real

/-- The fraction digits after a point, if there is one. -/
def readFraction? : List Char → Option (Option (List Char) × List Char)
  | '.' :: rest =>
    let (digits, rest) := Decimal.takeDigits rest
    if digits.isEmpty then none else some (some digits, rest)
  | text => some (none, text)

/-- The power of ten after an `e`, if there is one. -/
def readPower? : List Char → Option (Option Int × List Char)
  | c :: rest =>
    if c = 'e' ∨ c = 'E' then
      let (negative, rest) := Decimal.takeSign rest
      let (digits, rest) := Decimal.takeDigits rest
      let size : Int := Decimal.valueOfDigits digits
      if digits.isEmpty then none else some (some (if negative then -size else size), rest)
    else some (none, c :: rest)
  | [] => some (none, [])

def readNumber? (text : List Char) : Option (Number × List Char) := do
  let (negative, rest) := match text with
    | '-' :: rest => (true, rest)
    | _ => (false, text)
  let (whole, rest) := Decimal.takeDigits rest
  if whole.isEmpty || (whole.length > 1 && whole.head? == some '0') then none
  else
    let (fraction, rest) ← readFraction? rest
    let (power, rest) ← readPower? rest
    let number ← if fraction.isNone && power.isNone then wholeNumber? negative whole
      else (real? negative whole (fraction.getD []) (power.getD 0)).map .real
    return (number, rest)

/-- The rest after a fixed word. -/
def afterWord? (word text : List Char) : Option (List Char) :=
  if word.isPrefixOf text then some (text.drop word.length) else none

mutual

/-- Reads a value; `depth` bounds how many nested or neighbouring values may follow. -/
def readValue? (depth : Nat) (text : List Char) : Option (Json × List Char) :=
  match depth with
  | 0 => none
  | depth + 1 =>
    match skipSpace text with
    | '"' :: rest => (readText? rest).map fun read => (.str (String.ofList read.1), read.2)
    | '[' :: rest =>
      match skipSpace rest with
      | ']' :: rest => some (.arr [], rest)
      | _ => (readItems? depth rest).map fun read => (.arr read.1, read.2)
    | '{' :: rest =>
      match skipSpace rest with
      | '}' :: rest => some (.obj [], rest)
      | _ => (readMembers? depth rest).map fun read => (object read.1, read.2)
    | 'n' :: rest => (afterWord? ['u', 'l', 'l'] rest).map fun rest => (.null, rest)
    | 't' :: rest => (afterWord? ['r', 'u', 'e'] rest).map fun rest => (.bool true, rest)
    | 'f' :: rest => (afterWord? ['a', 'l', 's', 'e'] rest).map fun rest => (.bool false, rest)
    | text => (readNumber? text).map fun read => (.num read.1, read.2)

/-- Reads the items of a list up to its closing bracket. -/
def readItems? (depth : Nat) (text : List Char) : Option (List Json × List Char) :=
  match depth with
  | 0 => none
  | depth + 1 => do
    let (item, rest) ← readValue? depth text
    match skipSpace rest with
    | ',' :: rest => (readItems? depth rest).map fun read => (item :: read.1, read.2)
    | ']' :: rest => some ([item], rest)
    | _ => none

/-- Reads the members of an object up to its closing brace. -/
def readMembers? (depth : Nat) (text : List Char) :
    Option (List (String × Json) × List Char) :=
  match depth with
  | 0 => none
  | depth + 1 =>
    match skipSpace text with
    | '"' :: rest => do
      let (key, rest) ← readText? rest
      match skipSpace rest with
      | ':' :: rest => do
        let (value, rest) ← readValue? depth rest
        let entry := (String.ofList key, value)
        match skipSpace rest with
        | ',' :: rest => (readMembers? depth rest).map fun read => (entry :: read.1, read.2)
        | '}' :: rest => some ([entry], rest)
        | _ => none
      | _ => none
    | _ => none

end

/-- Reads a text that holds exactly one value. -/
def parse? (text : String) : Option Json := do
  let characters := text.toList
  let (value, rest) ← readValue? (2 * characters.length + 2) characters
  if (skipSpace rest).isEmpty then some value else none

end Json
end Noticeboard
