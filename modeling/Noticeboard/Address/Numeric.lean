import Noticeboard.Decimal.Reading
import Noticeboard.Text.Hex

/-!
# Hosts that are numbers

A host may be written as a number.  The grouped form has eight groups of hexadecimal digits between
colons, of which some may be left out once; its last two groups may be written as four octets.  The
dotted form is four octets; where a name could stand, it is loose, and has up to four numbers in
three bases, the last of which fills what the others leave.
-/

namespace Noticeboard.Address.Numeric

/-- A number up to 255 without zeros in front. -/
def isOctet (text : List Char) : Bool :=
  text.all Decimal.isDigit && decide (Decimal.valueOfDigits text ≤ 255) &&
    (text.length == 1 || (text.length ≤ 3 && text.head?.any (· != '0')))

/-- Four octets with dots between them. -/
def isDotted (text : List Char) : Bool :=
  let parts := text.splitOn '.'
  parts.length == 4 && parts.all isOctet

def isGroup (text : List Char) : Bool :=
  !text.isEmpty && text.length ≤ 4 && text.all (Text.isDigitIn 16)

/-- Counts groups between colons; with `closed`, four octets may stand at the end and count as
two. -/
def countGroups? (closed : Bool) (text : List Char) : Option Nat :=
  if text.isEmpty then some 0
  else
    let parts := text.splitOn ':'
    let last := parts.getLastD []
    if !parts.dropLast.all isGroup then none
    else if isGroup last then some parts.length
    else if closed && isDotted last then some (parts.length + 1)
    else none

/-- Splits a text at the first two colons in a row. -/
def splitGap : List Char → List Char × Option (List Char)
  | ':' :: ':' :: rest => ([], some rest)
  | c :: rest =>
    let (before, after) := splitGap rest
    (c :: before, after)
  | [] => ([], none)

/-- Two colons in a row stand for at least one group that is left out. -/
def isGrouped (text : List Char) : Bool :=
  match splitGap text with
  | (all, none) => countGroups? true all == some 8
  | (before, some after) =>
    match countGroups? false before, countGroups? true after with
    | some n, some m => n + m < 8
    | _, _ => false

/-- A number in base ten, in base eight behind a zero, or in base sixteen behind `0x`. -/
def looseNumber? (text : List Char) : Option Nat :=
  let read (base : Nat) (digits : List Char) : Option Nat :=
    if digits.all (Text.isDigitIn base) then some (Text.inBase base digits) else none
  match text with
  | [] => none
  | '0' :: 'x' :: digits | '0' :: 'X' :: digits => read 16 digits
  | '0' :: digit :: digits => read 8 (digit :: digits)
  | digits => read 10 digits

/-- The labels of a host without an empty one at the end. -/
def dropLastDot (labels : List (List Char)) : List (List Char) :=
  if labels.getLast? = some [] then labels.dropLast else labels

/-- Whether the labels of a host are meant as a number. -/
def endsInNumber (labels : List (List Char)) : Bool :=
  let last := (dropLastDot labels).getLastD []
  (!last.isEmpty && last.all Decimal.isDigit) || (looseNumber? last).isSome

def isLooseDotted (labels : List (List Char)) : Bool :=
  match (dropLastDot labels).mapM looseNumber? with
  | none => false
  | some numbers =>
    let front := numbers.dropLast
    numbers.length ≤ 4 && front.all (· ≤ 255) &&
      decide (numbers.getLastD 0 < Nat.pow 256 (4 - front.length))

end Noticeboard.Address.Numeric
