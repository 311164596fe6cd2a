import Noticeboard.Decimal.Reading
import Noticeboard.Json.Reader
import Noticeboard.Time.Reading
import Noticeboard.Toml.Document

/-!
# Single values in settings documents

Numbers with underscores between their digits, whole numbers in four bases, times, and the four
ways of quoting a text.
-/

namespace Noticeboard.Toml

/-- Removes underscores, each of which has to stand between two digits. -/
def plainDigits? (isDigit : Char → Bool) : List Char → Option (List Char)
  | [] => none
  | [c] => if isDigit c then some [c] else none
  | c :: '_' :: rest =>
    if isDigit c then (plainDigits? isDigit rest).map (c :: ·) else none
  | c :: rest => if isDigit c then (plainDigits? isDigit rest).map (c :: ·) else none

def decimalDigits? : List Char → Option (List Char) :=
  plainDigits? Decimal.isDigit

/-- Whole digits may not begin with a zero that has more digits behind it. -/
def leadingDigits? (text : List Char) : Option (List Char) := do
  let digits ← decimalDigits? text
  if digits.length > 1 && digits.head? == some '0' then none else some digits

def wholeIn? (base : Nat) (text : List Char) : Option Int := do
  let digits ← plainDigits? (Text.isDigitIn base) text
  return Text.inBase base digits

/-- A whole number of 64 signed bits. -/
def whole? (text : List Char) : Option Int := do
  let n ← match text with
    | '0' :: 'x' :: digits => wholeIn? 16 digits
    | '0' :: 'o' :: digits => wholeIn? 8 digits
    | '0' :: 'b' :: digits => wholeIn? 2 digits
    | _ => do
      let (negative, digits) := Decimal.takeSign text
      let digits ← leadingDigits? digits
      let size : Int := Decimal.valueOfDigits digits
      pure (if negative then -size else size)
  if Decimal.isInt64 n then some n else none

def isPowerMark (c : Char) : Bool :=
  c == 'e' || c == 'E'

/-- A power of ten behind its mark; without a mark the power is zero. -/
def power? : List Char → Option Int
  | [] => some 0
  | _ :: text => do
    let (negative, digits) := Decimal.takeSign text
    let digits ← decimalDigits? digits
    let size : Int := Decimal.valueOfDigits digits
    return if negative then -size else size

/-- A number with a fraction or a power of ten, an infinity, or the lack of a number.  Digits may
round to the negative infinity but not to the positive one. -/
def real? (text : List Char) : Option Float := do
  let (negative, unsigned) := Decimal.takeSign text
  let signed (x : Float) : Float := if negative then -x else x
  if unsigned = ['i', 'n', 'f'] then return signed Decimal.infinity
  if unsigned = ['n', 'a', 'n'] then return 0.0 / 0.0
  let body := unsigned.takeWhile fun c => !isPowerMark c
  let power := unsigned.dropWhile fun c => !isPowerMark c
  let whole := body.takeWhile (· != '.')
  let fraction := body.dropWhile (· != '.')
  if power.isEmpty && fraction.isEmpty then none
  else
    let whole ← leadingDigits? whole
    let fraction ← match fraction with
      | [] => some []
      | _ :: digits => decimalDigits? digits
    let power ← power? power
    let x := Decimal.ofParts negative whole fraction power
    if x == Decimal.infinity then none else some x

def twoDigitsUpTo (most : Nat) (tens ones : Char) : Bool :=
  Decimal.isDigit tens && Decimal.isDigit ones &&
    decide (Decimal.valueOfDigits [tens, ones] ≤ most)

def isDate : List Char → Bool
  | [y1, y2, y3, y4, '-', m1, m2, '-', d1, d2] =>
    [y1, y2, y3, y4, m1, m2, d1, d2].all Decimal.isDigit &&
      (Time.Date.ofFields? (Decimal.valueOfDigits [y1, y2, y3, y4])
        (Decimal.valueOfDigits [m1, m2]) (Decimal.valueOfDigits [d1, d2])).isSome
  | _ => false

/-- The text after a time of day, if it begins with one. -/
def afterClock? : List Char → Option (List Char)
  | h1 :: h2 :: ':' :: m1 :: m2 :: ':' :: s1 :: s2 :: rest =>
    if twoDigitsUpTo 23 h1 h2 && twoDigitsUpTo 59 m1 m2 && twoDigitsUpTo 60 s1 s2 then
      match rest with
      | '.' :: digits =>
        if (digits.takeWhile Decimal.isDigit).isEmpty then none
        else some (digits.dropWhile Decimal.isDigit)
      | _ => some rest
    else none
  | _ => none

def isZone : List Char → Bool
  | [] => true
  | ['Z'] => true
  | ['z'] => true
  | [sign, h1, h2, ':', m1, m2] =>
    (sign == '+' || sign == '-') && twoDigitsUpTo 23 h1 h2 && twoDigitsUpTo 59 m1 m2
  | _ => false

/-- A date, a time of day, or both with or without an offset. -/
def isMoment (text : List Char) : Bool :=
  isDate text || afterClock? text == some [] ||
    (isDate (text.take 10) &&
      match text.drop 10 with
      | mark :: clock =>
        (mark == 'T' || mark == 't' || mark == ' ') && ((afterClock? clock).map isZone).getD false
      | [] => false)

/-- A value written without quotes or brackets. -/
def bare? (text : List Char) : Option Value :=
  if text = ['t', 'r', 'u', 'e'] then some (.flag true)
  else if text = ['f', 'a', 'l', 's', 'e'] then some (.flag false)
  else if isMoment text then some (.moment (String.ofList text))
  else ((whole? text).map Value.whole).or ((real? text).map Value.real)

/-- Characters that stand for themselves in a text; a line end is allowed only in long texts. -/
def isPlain (c : Char) : Bool :=
  c == '\t' || (decide (32 ≤ c.toNat) && c.toNat != 127)

def codeOf? (digits : List Char) : Option Char :=
  if digits.all (Text.isDigitIn 16) then
    let code := Text.inBase 16 digits
    if code < 0xD800 ∨ (0xE000 ≤ code ∧ code < 0x110000) then some (Char.ofNat code) else none
  else none

/-- Reads an escape behind its backslash. -/
def escape? : List Char → Option (Char × List Char)
  | 'u' :: a :: b :: c :: d :: rest => (codeOf? [a, b, c, d]).map fun read => (read, rest)
  | 'U' :: a :: b :: c :: d :: e :: f :: g :: h :: rest =>
    (codeOf? [a, b, c, d, e, f, g, h]).map fun read => (read, rest)
  | c :: rest =>
    if c = '/' then none else (Json.shortEscape? c).map fun read => (read, rest)
  | [] => none

/-- What is read of a text, and the rest behind its closing quotes. -/
abbrev Quoted := Option (List Char × List Char)

def Quoted.cons (c : Char) (read : Quoted) : Quoted :=
  read.map fun read => (c :: read.1, read.2)

/-- The rest of a text in double quotes on one line. -/
def readBasic (fuel : Nat) (text : List Char) : Quoted :=
  match fuel with
  | 0 => none
  | fuel + 1 =>
    match text with
    | '"' :: rest => some ([], rest)
    | '\\' :: rest => do
      let (c, rest) ← escape? rest
      (readBasic fuel rest).cons c
    | c :: rest => if isPlain c then (readBasic fuel rest).cons c else none
    | [] => none

/-- The rest of a text in apostrophes on one line, without escapes. -/
def readLiteral : List Char → Quoted
  | '\'' :: rest => some ([], rest)
  | c :: rest => if isPlain c then (readLiteral rest).cons c else none
  | [] => none

def isLineSpace (c : Char) : Bool :=
  c == ' ' || c == '\t'

/-- Drops blanks and line ends in front. -/
def dropSpaceAndEnds : List Char → List Char
  | '\r' :: '\n' :: rest => dropSpaceAndEnds rest
  | c :: rest => if isLineSpace c || c == '\n' then dropSpaceAndEnds rest else c :: rest
  | [] => []

/-- Takes three closing marks off a run of up to five; the others belong to the text. -/
def closing? (mark : Char) (text : List Char) : Option (List Char × List Char) :=
  let run := (text.takeWhile (· == mark)).length
  if run < 3 then none
  else
    let own := min run 5 - 3
    some (List.replicate own mark, text.drop (own + 3))

/-- The rest of a long text.  With `escapes`, a backslash at the end of a line joins it with the
next text. -/
def readLong (mark : Char) (escapes : Bool) (fuel : Nat) (text : List Char) : Quoted :=
  match fuel with
  | 0 => none
  | fuel + 1 =>
    match closing? mark text with
    | some closed => some closed
    | none =>
      match text with
      | '\r' :: '\n' :: rest => (readLong mark escapes fuel rest).cons '\n'
      | '\n' :: rest => (readLong mark escapes fuel rest).cons '\n'
      | '\\' :: rest =>
        if escapes then
          match rest.dropWhile isLineSpace with
          | '\n' :: _ | '\r' :: '\n' :: _ =>
            readLong mark escapes fuel (dropSpaceAndEnds rest)
          | _ => do
            let (c, rest) ← escape? rest
            (readLong mark escapes fuel rest).cons c
        else (readLong mark escapes fuel rest).cons '\\'
      | c :: rest => if isPlain c then (readLong mark escapes fuel rest).cons c else none
      | [] => none

/-- A line end right behind the opening quotes is not part of a long text. -/
def dropFirstLineEnd : List Char → List Char
  | '\n' :: rest => rest
  | '\r' :: '\n' :: rest => rest
  | text => text

/-- Reads a quoted text of any kind. -/
def readQuoted : List Char → Quoted
  | '"' :: '"' :: '"' :: rest =>
    readLong '"' true (rest.length + 1) (dropFirstLineEnd rest)
  | '\'' :: '\'' :: '\'' :: rest =>
    readLong '\'' false (rest.length + 1) (dropFirstLineEnd rest)
  | '"' :: rest => readBasic (rest.length + 1) rest
  | '\'' :: rest => readLiteral rest
  | _ => none

end Noticeboard.Toml
