/-!
# Punycode

A label of a host name may spell characters beyond ASCII with letters and digits.  The plain
characters come first, up to the last hyphen; behind it numbers tell which characters are missing
and where they go, in ascending order.  Each number is written with a base that adapts to the
numbers before it.
-/

namespace Noticeboard.Text.Punycode

/-- The letters stand for the first 26 digits and the decimal digits for the last ten. -/
def digit? (c : Char) : Option Nat :=
  if 'a' ≤ c ∧ c ≤ 'z' then some (c.toNat - 'a'.toNat)
  else if '0' ≤ c ∧ c ≤ '9' then some (c.toNat - '0'.toNat + 26)
  else none

/-- The least digit that does not end a number, for the digit of weight `place`. -/
def threshold (bias place : Nat) : Nat :=
  if place ≤ bias then 1 else min 26 (place - bias)

/-- Reads a number and what follows it. -/
def number? (bias place weight sum : Nat) : List Char → Option (Nat × List Char)
  | [] => none
  | c :: rest =>
    match digit? c with
    | none => none
    | some digit =>
      let least := threshold bias place
      let sum := sum + digit * weight
      if digit < least then some (sum, rest)
      else number? bias (place + 36) (weight * (36 - least)) sum rest

/-- The bias after a step, which is small when the step was. -/
def scaled : Nat → Nat → Nat → Nat
  | 0, place, _ => place
  | fuel + 1, place, step =>
    if 455 < step then scaled fuel (place + 36) (step / 35)
    else place + 36 * step / (step + 38)

def adapt (first : Bool) (size step : Nat) : Nat :=
  let step := if first then step / 700 else step / 2
  let step := step + step / size
  scaled step 0 step

/-- Puts the characters in that the numbers tell of. -/
def insertAll (fuel code index bias : Nat) (text : List Char) : List Char → Option (List Char)
  | [] => some text
  | coded =>
    match fuel with
    | 0 => none
    | fuel + 1 => do
      let (position, rest) ← number? bias 36 1 index coded
      let size := text.length + 1
      let code := code + position / size
      if 0x110000 ≤ code ∨ (0xD800 ≤ code ∧ code < 0xE000) then none
      else
        let place := position % size
        let text := text.take place ++ Char.ofNat code :: text.drop place
        insertAll fuel code (place + 1) (adapt (index = 0) size (position - index)) text rest

/-- The text that a label in lower case spells. -/
def decode? (label : List Char) : Option (List Char) :=
  let coded := (label.reverse.takeWhile (· != '-')).reverse
  let front := label.take (label.length - coded.length)
  if front = ['-'] then none else insertAll coded.length 128 0 72 front.dropLast coded

end Noticeboard.Text.Punycode
