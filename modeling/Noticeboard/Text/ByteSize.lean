/-!
# Places in bytes

A place in a text may be given by the number of bytes in front of it.  A place inside a character
has no text before or after it.
-/

namespace Noticeboard.Text

/-- The number of bytes that a text takes. -/
def byteSize (text : List Char) : Nat :=
  text.foldl (fun size c => size + c.utf8Size) 0

/-- The characters in front that fit in a number of bytes. -/
def takeBytes (count : Nat) : List Char → List Char
  | [] => []
  | c :: rest => if c.utf8Size ≤ count then c :: takeBytes (count - c.utf8Size) rest else []

/-- The text behind a place. -/
def dropBytes? (place : Nat) (text : List Char) : Option (List Char) :=
  let front := takeBytes place text
  if byteSize front = place then some (text.drop front.length) else none

/-- The text between two places. -/
def cutBytes? (start stop : Nat) (text : List Char) : Option (List Char) := do
  let before := takeBytes stop text
  if byteSize before = stop then dropBytes? start before else none

end Noticeboard.Text
