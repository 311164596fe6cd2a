/-!
# Tables of characters

A Unicode property is written as ascending ranges of codes, both ends included.
-/

namespace Noticeboard.Text

abbrev CodeRanges := List (Nat × Nat)

/-- Looks a code up in ascending ranges, stopping at the first range that begins above it. -/
def CodeRanges.contains : CodeRanges → Nat → Bool
  | [], _ => false
  | (first, last) :: rest, code =>
    if code < first then false
    else if code ≤ last then true
    else CodeRanges.contains rest code

end Noticeboard.Text
