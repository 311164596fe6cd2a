import Noticeboard.Popularity.Event

/-!
# Counting events

The score of each of a fixed set of advertisements, moved by events one after another.  An event
that names none of them fails and moves nothing.
-/

namespace Noticeboard

/-- The scores by advertisement id, each id once. -/
abbrev Counters := List (String × Int)

namespace Counters

def add (id : String) (delta : Int) : Counters → Option Counters
  | [] => none
  | (known, score) :: rest =>
    if known = id then some ((known, score + delta) :: rest)
    else (add id delta rest).map ((known, score) :: ·)

/-- Applies one event; the answer is what it added. -/
def apply (weights : ScoreWeights) (event : ScoreEvent) (counters : Counters) :
    Except Failure (Int64 × Counters) :=
  let delta := weights.delta event.kind
  match counters.add event.advertisementId delta.toInt with
  | some moved => .ok (delta, moved)
  | none => .error (.noCounter event.advertisementId)

/-- Applies events in order.  A failed event leaves the counters as they were, and the next one
is tried; each answer comes with the counters after it. -/
def applyAll (weights : ScoreWeights) :
    List ScoreEvent → Counters → List (Except Failure Int64 × Counters)
  | [], _ => []
  | event :: rest, counters =>
    match counters.apply weights event with
    | .ok (delta, moved) => (.ok delta, moved) :: applyAll weights rest moved
    | .error failure => (.error failure, counters) :: applyAll weights rest counters

end Counters
end Noticeboard
