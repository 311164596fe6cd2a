import Noticeboard.Popularity.Counters
import Noticeboard.Proofs.ExactPoints

/-!
# Sums of events

Events applied one after another leave each counter at what it held plus the points of the events
that name it.  An event that names no counter fails, and the events after it are as if it had not
been there.

Neither the counters nor the answer to an event depend on the order: two additions can change
places, and no addition makes an id known or unknown.  Points that are taken back are added with the
other sign, which is exact but for the least weight.  That is its own negative among the 64-bit
integers, so that a comment which is taken back with it falls short by `2 ^ 64`.
-/

namespace Noticeboard

namespace Decimal

end Decimal

namespace ScoreEvent

/-- The points of the events that name an id. -/
def total (points : Kind → Int) (id : String) (events : List ScoreEvent) : Int :=
  (events.map fun event => if event.advertisementId = id then points event.kind else 0).sum

variable {points : Kind → Int} {id : String} {event : ScoreEvent} {rest : List ScoreEvent}

@[simp] theorem total_nil : total points id [] = 0 :=
  rfl

end ScoreEvent

namespace ScoreWeights

variable {weights : ScoreWeights} {x : Int} {id : String}

/-- What an event adds to a counter. -/
def added (weights : ScoreWeights) (kind : ScoreEvent.Kind) : Int :=
  (weights.delta kind).toInt

end ScoreWeights

namespace Counters

variable {weights : ScoreWeights} {counters : Counters} {events : List ScoreEvent}

def ids (counters : Counters) : List String :=
  counters.map Prod.fst

/-! ## One addition -/

/-- The counters after an addition that may have failed. -/
def bump (id : String) (delta : Int) (counters : Counters) : Counters :=
  (counters.add id delta).getD counters

/-- What an event is answered: whether its id is known decides. -/
def answer (weights : ScoreWeights) (counters : Counters) (event : ScoreEvent) :
    Except Failure Int64 :=
  if event.advertisementId ∈ counters.ids then .ok (weights.delta event.kind)
  else .error (.noCounter event.advertisementId)

def moved (weights : ScoreWeights) (counters : Counters) (event : ScoreEvent) : Counters :=
  counters.bump event.advertisementId (weights.added event.kind)

def answers (weights : ScoreWeights) (events : List ScoreEvent) (counters : Counters) :
    List (Except Failure Int64) :=
  (applyAll weights events counters).map Prod.fst

/-- The counters after the last event. -/
def after (weights : ScoreWeights) (events : List ScoreEvent) (counters : Counters) : Counters :=
  ((applyAll weights events counters).getLast?.map Prod.snd).getD counters

end Counters
end Noticeboard
