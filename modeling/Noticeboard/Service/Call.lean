import Noticeboard.Search.Ranking
import Noticeboard.Store.Action

/-!
# Accounts of calls

Most calls leave an entry when they begin, and every call leaves one when it ends.
-/

namespace Noticeboard.Service

variable {τ α E : Type}

/-- Notes how a call ended. -/
def finishing (operation : Operation) (work : Store.Action τ α) : Store.Action τ α :=
  Store.Action.reporting
    (fun
      | .ok _ => .succeeded operation
      | .error failure => .failed operation failure)
    work

/-- Notes how a search or a listing ended. -/
def finishingPage (operation : Operation) (work : Store.Action τ (Page E)) :
    Store.Action τ (Page E) :=
  Store.Action.reporting
    (fun
      | .ok page =>
        match page.query with
        | some query => .found operation page.total page.page query
        | none => .listed operation page.total page.page
      | .error failure => .failed operation failure)
    work

/-- Notes the beginning and the end of a call. -/
def calling (operation : Operation) (details : List (String × Json)) (work : Store.Action τ α) :
    Store.Action τ α := do
  Store.Action.note (.called operation details)
  finishing operation work

end Noticeboard.Service
