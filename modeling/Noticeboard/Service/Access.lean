import Noticeboard.Records.Actor
import Noticeboard.Store.Engagement

/-!
# Who may do what

An advertisement can be managed by its creator, by its moderators and by superusers.  While it is
inactive nobody else learns that it exists.  Site moderators look after categories and approvals.
-/

namespace Noticeboard.Service

variable {τ : Type}

/-- Superusers and the creator manage an advertisement without being its moderators. -/
def ownsOrOverrules (actor : Actor) (advertisement : Advertisement) : Bool :=
  actor.isSuperuser || advertisement.creatorId == actor.userId

def canManage (actor : Actor) (advertisement : Advertisement) : Store.Action τ Bool := do
  if ownsOrOverrules actor advertisement then return true
  let moderators ← Store.moderators advertisement.id
  return moderators.contains actor.userId

def requireManager (actor : Actor) (advertisement : Advertisement) (deed : String) :
    Store.Action τ Unit := do
  if ← canManage actor advertisement then return () else Store.Action.fail (.notAllowed deed)

def requireSiteModerator (actor : Actor) (deed : String) : Store.Action τ Unit :=
  if actor.isSiteModerator then pure () else Store.Action.fail (.notAllowed deed)

/-- The advertisement of an id, if the actor may see it. -/
def visibleAdvertisement (actor : Option Actor) (id : String) : Store.Action τ Advertisement := do
  if (Text.trim id).isEmpty then Store.Action.fail .missingAdvertisementId
  let advertisement ← Store.getAdvertisement id
  if advertisement.isActive then return advertisement
  let visible ← match actor with
    | some actor => canManage actor advertisement
    | none => pure false
  if visible then return advertisement else Store.Action.fail (.hiddenAdvertisement id)

end Noticeboard.Service
