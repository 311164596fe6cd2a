import Noticeboard.Json.Record

/-!
# Actors

The user on whose behalf a call is made, with the roles of that user on the whole board.
-/

namespace Noticeboard

structure Actor where
  userId : String
  isStaff : Bool
  isSuperuser : Bool
  deriving DecidableEq

namespace Actor

def user (userId : String) : Actor :=
  ⟨userId, false, false⟩

def staff (userId : String) : Actor :=
  ⟨userId, true, false⟩

def superuser (userId : String) : Actor :=
  ⟨userId, false, true⟩

/-- Staff and superusers look after the whole board. -/
def isSiteModerator (actor : Actor) : Bool :=
  actor.isStaff || actor.isSuperuser

def toJson (actor : Actor) : Json :=
  Json.object
    [("user_id", .str actor.userId),
     ("is_staff", .bool actor.isStaff),
     ("is_superuser", .bool actor.isSuperuser)]

def reader : Json.RecordReader Actor :=
  Json.RecordReader.value Actor.mk
    |>.required "user_id" Json.readText
    |>.defaulted "is_staff" false Json.readBool
    |>.defaulted "is_superuser" false Json.readBool

def ofJson : Json → Except Json.Problem Actor :=
  reader.read "struct Actor"

end Actor
end Noticeboard
