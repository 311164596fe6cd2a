import Noticeboard.Records.Category

/-!
# Comments, likes and saves

What users leave at an advertisement.  A like or a save is a reaction, and a user has at most one
of each at an advertisement.
-/

namespace Noticeboard

structure Comment where
  id : String
  advertisementId : String
  userId : String
  content : String
  createdAt : Time.Instant
  deriving DecidableEq

structure CommentDraft where
  advertisementId : String
  userId : String
  content : String
  deriving DecidableEq

structure Reaction where
  id : String
  userId : String
  advertisementId : String
  createdAt : Time.Instant
  deriving DecidableEq

/-- A comment may not be blank. -/
def checkComment (content : String) : Except Failure Unit :=
  if (Text.trim content).isEmpty then .error .emptyComment else .ok ()

namespace Comment

def toJson (c : Comment) : Json :=
  Json.object
    [("id", .str c.id),
     ("advertisement_id", .str c.advertisementId),
     ("user_id", .str c.userId),
     ("content", .str c.content),
     ("created_at", instantJson c.createdAt)]

def reader : Json.RecordReader Comment :=
  Json.RecordReader.value Comment.mk
    |>.required "id" Json.readText
    |>.required "advertisement_id" Json.readText
    |>.required "user_id" Json.readText
    |>.required "content" Json.readText
    |>.required "created_at" Json.readInstant

def ofJson : Json → Except Json.Problem Comment :=
  reader.read "struct Comment"

end Comment

namespace CommentDraft

def toJson (draft : CommentDraft) : Json :=
  Json.object
    [("advertisement_id", .str draft.advertisementId),
     ("user_id", .str draft.userId),
     ("content", .str draft.content)]

def reader : Json.RecordReader CommentDraft :=
  Json.RecordReader.value CommentDraft.mk
    |>.required "advertisement_id" Json.readText
    |>.required "user_id" Json.readText
    |>.required "content" Json.readText

def ofJson : Json → Except Json.Problem CommentDraft :=
  reader.read "struct CreateComment"

end CommentDraft

namespace Reaction

def toJson (r : Reaction) : Json :=
  Json.object
    [("id", .str r.id),
     ("user_id", .str r.userId),
     ("advertisement_id", .str r.advertisementId),
     ("created_at", instantJson r.createdAt)]

def reader : Json.RecordReader Reaction :=
  Json.RecordReader.value Reaction.mk
    |>.required "id" Json.readText
    |>.required "user_id" Json.readText
    |>.required "advertisement_id" Json.readText
    |>.required "created_at" Json.readInstant

def ofJson : Json → Except Json.Problem Reaction :=
  reader.read "struct Reaction"

end Reaction
end Noticeboard
