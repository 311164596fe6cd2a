import Noticeboard.Json.Record
import Noticeboard.Store.Database

/-!
# Database files

A database file holds the six tables as one data value.  Rows keep every column as it is stored,
so times stay text and a score that is a double stays one, written as a list of its bits.
-/

namespace Noticeboard.Store

def Score.toJson : Score → Json
  | .whole n => Json.whole n.toInt
  | .real x => .arr [Json.whole x.toBits.toNat]

def Score.ofJson : Json → Except Json.Problem Score
  | .arr [bits] => (Json.readSize bits).map fun bits => .real (Float.ofBits bits)
  | value => (Json.readInt64 value).map .whole

namespace CategoryRow

def toJson (row : CategoryRow String) : Json :=
  Json.object
    [("id", .str row.id), ("name", .str row.name), ("description", Json.ofText? row.description),
     ("created_at", .str row.createdAt), ("updated_at", .str row.updatedAt)]

def reader : Json.RecordReader (CategoryRow String) :=
  Json.RecordReader.value CategoryRow.mk
    |>.required "id" Json.readText
    |>.required "name" Json.readText
    |>.nullable "description" Json.readText
    |>.required "created_at" Json.readText
    |>.required "updated_at" Json.readText

end CategoryRow

namespace AdvertisementRow

def toJson (row : AdvertisementRow String) : Json :=
  Json.object
    [("id", .str row.id), ("title", .str row.title),
     ("description", Json.ofText? row.description), ("creator_id", .str row.creatorId),
     ("price_cents", Json.whole row.priceCents.toInt), ("category_id", .str row.categoryId),
     ("score", row.score.toJson), ("is_active", .bool row.isActive),
     ("created_at", .str row.createdAt), ("updated_at", .str row.updatedAt)]

def reader : Json.RecordReader (AdvertisementRow String) :=
  Json.RecordReader.value AdvertisementRow.mk
    |>.required "id" Json.readText
    |>.required "title" Json.readText
    |>.nullable "description" Json.readText
    |>.required "creator_id" Json.readText
    |>.required "price_cents" Json.readInt64
    |>.required "category_id" Json.readText
    |>.required "score" Score.ofJson
    |>.required "is_active" Json.readBool
    |>.required "created_at" Json.readText
    |>.required "updated_at" Json.readText

end AdvertisementRow

namespace ModeratorRow

def toJson (row : ModeratorRow) : Json :=
  Json.object
    [("advertisement_id", .str row.advertisementId), ("user_id", .str row.userId)]

def reader : Json.RecordReader ModeratorRow :=
  Json.RecordReader.value ModeratorRow.mk
    |>.required "advertisement_id" Json.readText
    |>.required "user_id" Json.readText

end ModeratorRow

namespace CommentRow

def toJson (row : CommentRow String) : Json :=
  Json.object
    [("id", .str row.id), ("advertisement_id", .str row.advertisementId),
     ("user_id", .str row.userId), ("content", .str row.content),
     ("created_at", .str row.createdAt)]

def reader : Json.RecordReader (CommentRow String) :=
  Json.RecordReader.value CommentRow.mk
    |>.required "id" Json.readText
    |>.required "advertisement_id" Json.readText
    |>.required "user_id" Json.readText
    |>.required "content" Json.readText
    |>.required "created_at" Json.readText

end CommentRow

namespace ReactionRow

def toJson (row : ReactionRow String) : Json :=
  Json.object
    [("id", .str row.id), ("user_id", .str row.userId),
     ("advertisement_id", .str row.advertisementId), ("created_at", .str row.createdAt)]

def reader : Json.RecordReader (ReactionRow String) :=
  Json.RecordReader.value ReactionRow.mk
    |>.required "id" Json.readText
    |>.required "user_id" Json.readText
    |>.required "advertisement_id" Json.readText
    |>.required "created_at" Json.readText

end ReactionRow

namespace Database

def toJson (db : Database String) : Json :=
  Json.object
    [("categories", .arr (db.categories.map CategoryRow.toJson)),
     ("advertisements", .arr (db.advertisements.map AdvertisementRow.toJson)),
     ("advertisement_moderators", .arr (db.moderators.map ModeratorRow.toJson)),
     ("comments", .arr (db.comments.map CommentRow.toJson)),
     ("likes", .arr (db.likes.map ReactionRow.toJson)),
     ("saved_advertisements", .arr (db.saves.map ReactionRow.toJson))]

def readTable (row : Json.RecordReader α) : Json → Except Json.Problem (List α)
  | .arr rows => rows.mapM (row.read "a row")
  | value => .error (.wrongType value "a table")

def reader : Json.RecordReader (Database String) :=
  Json.RecordReader.value Database.mk
    |>.required "categories" (readTable CategoryRow.reader)
    |>.required "advertisements" (readTable AdvertisementRow.reader)
    |>.required "advertisement_moderators" (readTable ModeratorRow.reader)
    |>.required "comments" (readTable CommentRow.reader)
    |>.required "likes" (readTable ReactionRow.reader)
    |>.required "saved_advertisements" (readTable ReactionRow.reader)

def ofJson : Json → Except Json.Problem (Database String) :=
  reader.read "a database"

end Database
end Noticeboard.Store
