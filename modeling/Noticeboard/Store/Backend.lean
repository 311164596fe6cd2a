import Noticeboard.Records.Advertisement
import Noticeboard.Records.Engagement
import Noticeboard.Store.Database
import Noticeboard.Time.Timestamp

/-!
# Backends

The store runs on two kinds of database.  The embedded one keeps times as text and scores in a
column that turns to a double when a sum leaves the 64-bit integers; the server keeps instants on a
clock without leap seconds and refuses such a sum.  They also differ in how they compare category
names and in how a category is updated.

A server takes no text with the null character.  Texts are supposed to be free of it here, so that
none is refused for that.
-/

namespace Noticeboard.Store

namespace Score

/-- A double that is a whole number strictly between the least and the greatest 64-bit integer is
kept as that integer. -/
def ofReal (x : Float) : Score :=
  let n := x.toModel.toInt64
  if Float.ofInt n.toInt == x && n != Int64.minValue && n != Int64.maxValue then .whole n
  else .real x

/-- Adds in the integers as long as the sum fits, and in doubles otherwise. -/
def addReal : Score → Int64 → Score
  | .whole n, delta =>
    let sum := n.toInt + delta.toInt
    if Decimal.isInt64 sum then .whole (Int64.ofInt sum)
    else ofReal (Float.ofInt n.toInt + Float.ofInt delta.toInt)
  | .real x, delta => ofReal (x + Float.ofInt delta.toInt)

/-- Adds in the integers, and faults when the sum does not fit. -/
def addChecked : Score → Int64 → Except DatabaseFault Score
  | .whole n, delta =>
    let sum := n.toInt + delta.toInt
    if Decimal.isInt64 sum then .ok (.whole (Int64.ofInt sum))
    else .error (.other "bigint out of range")
  | .real _, _ => .error (.other "bigint out of range")

/-- Only whole scores can be read. -/
def read : Score → Except Failure Int64
  | .whole n => .ok n
  | .real _ => .error (.database .unreadableScore)

end Score

/-- How a kind of database keeps and compares what is stored. -/
structure Backend (τ : Type) where
  /-- The stored form of a time, to the microsecond. -/
  stamp : Time.Instant → τ
  /-- The time a column holds. -/
  readStamp : String → τ → Except Failure Time.Instant
  compareStamps : τ → τ → Ordering
  addScore : Score → Int64 → Except DatabaseFault Score
  /-- Whether a stored category name is the one that is looked for. -/
  sameName : String → String → Bool
  /-- Whether one statement patches a category, which otherwise is read before it is written. -/
  patchesInPlace : Bool

namespace Backend

/-- A database file of the program's own. -/
def embedded : Backend String where
  stamp t := t.toMicros.storedText
  readStamp column text := (Time.readStored text).mapError (.unreadableTime column text)
  compareStamps := Ord.compare
  addScore score delta := .ok (score.addReal delta)
  sameName stored wanted := stored == Text.lower (Text.trim wanted)
  patchesInPlace := false

/-- A database server. -/
def server : Backend Time.Instant where
  stamp t := t.withoutLeap.toMicros
  readStamp _ t := .ok t
  compareStamps := Time.Instant.compare
  addScore := Score.addChecked
  sameName stored wanted := Text.lower stored == Text.lower (Text.trim wanted)
  patchesInPlace := true

variable {τ : Type}

/-! ## Reading rows

A row that holds an unreadable value cannot be read at all; the first such value is reported. -/

def readCategory (backend : Backend τ) (row : CategoryRow τ) : Except Failure Category := do
  let createdAt ← backend.readStamp "created_at" row.createdAt
  let updatedAt ← backend.readStamp "updated_at" row.updatedAt
  return ⟨row.id, row.name, row.description, createdAt, updatedAt⟩

def readAdvertisement (backend : Backend τ) (row : AdvertisementRow τ) (categoryName : String) :
    Except Failure Advertisement := do
  let score ← row.score.read
  let createdAt ← backend.readStamp "created_at" row.createdAt
  let updatedAt ← backend.readStamp "updated_at" row.updatedAt
  return {
    id := row.id
    title := row.title
    description := row.description
    creatorId := row.creatorId
    priceCents := row.priceCents
    categoryId := row.categoryId
    categoryName
    score
    isActive := row.isActive
    createdAt
    updatedAt }

def readComment (backend : Backend τ) (row : CommentRow τ) : Except Failure Comment := do
  let createdAt ← backend.readStamp "created_at" row.createdAt
  return ⟨row.id, row.advertisementId, row.userId, row.content, createdAt⟩

end Backend
end Noticeboard.Store
