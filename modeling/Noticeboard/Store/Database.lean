import Noticeboard.Time.Instant

/-!
# The tables of a board

A database is six tables of rows.  Times are kept in a form of its own, the type `τ`, which is text
in one kind of database and instants in another.  Ids are unique within a table, category names are
unique, a user has at most one like and one save at an advertisement and stands at most once among
its moderators, and rows refer to categories and advertisements that exist.
-/

namespace Noticeboard.Store

/-- A stored popularity score.  A sum that leaves the 64-bit integers may be kept as a double. -/
inductive Score where
  | whole (n : Int64)
  | real (x : Float)

structure CategoryRow (τ : Type) where
  id : String
  name : String
  description : Option String
  createdAt : τ
  updatedAt : τ

structure AdvertisementRow (τ : Type) where
  id : String
  title : String
  description : Option String
  creatorId : String
  priceCents : Int64
  categoryId : String
  score : Score
  isActive : Bool
  createdAt : τ
  updatedAt : τ

/-- A user who may look after an advertisement besides its creator. -/
structure ModeratorRow where
  advertisementId : String
  userId : String
  deriving DecidableEq

structure CommentRow (τ : Type) where
  id : String
  advertisementId : String
  userId : String
  content : String
  createdAt : τ

/-- A like or a save. -/
structure ReactionRow (τ : Type) where
  id : String
  userId : String
  advertisementId : String
  createdAt : τ

structure Database (τ : Type) where
  categories : List (CategoryRow τ) := []
  advertisements : List (AdvertisementRow τ) := []
  moderators : List ModeratorRow := []
  comments : List (CommentRow τ) := []
  likes : List (ReactionRow τ) := []
  saves : List (ReactionRow τ) := []

/-- The two tables of reactions. -/
inductive ReactionKind where
  | like
  | save
  deriving Repr, DecidableEq

namespace Database

variable {τ : Type}

def empty : Database τ := {}

def category? (db : Database τ) (id : String) : Option (CategoryRow τ) :=
  db.categories.find? fun row => row.id == id

def advertisement? (db : Database τ) (id : String) : Option (AdvertisementRow τ) :=
  db.advertisements.find? fun row => row.id == id

def comment? (db : Database τ) (id : String) : Option (CommentRow τ) :=
  db.comments.find? fun row => row.id == id

def hasCategory (db : Database τ) (id : String) : Bool :=
  db.categories.any fun row => row.id == id

def hasAdvertisement (db : Database τ) (id : String) : Bool :=
  db.advertisements.any fun row => row.id == id

def reactions (db : Database τ) : ReactionKind → List (ReactionRow τ)
  | .like => db.likes
  | .save => db.saves

def addReaction (db : Database τ) (kind : ReactionKind) (row : ReactionRow τ) : Database τ :=
  match kind with
  | .like => { db with likes := db.likes ++ [row] }
  | .save => { db with saves := db.saves ++ [row] }

/-- Removes the advertisements of these ids and everything that refers to them. -/
def dropAdvertisements (db : Database τ) (gone : String → Bool) : Database τ :=
  { db with
    advertisements := db.advertisements.filter fun row => !gone row.id
    moderators := db.moderators.filter fun row => !gone row.advertisementId
    comments := db.comments.filter fun row => !gone row.advertisementId
    likes := db.likes.filter fun row => !gone row.advertisementId
    saves := db.saves.filter fun row => !gone row.advertisementId }

/-- Whether an advertisement of this id stands in the category. -/
def isIn (db : Database τ) (categoryId id : String) : Bool :=
  db.advertisements.any fun row => row.id == id && row.categoryId == categoryId

/-- Removes a category with its advertisements and everything that refers to them. -/
def dropCategory (db : Database τ) (id : String) : Database τ :=
  let rest := db.dropAdvertisements (db.isIn id)
  { rest with categories := rest.categories.filter fun row => row.id != id }

end Database
end Noticeboard.Store
