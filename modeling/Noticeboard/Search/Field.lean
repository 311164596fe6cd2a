import Noticeboard.Failure
import Noticeboard.Records.Advertisement

/-!
# What a search looks at

The texts of a record that a search compares with the query, each with a weight.
-/

namespace Noticeboard

/-- A field and what its similarity counts.  A field of weight zero takes no part in a search. -/
structure WeightedField (F : Type) where
  field : F
  weight : Float

/-- Accepts a weight that is a number from zero on. -/
def WeightedField.checked (field : F) (weight : Float) : Except Failure (WeightedField F) :=
  if !weight.isFinite || weight < 0 then .error (.badWeight weight) else .ok ⟨field, weight⟩

/-- Records that can be searched: `label` is their plural noun, and `text?` is none for a field
that is not set. -/
class Searchable (E : Type) (F : outParam Type) where
  label : String
  id : E → String
  createdAt : E → Time.Instant
  text? : E → F → Option String

inductive CategoryField where
  | name
  | description
  deriving Repr, DecidableEq

inductive AdvertisementField where
  | title
  | description
  | categoryName
  deriving Repr, DecidableEq

instance : Searchable Category CategoryField where
  label := "categories"
  id := Category.id
  createdAt := Category.createdAt
  text? category
    | .name => some category.name
    | .description => category.description

instance : Searchable Advertisement AdvertisementField where
  label := "advertisements"
  id := Advertisement.id
  createdAt := Advertisement.createdAt
  text? advertisement
    | .title => some advertisement.title
    | .description => advertisement.description
    | .categoryName => some advertisement.categoryName

def categoryFields : List (WeightedField CategoryField) :=
  [⟨.name, 1.0⟩, ⟨.description, 1.0⟩]

def advertisementFields : List (WeightedField AdvertisementField) :=
  [⟨.title, 1.5⟩, ⟨.description, 1.2⟩, ⟨.categoryName, 1.0⟩]

end Noticeboard
