import Noticeboard.Search.Field
import Noticeboard.Search.Request
import Noticeboard.Search.Trigram
import Noticeboard.Settings.Engine

/-!
# Ranking and paging

A record matches a query when one of its fields is similar enough on its own; it then scores the
weighted sum over all of its fields.  Matches are listed by descending score, later ones first
among equals, and by ascending id after that.  Without a query nothing is ranked, and everything
comes on one page.
-/

namespace Noticeboard

/-- One page of a longer list; `total` counts the items of all pages. -/
structure Page (E : Type) where
  items : List E
  page : UInt32
  pageSize : Nat
  total : Nat
  query : Option String

namespace Page

def isEmpty (page : Page E) : Bool :=
  page.items.isEmpty

def toJson (item : E → Json) (page : Page E) : Json :=
  Json.object
    [("items", .arr (page.items.map item)), ("page", Json.whole page.page.toNat),
     ("page_size", Json.whole page.pageSize), ("total", Json.whole page.total),
     ("query", Json.ofText? page.query)]

end Page

/-- A record with its score for one query. -/
structure Candidate (E : Type) where
  entity : E
  score : Float

namespace Ranking

/-- The number of items on a page is at least one. -/
def pageSize (settings : EngineSettings) : Nat :=
  max settings.pageSize.toNat 1

/-- How many items stand before a page.  The product stops at the largest 64-bit number. -/
def offset (settings : EngineSettings) (page : UInt32) : Nat :=
  min ((max page.toNat 1 - 1) * pageSize settings) 0xFFFFFFFFFFFFFFFF

/-- The items on one page. -/
def paginate (settings : EngineSettings) (items : List E) (page : UInt32) : List E :=
  (items.drop (offset settings page)).take (pageSize settings)

/-- One page of a list that is already in order. -/
def pageOf (settings : EngineSettings) (items : List E) (page : UInt32) : Page E :=
  ⟨paginate settings items page, page, pageSize settings, items.length, none⟩

/-- Everything on one page. -/
def whole (items : List E) : Page E :=
  ⟨items, 1, items.length, items.length, none⟩

/-- A place for every double: the order of the numbers, minus zero below zero, infinities at the
ends.  A score that is not a number comes below all, since its sign bit is set. -/
def scoreKey (score : Float) : Int :=
  if score.isNaN then -0x10000000000000000
  else
    let bits := score.toBits.toNat
    if bits < 0x8000000000000000 then bits else 0x7FFFFFFFFFFFFFFF - (bits : Int)

section

variable {E F : Type} [Searchable E F]

/-- How similar a field is to the query; a field that is not set is not similar at all. -/
def fieldSimilarity (entity : E) (query : TrigramSet) (field : F) : Float :=
  match Searchable.text? entity field with
  | some text => query.similarity (TrigramSet.ofText text)
  | none => 0.0

/-- Similar at all, and similar enough. -/
def passes (settings : EngineSettings) (similarity : Float) : Bool :=
  similarity > 0 && similarity ≥ settings.matchThreshold

/-- The score of a record, if it matches. -/
def score (settings : EngineSettings) (fields : List (WeightedField F)) (entity : E)
    (query : TrigramSet) : Option Float :=
  let parts := (fields.filter fun field => field.weight > 0).map fun field =>
    (field.weight, fieldSimilarity entity query field.field)
  if parts.any fun part => passes settings part.2 then
    some (parts.foldl (fun total part => total + part.1 * part.2) 0.0)
  else none

/-- Orders candidates as they are listed. -/
def compare (a b : Candidate E) : Ordering :=
  (Ord.compare (scoreKey b.score) (scoreKey a.score)).then
    (((Searchable.createdAt b.entity).compare (Searchable.createdAt a.entity)).then
      (Ord.compare (Searchable.id a.entity) (Searchable.id b.entity)))

def precedes (a b : Candidate E) : Bool :=
  compare a b != .gt

/-- The matches of a query, best first. -/
def candidates (settings : EngineSettings) (fields : List (WeightedField F)) (query : String)
    (corpus : List E) : List (Candidate E) :=
  let grams := TrigramSet.ofText query
  let found := corpus.filterMap fun entity =>
    (score settings fields entity grams).map fun score => ⟨entity, score⟩
  found.mergeSort precedes

/-- The asked page of the matches; a query without a match is an error on every page. -/
def pageOfCandidates (settings : EngineSettings) (query : String) (page : UInt32)
    (found : List (Candidate E)) : Except Failure (Page E) :=
  if found.isEmpty then .error (.nothingMatches (Searchable.label E) query)
  else .ok
    ⟨(paginate settings found page).map Candidate.entity, page, pageSize settings, found.length,
      some query⟩

/-- Answers a search over a corpus. -/
def rank (settings : EngineSettings) (fields : List (WeightedField F)) (params : SearchParams)
    (corpus : List E) : Except Failure (Page E) :=
  match params.query with
  | none => .ok (whole corpus)
  | some query =>
    pageOfCandidates settings query params.page (candidates settings fields query corpus)

end
end Ranking
end Noticeboard
