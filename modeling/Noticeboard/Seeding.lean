import Noticeboard.CommandLine.Grammar
import Noticeboard.Decimal.Reading
import Noticeboard.Service.Categories
import Noticeboard.Service.Search

/-!
# Seeding

A store is filled with made-up categories and then searched.  The names come from a generator that
gives the same words for the same seed, and every name ends in its own number, so a second run with
the seed meets the categories of the first.
-/

namespace Noticeboard.Seeding

/-- A source of numbers with a state of 64 bits. -/
structure Generator where
  state : UInt64
  deriving Repr, DecidableEq

namespace Generator

/-- Moves on by a multiplication and an addition that wrap around. -/
def step (generator : Generator) : Generator :=
  ⟨generator.state * 6364136223846793005 + 1442695040888963407⟩

/-- The high bits of the state. -/
def value (generator : Generator) : Nat :=
  (generator.state >>> 33).toNat

/-- A word from a list that is not empty. -/
def pick (words : List String) (h : 0 < words.length) (generator : Generator) :
    String × Generator :=
  let next := generator.step
  (words.get ⟨next.value % words.length, Nat.mod_lt _ h⟩, next)

end Generator

def words : List String :=
  ["vintage", "electric", "garden", "kitchen", "outdoor", "leather", "vinyl", "mountain", "road",
   "acoustic", "digital", "antique", "office", "kids", "pet", "camping", "gaming", "studio",
   "marine", "classic", "wooden", "smart", "travel", "winter", "summer", "home", "audio", "photo",
   "craft", "sports"]

def nouns : List String :=
  ["furniture", "bikes", "guitars", "cameras", "tools", "books", "shoes", "lamps", "records",
   "toys", "tents", "consoles", "boats", "watches", "jackets", "speakers", "rugs", "plants"]

theorem words_length_pos : 0 < words.length := by decide

theorem nouns_length_pos : 0 < nouns.length := by decide

def pickWord : Generator → String × Generator :=
  Generator.pick words words_length_pos

def pickNoun : Generator → String × Generator :=
  Generator.pick nouns nouns_length_pos

/-- A category with a number in its name. -/
def draft (index : Nat) (generator : Generator) : CategoryDraft × Generator :=
  let (first, generator) := pickWord generator
  let (second, generator) := pickWord generator
  let (noun, generator) := pickNoun generator
  let (goods, generator) := pickNoun generator
  let (style, generator) := pickWord generator
  let (more, generator) := pickNoun generator
  ({ name := first ++ " " ++ second ++ " " ++ noun ++ " " ++ toString index
     description := some
      ("Second-hand " ++ goods ++ " and " ++ style ++ " " ++ more ++ " from local sellers.") },
    generator)

def query (generator : Generator) : String × Generator :=
  let (word, generator) := pickWord generator
  let (noun, generator) := pickNoun generator
  (word ++ " " ++ noun, generator)

variable {τ : Type}

/-- The actor who seeds. -/
def actor : Actor :=
  .staff "seed-bench"

/-- Creates a category, or passes over one that is there already; the answer tells whether it was
passed over. -/
def createOne (draft : CategoryDraft) : Store.Action τ Bool := fun session db =>
  let outcome := Service.createCategory actor draft session db
  let answer := match outcome.answer with
    | .ok _ => .ok false
    | .error failure => if failure.kind = .conflict then .ok true else .error failure
  { outcome with answer }

/-- Creates `count` categories with numbers from `index` on; `categoryId` gives each of them an id
of its own.  The answer is how many were passed over, and the generator afterwards. -/
def seed (categoryId : Nat → String) :
    Nat → Nat → Generator → Store.Action τ (Nat × Generator)
  | _, 0, generator => return (0, generator)
  | index, count + 1, generator => do
    let (draft, generator) := draft index generator
    let skipped ← (createOne draft).within fun session =>
      { session with ids := { session.ids with category := categoryId index } }
    let (others, generator) ← seed categoryId (index + 1) count generator
    return ((if skipped then 1 else 0) + others, generator)

/-- How many categories a search finds; finding none is no failure. -/
def countMatches (settings : EngineSettings) (query : String) : Store.Action τ Nat :=
  fun session db =>
    let outcome := Service.searchCategories settings (SearchRequest.ofQuery query) session db
    let answer := match outcome.answer with
      | .ok page => .ok page.total
      | .error failure => if failure.kind = .notFound then .ok 0 else .error failure
    { outcome with answer }

/-- The matches of `count` searches together. -/
def search (settings : EngineSettings) : Nat → Generator → Store.Action τ Nat
  | 0, _ => return 0
  | count + 1, generator => do
    let (query, generator) := query generator
    let found ← countMatches settings query
    let others ← search settings count generator
    return found + others

/-- How much is seeded and searched. -/
structure Options where
  count : Nat := 1024
  searches : Nat := 50
  seed : UInt64 := 42
  databaseUrl : String := "sqlite::memory:"
  deriving Repr, DecidableEq

namespace Options

def grammar : CommandLine.Grammar :=
  let number (name : String) : String × (String → Bool) :=
    (name, fun text => (Decimal.readSize? text.toList).isSome)
  { options := [number "count", number "searches", number "seed",
      ("database-url", fun _ => true)] }

def read (arguments : List String) : Except CommandLine.Stop Options := do
  let given ← grammar.read arguments
  let number (name : String) (standard : Nat) : Nat :=
    ((given.options.lookup name).bind fun text => Decimal.readSize? text.toList).getD standard
  return {
    count := number "count" 1024
    searches := number "searches" 50
    seed := UInt64.ofNat (number "seed" 42)
    databaseUrl := (given.options.lookup "database-url").getD "sqlite::memory:" }

end Options

structure Report where
  seeded : Nat
  skipped : Nat
  searches : Nat
  matched : Nat
  deriving Repr, DecidableEq

/-- Seeds and searches. -/
def perform (settings : EngineSettings) (categoryId : Nat → String) (options : Options) :
    Store.Action τ Report := do
  let (skipped, generator) ← seed categoryId 0 options.count ⟨options.seed⟩
  let matched ← search settings options.searches generator
  return { seeded := options.count - skipped, skipped, searches := options.searches, matched }

end Noticeboard.Seeding
