import Noticeboard.Proofs.GramSets
import Noticeboard.Search.Ranking

/-!
# Weighted sums

What a record scores is a sum over its fields, in which the weight of a field is multiplied by its
similarity to the query.  Both the sum and the condition for a match can be read in numbers of any
kind, exact ones or doubles, and the program computes them in doubles, from the first field to the
last.
-/

namespace Noticeboard.Ranking

open TrigramSet

variable {E F : Type} [Searchable E F]

/-- The trigrams of a field; one that is not set has none. -/
def fieldGrams (entity : E) (field : F) : TrigramSet :=
  match Searchable.text? entity field with
  | some text => .ofText text
  | none => .empty

theorem fieldSimilarity_eq (entity : E) (query : TrigramSet) (field : F) :
    fieldSimilarity entity query field = query.similarityIn Float (fieldGrams entity field) := by
  unfold fieldSimilarity fieldGrams
  cases Searchable.text? entity field with
  | some text => rfl
  | none => exact (if_pos (Bool.or_true _)).symm

section Scores

variable {N : Type*} [Zero N] [NatCast N] [Add N] [Mul N] [Div N] [LE N] [LT N]

/-- Some field of a positive weight is similar to the query at all, and similar enough. -/
def MatchesIn (threshold : N) (fields : List (F × N)) (query : TrigramSet) (entity : E) : Prop :=
  ∃ field ∈ fields, 0 < field.2 ∧ 0 < query.similarityIn N (fieldGrams entity field.1) ∧
    threshold ≤ query.similarityIn N (fieldGrams entity field.1)

instance [DecidableLE N] [DecidableLT N] (threshold : N) (fields : List (F × N))
    (query : TrigramSet) (entity : E) : Decidable (MatchesIn threshold fields query entity) :=
  inferInstanceAs (Decidable (∃ field ∈ fields, _))

/-- What a field adds to a score. -/
def partIn (query : TrigramSet) (entity : E) (field : F × N) : N :=
  field.2 * query.similarityIn N (fieldGrams entity field.1)

variable [DecidableLT N]

/-- The weighted sum over the fields of a positive weight, from the first to the last. -/
def totalIn (fields : List (F × N)) (query : TrigramSet) (entity : E) : N :=
  (fields.filter fun field => 0 < field.2).foldl
    (fun total field => total + partIn query entity field) 0

end Scores

/-- With exact weights from zero on this is the sum over all fields. -/
theorem totalIn_eq_sum {K : Type*} [Field K] [LinearOrder K] [IsStrictOrderedRing K]
    {fields : List (F × K)} (hweights : ∀ field ∈ fields, 0 ≤ field.2) (query : TrigramSet)
    (entity : E) : totalIn fields query entity = (fields.map (partIn query entity)).sum := by
  have hrun (start : K) : (fields.filter fun field => 0 < field.2).foldl
      (fun total field => total + partIn query entity field) start =
      start + (fields.map (partIn query entity)).sum := by
    induction fields generalizing start with
    | nil => rw [List.map_nil, List.sum_nil, add_zero, List.filter_nil, List.foldl_nil]
    | cons field rest ih =>
        obtain ⟨hweight, hrest⟩ := List.forall_mem_cons.mp hweights
        rw [List.map_cons, List.sum_cons, ← add_assoc]
        rcases hweight.lt_or_eq with hpositive | hzero
        · rw [List.filter_cons_of_pos (by simpa using hpositive), List.foldl_cons, ih hrest]
        · have hnothing : partIn query entity field = 0 := by rw [partIn, ← hzero, zero_mul]
          rw [List.filter_cons_of_neg (by simp [← hzero]), ih hrest, hnothing, add_zero]
  rw [totalIn, hrun, zero_add]

/-- Fields with their weights in doubles. -/
def inDoubles (fields : List (WeightedField F)) : List (F × Float) :=
  fields.map fun field => (field.field, field.weight)

/-- The score is the weighted sum in doubles, and there is none without a match. -/
theorem score_eq (settings : EngineSettings) (fields : List (WeightedField F)) (entity : E)
    (query : TrigramSet) :
    score settings fields entity query =
      if MatchesIn settings.matchThreshold (inDoubles fields) query entity then
        some (totalIn (inDoubles fields) query entity)
      else none := by
  have hparts : ((fields.filter fun field => field.weight > 0).map fun field =>
      (field.weight, fieldSimilarity entity query field.field)) =
      ((inDoubles fields).filter fun field => 0 < field.2).map fun field =>
        (field.2, query.similarityIn Float (fieldGrams entity field.1)) := by
    rw [inDoubles, List.filter_map, List.map_map]
    exact List.map_congr_left fun field _ => by rw [fieldSimilarity_eq]; rfl
  have hmatches : (((fields.filter fun field => field.weight > 0).map fun field =>
      (field.weight, fieldSimilarity entity query field.field)).any fun part =>
        passes settings part.2) = true ↔
      MatchesIn settings.matchThreshold (inDoubles fields) query entity := by
    rw [hparts]
    simp only [List.any_map, List.any_eq_true, List.mem_filter, decide_eq_true_eq]
    unfold MatchesIn
    simp [passes, and_assoc]
  refine if_congr hmatches ?_ rfl
  rw [hparts, List.foldl_map]
  rfl

end Noticeboard.Ranking
