import Noticeboard.Search.Ranking

/-!
# Sorted candidates

Instants and candidates are compared part by part, and such a comparison is transitive if those of
the parts are.  So sorting by it puts nothing before what is less.
-/

namespace Noticeboard.Ranking

theorem transCmp_on {α β : Type} (cmp : β → β → Ordering) [Std.TransCmp cmp] (f : α → β) :
    Std.TransCmp fun a b => cmp (f a) (f b) where
  eq_swap := Std.OrientedCmp.eq_swap
  isLE_trans := Std.TransCmp.isLE_trans

instance : Std.TransCmp Time.Date.compare :=
  inferInstanceAs (Std.TransCmp (compareLex (compareOn Time.Date.year)
    (compareLex (compareOn Time.Date.month) (compareOn Time.Date.day))))

instance : Std.TransCmp Time.Instant.compare :=
  have : Std.TransCmp fun a b : Time.Instant => a.date.compare b.date :=
    transCmp_on Time.Date.compare _
  inferInstanceAs (Std.TransCmp (compareLex (fun a b : Time.Instant => a.date.compare b.date)
    (compareLex (compareOn Time.Instant.hour) (compareLex (compareOn Time.Instant.minute)
      (compareLex (compareOn Time.Instant.second) (compareOn Time.Instant.nano))))))

/-- Sorting puts nothing before what is less. -/
theorem pairwise_mergeSort_cmp {α : Type} (cmp : α → α → Ordering) [Std.TransCmp cmp]
    (l : List α) :
    (l.mergeSort fun a b => cmp a b != .gt).Pairwise fun a b => (cmp a b).isLE = true := by
  have hle (a b : α) : (cmp a b != .gt) = (cmp a b).isLE := by
    cases cmp a b <;> rfl
  simp only [hle]
  apply List.pairwise_mergeSort
  · intro a b c hab hbc
    exact Std.TransCmp.isLE_trans hab hbc
  · intro a b
    have hswap : cmp a b = (cmp b a).swap := Std.OrientedCmp.eq_swap
    rw [hswap]
    cases cmp b a <;> decide

section Candidates

variable {E F : Type} [Searchable E F] {settings : EngineSettings}
  {fields : List (WeightedField F)} {query : String} {corpus : List E}

instance : Std.TransCmp (compare : Candidate E → Candidate E → Ordering) :=
  have : Std.TransCmp fun a b : Candidate E => Ord.compare (scoreKey b.score) (scoreKey a.score) :=
    transCmp_on (fun m n : Int => Ord.compare n m) fun a : Candidate E => scoreKey a.score
  have : Std.TransCmp fun a b : Candidate E =>
      (Searchable.createdAt b.entity).compare (Searchable.createdAt a.entity) :=
    transCmp_on (fun s t => Time.Instant.compare t s) fun a : Candidate E =>
      Searchable.createdAt a.entity
  inferInstanceAs (Std.TransCmp (compareLex
    (fun a b : Candidate E => Ord.compare (scoreKey b.score) (scoreKey a.score))
    (compareLex (fun a b : Candidate E =>
      (Searchable.createdAt b.entity).compare (Searchable.createdAt a.entity))
      (compareOn fun a : Candidate E => Searchable.id a.entity))))

theorem precedes_iff {a b : Candidate E} :
    precedes a b = true ↔ (compare a b).isLE = true := by
  unfold precedes
  cases compare a b <;> decide

theorem pairwise_mergeSort_precedes (found : List (Candidate E)) :
    (found.mergeSort precedes).Pairwise fun a b => (compare a b).isLE = true :=
  pairwise_mergeSort_cmp compare found

theorem mem_candidates {candidate : Candidate E}
    (hmem : candidate ∈ candidates settings fields query corpus) :
    score settings fields candidate.entity (TrigramSet.ofText query) = some candidate.score := by
  simp only [candidates, List.mem_mergeSort, List.mem_filterMap, Option.map_eq_some_iff] at hmem
  obtain ⟨entity, -, total, hscore, rfl⟩ := hmem
  exact hscore

theorem entity_mem_of_mem_candidates {candidate : Candidate E}
    (hmem : candidate ∈ candidates settings fields query corpus) : candidate.entity ∈ corpus := by
  simp only [candidates, List.mem_mergeSort, List.mem_filterMap, Option.map_eq_some_iff] at hmem
  obtain ⟨entity, hentity, total, -, rfl⟩ := hmem
  exact hentity

end Candidates

end Noticeboard.Ranking
