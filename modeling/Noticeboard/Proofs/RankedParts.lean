import Mathlib.Data.List.Nodup
import Mathlib.Data.List.Perm.Subperm
import Noticeboard.Proofs.RankedPages

/-!
# Ranking a part of a corpus

Where a match is listed depends on its own score, time and id.  So the ranking of a part of a corpus
is the ranking of the corpus without the other entities, in whatever order the part is given.  This
rests on ids: with ids that are pairwise different the order of candidates leaves no two of them
tied, and then there is only one way to sort them.
-/

namespace Noticeboard.Ranking

variable {E F : Type} [Searchable E F] {settings : EngineSettings}
  {fields : List (WeightedField F)} {query : String} {corpus part other : List E}

/-- The matches of a query from the best to the last. -/
def ranking (settings : EngineSettings) (fields : List (WeightedField F)) (query : String)
    (corpus : List E) : List E :=
  (candidates settings fields query corpus).map Candidate.entity

/-- The items that a search shows on a page.  A search without a match shows none. -/
def pageItems (settings : EngineSettings) (fields : List (WeightedField F)) (query : String)
    (corpus : List E) (page : UInt32) : List E :=
  match rank settings fields ⟨some query, page⟩ corpus with
  | .ok found => found.items
  | .error _ => []

/-- All pages of a search, from the first to the last that has a number. -/
def allPages (settings : EngineSettings) (fields : List (WeightedField F)) (query : String)
    (corpus : List E) : List E :=
  pagesTogether 0xFFFFFFFF (pageItems settings fields query corpus)

def isWithin (part : List E) (entity : E) : Bool :=
  part.any fun other => Searchable.id other == Searchable.id entity

/-! ## Parts -/

theorem eq_of_id_eq (hids : (corpus.map Searchable.id).Nodup) {a b : E} (ha : a ∈ corpus)
    (hb : b ∈ corpus) (hid : Searchable.id a = Searchable.id b) : a = b :=
  List.inj_on_of_nodup_map hids ha hb hid

theorem isWithin_iff (hids : (corpus.map Searchable.id).Nodup) (hpart : part ⊆ corpus) {entity : E}
    (hentity : entity ∈ corpus) : isWithin part entity = true ↔ entity ∈ part := by
  constructor
  · intro hwithin
    obtain ⟨other, hother, hid⟩ := List.any_eq_true.mp hwithin
    have hsame : other = entity := eq_of_id_eq hids (hpart hother) hentity (by simpa using hid)
    rwa [hsame] at hother
  · intro hmem
    exact List.any_eq_true.mpr ⟨entity, hmem, by simp⟩

/-- A part of a corpus holds the entities of the corpus that are within it. -/
theorem perm_filter_isWithin (hids : (corpus.map Searchable.id).Nodup)
    (hpart : part.Subperm corpus) : part.Perm (corpus.filter (isWithin part)) := by
  have hnodup : corpus.Nodup := List.Nodup.of_map _ hids
  have hpartNodup : part.Nodup := by
    obtain ⟨listed, hperm, hsublist⟩ := hpart
    exact hperm.nodup_iff.mp (hnodup.sublist hsublist)
  apply (List.perm_ext_iff_of_nodup hpartNodup (hnodup.filter _)).mpr
  intro entity
  rw [List.mem_filter]
  constructor
  · intro hmem
    have hentity : entity ∈ corpus := hpart.subset hmem
    exact ⟨hentity, (isWithin_iff hids hpart.subset hentity).mpr hmem⟩
  · rintro ⟨hentity, hwithin⟩
    exact (isWithin_iff hids hpart.subset hentity).mp hwithin

/-! ## Candidates -/

theorem id_eq_of_compare_eq {a b : Candidate E} (heq : compare a b = .eq) :
    Searchable.id a.entity = Searchable.id b.entity := by
  unfold compare at heq
  rw [Ordering.then_eq_eq, Ordering.then_eq_eq] at heq
  exact compareOfLessAndEq_eq_eq String.le_refl String.not_le |>.mp heq.2.2

/-- Candidates of one corpus are never tied. -/
theorem candidate_eq (hids : (corpus.map Searchable.id).Nodup) {a b : Candidate E}
    (ha : a.entity ∈ corpus) (hb : b.entity ∈ corpus)
    (hascore : score settings fields a.entity (TrigramSet.ofText query) = some a.score)
    (hbscore : score settings fields b.entity (TrigramSet.ofText query) = some b.score)
    (hab : (compare a b).isLE = true) (hba : (compare b a).isLE = true) : a = b := by
  have hswap : compare b a = (compare a b).swap := Std.OrientedCmp.eq_swap
  have htied : compare a b = .eq := by
    rw [hswap] at hba
    revert hab hba
    cases compare a b <;> decide
  have hentity : a.entity = b.entity := eq_of_id_eq hids ha hb (id_eq_of_compare_eq htied)
  have hscore : a.score = b.score := by
    rw [hentity, hbscore] at hascore
    exact (Option.some.inj hascore).symm
  calc
    a = ⟨a.entity, a.score⟩ := rfl
    _ = ⟨b.entity, b.score⟩ := by rw [hentity, hscore]
    _ = b := rfl

theorem candidates_perm_of_perm (hperm : other.Perm corpus) :
    (candidates settings fields query other).Perm (candidates settings fields query corpus) := by
  unfold candidates
  exact ((List.mergeSort_perm _ _).trans (hperm.filterMap _)).trans (List.mergeSort_perm _ _).symm

theorem candidates_filter_perm (p : E → Bool) :
    (candidates settings fields query (corpus.filter p)).Perm
      ((candidates settings fields query corpus).filter fun candidate => p candidate.entity) := by
  have hfound : ((corpus.filter p).filterMap fun entity =>
      (score settings fields entity (TrigramSet.ofText query)).map fun total =>
        (⟨entity, total⟩ : Candidate E)) =
      (corpus.filterMap fun entity =>
        (score settings fields entity (TrigramSet.ofText query)).map fun total =>
          (⟨entity, total⟩ : Candidate E)).filter fun candidate => p candidate.entity := by
    rw [List.filterMap_filter, List.filter_filterMap]
    congr 1
    funext entity
    cases score settings fields entity (TrigramSet.ofText query) with
    | none => simp
    | some total => by_cases hp : p entity = true <;> simp [Option.filter, hp]
  unfold candidates
  dsimp only
  rw [hfound]
  exact (List.mergeSort_perm _ _).trans ((List.mergeSort_perm _ _).filter _).symm

/-- The candidates of a part are those of the corpus that belong to the part, in the same order. -/
theorem candidates_part (hids : (corpus.map Searchable.id).Nodup) (hpart : part.Subperm corpus) :
    candidates settings fields query part =
      (candidates settings fields query corpus).filter fun candidate =>
        isWithin part candidate.entity := by
  have hunique (a b : Candidate E) (ha : a ∈ candidates settings fields query part)
      (hb : b ∈ (candidates settings fields query corpus).filter fun candidate =>
        isWithin part candidate.entity)
      (hab : (compare a b).isLE = true) (hba : (compare b a).isLE = true) : a = b := by
    have hbmem := (List.mem_filter.mp hb).1
    exact candidate_eq hids (hpart.subset (entity_mem_of_mem_candidates ha))
      (entity_mem_of_mem_candidates hbmem) (mem_candidates ha) (mem_candidates hbmem) hab hba
  apply List.Perm.eq_of_pairwise hunique
  · exact pairwise_mergeSort_precedes _
  · exact (pairwise_mergeSort_precedes _).filter _
  · exact (candidates_perm_of_perm (perm_filter_isWithin hids hpart)).trans
      (candidates_filter_perm _)

theorem ranking_part (hids : (corpus.map Searchable.id).Nodup) (hpart : part.Subperm corpus) :
    ranking settings fields query part =
      (ranking settings fields query corpus).filter (isWithin part) := by
  unfold ranking
  rw [candidates_part hids hpart, List.filter_map]
  rfl

/-- The order in which a corpus is loaded makes no difference to a search. -/
theorem rank_of_perm (hids : (corpus.map Searchable.id).Nodup) (hperm : other.Perm corpus)
    (page : UInt32) :
    rank settings fields ⟨some query, page⟩ other =
      rank settings fields ⟨some query, page⟩ corpus := by
  have hsame : candidates settings fields query other = candidates settings fields query corpus := by
    rw [candidates_part hids hperm.subperm, List.filter_eq_self]
    intro candidate hcandidate
    have hentity := entity_mem_of_mem_candidates hcandidate
    exact (isWithin_iff hids hperm.subset hentity).mpr (hperm.mem_iff.mpr hentity)
  simp only [rank, hsame]

/-! ## Pages -/

/-- Every page is a slice of the ranking. -/
theorem pageItems_eq (page : UInt32) :
    pageItems settings fields query corpus page =
      paginate settings (ranking settings fields query corpus) page := by
  unfold pageItems rank ranking pageOfCandidates
  dsimp only
  rw [← map_paginate]
  by_cases hnone : (candidates settings fields query corpus).isEmpty = true
  · have hfound := List.isEmpty_iff.mp hnone
    simp [hfound, paginate]
  · simp [hnone]

theorem length_ranking :
    (ranking settings fields query corpus).length =
      (matching settings fields query corpus).length :=
  candidates_perm.length_eq

/-- All pages together are the ranking, as long as every page has a number. -/
theorem allPages_eq (hcorpus : corpus.length < 0x10000000000000000)
    (hpages : pageCount settings (matching settings fields query corpus).length < 0x100000000) :
    allPages settings fields query corpus = ranking settings fields query corpus := by
  have hlength : (ranking settings fields query corpus).length < 0x10000000000000000 := by
    have hfewer : (matching settings fields query corpus).length ≤ corpus.length :=
      List.length_filter_le _ _
    rw [length_ranking]
    omega
  have hend : (ranking settings fields query corpus).length ≤ 0xFFFFFFFF * pageSize settings :=
    calc
      (ranking settings fields query corpus).length
        ≤ pageCount settings (ranking settings fields query corpus).length * pageSize settings :=
        le_pageCount_mul settings _
      _ ≤ 0xFFFFFFFF * pageSize settings := by
        rw [length_ranking]
        exact Nat.mul_le_mul_right _ (by omega)
  have hslices : allPages settings fields query corpus =
      (List.range 0xFFFFFFFF).flatMap fun k =>
        ((ranking settings fields query corpus).drop (k * pageSize settings)).take
          (pageSize settings) := by
    apply List.flatMap_congr
    intro k hk
    have hlast := List.mem_range.mp hk
    rw [pageItems_eq]
    exact paginate_succ hlength (by omega)
  rw [hslices, flatMap_slices, List.take_of_length_le hend]

/-- The pages of a part of a corpus, put together, are the pages of the corpus without the entities
outside the part, as long as every page of the corpus has a number.  Without that bound each single
page of the one is still a slice of a list of all matches, and each page of the other a slice of
what is left of that list.  In particular the order of the corpus makes no difference. -/
theorem ranking_independent_of_others (hids : (corpus.map Searchable.id).Nodup)
    (hpart : part.Subperm corpus) :
    (corpus.length < 0x10000000000000000 →
      pageCount settings (matching settings fields query corpus).length < 0x100000000 →
      allPages settings fields query part =
        (allPages settings fields query corpus).filter (isWithin part)) ∧
    (∃ order : List E, order.Perm (matching settings fields query corpus) ∧ ∀ page,
      pageItems settings fields query corpus page = paginate settings order page ∧
        pageItems settings fields query part page =
          paginate settings (order.filter (isWithin part)) page) ∧
    ∀ other : List E, other.Perm corpus → ∀ page,
      rank settings fields ⟨some query, page⟩ other =
        rank settings fields ⟨some query, page⟩ corpus := by
  have hranking : ranking settings fields query part =
      (ranking settings fields query corpus).filter (isWithin part) := ranking_part hids hpart
  refine ⟨?together, ?pages, ?order⟩
  case together =>
    intro hcorpus hpages
    have hfewer : (matching settings fields query part).length ≤
        (matching settings fields query corpus).length := by
      rw [← length_ranking, ← length_ranking, hranking]
      exact List.length_filter_le _ _
    have hpartPages : pageCount settings (matching settings fields query part).length <
        0x100000000 :=
      Nat.lt_of_le_of_lt (pageCount_mono settings hfewer) hpages
    have hpartLength : part.length < 0x10000000000000000 :=
      Nat.lt_of_le_of_lt hpart.length_le hcorpus
    rw [allPages_eq hpartLength hpartPages, allPages_eq hcorpus hpages, hranking]
  case pages =>
    refine ⟨ranking settings fields query corpus, candidates_perm, fun page => ?_⟩
    refine ⟨pageItems_eq page, ?_⟩
    rw [pageItems_eq, hranking]
  case order =>
    intro other hperm page
    exact rank_of_perm hids hperm page

/-- The second and the third category, the third one first. -/
def samplePart : List Category :=
  (sampleCategories.drop 1).reverse

/-- The best match is not in the part, and the second one is then its only match. -/
theorem sample_ranking_independent_of_others :
    allPages sampleSettings categoryFields "two wheels" samplePart =
        (allPages sampleSettings categoryFields "two wheels" sampleCategories).filter
          (isWithin samplePart) ∧
      allPages sampleSettings categoryFields "two wheels" samplePart = [sampleCategories[1]] := by
  have hpart : samplePart.Subperm sampleCategories :=
    (List.reverse_perm _).subperm.trans (List.drop_sublist 1 _).subperm
  have hmatching : matching sampleSettings categoryFields "two wheels" sampleCategories =
      sampleCategories.take 2 := by
    decide +kernel
  have hpages : pageCount sampleSettings
      (matching sampleSettings categoryFields "two wheels" sampleCategories).length <
        0x100000000 := by
    rw [hmatching]
    decide
  constructor
  · exact (ranking_independent_of_others (by decide) hpart).1 (by decide) hpages
  · rw [allPages_eq (by decide) (by decide +kernel)]
    decide +kernel

end Noticeboard.Ranking
