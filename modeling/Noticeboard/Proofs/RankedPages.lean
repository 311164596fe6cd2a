import Noticeboard.Proofs.CloserRecords
import Noticeboard.Proofs.Paging
import Noticeboard.Proofs.SortedCandidates
import Noticeboard.Time.Epoch

/-!
# Ranked pages

The pages of a ranked search, one after another, are a single list: every match once for each time
it stands in the corpus, by descending weighted sum, then later ones first, then by ascending id.
Each page is computed anew, so this rests on the list of matches being the same for every page.

A weighted sum that is no number comes from an infinite weight at a field that is not similar to the
query.  Where it stands depends on the sign that the machine gives to it, and the program has it
below all numbers.
-/

namespace Noticeboard.Ranking

/-! ## The order of scores -/

/-- Whether bits of a double have the sign bit set. -/
def isSigned (bits : UInt64) : Bool :=
  0x8000000000000000 ≤ bits.toNat

/-- The total order of doubles by their bits: by sign, and then by the other bits, upwards above
zero and downwards below. -/
def compareBits (a b : UInt64) : Ordering :=
  match isSigned a, isSigned b with
  | true, true => Ord.compare b.toNat a.toNat
  | true, false => .lt
  | false, true => .gt
  | false, false => Ord.compare a.toNat b.toNat

/-- The bits of a score.  A score that is no number has the bits that the machine gives to the
product of infinity and zero, from which alone it can come. -/
def scoreBits (nan : UInt64) (x : Float) : UInt64 :=
  if x.isNaN then nan else x.toBits

theorem scoreBits_of_number {nan : UInt64} {x : Float} (hnumber : x.isNaN = false) :
    scoreBits nan x = x.toBits :=
  if_neg (Bool.eq_false_iff.mp hnumber)

/-- The total order of scores on such a machine. -/
def totalCompare (nan : UInt64) (x y : Float) : Ordering :=
  compareBits (scoreBits nan x) (scoreBits nan y)

/-- Bits of no number with the sign bit set, which infinity times zero has on an x86-64. -/
def IsSignedNaN (nan : UInt64) : Prop :=
  0xFFF0000000000000 < nan.toNat

instance (nan : UInt64) : Decidable (IsSignedNaN nan) :=
  inferInstanceAs (Decidable (_ < _))

/-- The place of bits among all bits. -/
def bitsKey (bits : UInt64) : Int :=
  if isSigned bits then 0x7FFFFFFFFFFFFFFF - (bits.toNat : Int) else bits.toNat

theorem bitsKey_of_signed {bits : UInt64} (hsign : isSigned bits = true) :
    bitsKey bits = 0x7FFFFFFFFFFFFFFF - (bits.toNat : Int) ∧ bitsKey bits < 0 := by
  have hbits : 0x8000000000000000 ≤ bits.toNat := by simpa [isSigned] using hsign
  have hkey : bitsKey bits = 0x7FFFFFFFFFFFFFFF - (bits.toNat : Int) := if_pos hsign
  exact ⟨hkey, by omega⟩

theorem bitsKey_of_unsigned {bits : UInt64} (hsign : isSigned bits = false) :
    bitsKey bits = bits.toNat :=
  if_neg (Bool.eq_false_iff.mp hsign)

theorem compare_congr {a b : Int} {m n : Nat} (hlt : a < b ↔ m < n) (heq : a = b ↔ m = n) :
    Ord.compare a b = Ord.compare m n := by
  simp only [Ord.compare, compareOfLessAndEq, hlt, heq]

theorem compare_bitsKey (a b : UInt64) :
    Ord.compare (bitsKey a) (bitsKey b) = compareBits a b := by
  unfold compareBits
  cases ha : isSigned a with
  | true =>
      have hakey := bitsKey_of_signed ha
      cases hb : isSigned b with
      | true =>
          have hbkey := bitsKey_of_signed hb
          exact compare_congr (by omega) (by omega)
      | false =>
          have hbkey := bitsKey_of_unsigned hb
          exact Int.compare_eq_lt.mpr (by omega)
  | false =>
      have hakey := bitsKey_of_unsigned ha
      cases hb : isSigned b with
      | true =>
          have hbkey := bitsKey_of_signed hb
          exact Int.compare_eq_gt.mpr (by omega)
      | false =>
          have hbkey := bitsKey_of_unsigned hb
          exact compare_congr (by omega) (by omega)

theorem scoreKey_of_number {x : Float} (hnumber : x.isNaN = false) :
    scoreKey x = bitsKey x.toBits := by
  unfold scoreKey bitsKey isSigned
  rw [hnumber]
  by_cases hbits : x.toBits.toNat < 0x8000000000000000
  · simp [hbits, Nat.not_le.mpr hbits]
  · simp [hbits, Nat.not_lt.mp hbits]

theorem scoreKey_of_isNaN {x : Float} (hnone : x.isNaN = true) :
    scoreKey x = -0x10000000000000000 := by
  unfold scoreKey
  rw [if_pos hnone]

theorem toBits_le_of_number {x : Float} (hnumber : x.isNaN = false) :
    x.toBits.toNat ≤ 0xFFF0000000000000 := by
  by_contra hlarge
  have hnone : x.toModel.unpack = .notANumber := Doubles.unpack_of_large (Nat.not_le.mp hlarge)
  have hnan : x.isNaN = true := congrArg Float.Model.UnpackedFloat.isNaN hnone
  rw [hnumber] at hnan
  contradiction

/-- What is no number has its place below all numbers, and there the program puts it. -/
theorem places_of_isNaN {nan : UInt64} (hnan : IsSignedNaN nan) {x y : Float}
    (hnone : x.isNaN = true) (hnumber : y.isNaN = false) :
    bitsKey (scoreBits nan x) < bitsKey (scoreBits nan y) ∧ scoreKey x < scoreKey y := by
  have hlarge : 0xFFF0000000000000 < nan.toNat := hnan
  have hx : bitsKey (scoreBits nan x) = 0x7FFFFFFFFFFFFFFF - (nan.toNat : Int) := by
    have hsigned : isSigned nan = true := decide_eq_true (by omega)
    rw [scoreBits, if_pos hnone, (bitsKey_of_signed hsigned).1]
  have hy : -0x7FF0000000000001 ≤ bitsKey y.toBits := by
    have hbits := toBits_le_of_number hnumber
    unfold bitsKey
    split <;> omega
  rw [hx, scoreKey_of_isNaN hnone, scoreKey_of_number hnumber, scoreBits_of_number hnumber]
  constructor
  · omega
  · omega

/-- The keys of scores stand in the total order of the scores. -/
theorem compare_scoreKey {nan : UInt64} {x y : Float}
    (hnan : x.isNaN = true ∨ y.isNaN = true → IsSignedNaN nan) :
    Ord.compare (scoreKey x) (scoreKey y) = totalCompare nan x y := by
  rw [totalCompare, ← compare_bitsKey]
  cases hx : x.isNaN with
  | true =>
      have hsigned : IsSignedNaN nan := hnan (.inl hx)
      cases hy : y.isNaN with
      | true =>
          have hkeys : scoreKey x = scoreKey y := by
            rw [scoreKey_of_isNaN hx, scoreKey_of_isNaN hy]
          have hbits : scoreBits nan x = scoreBits nan y := by
            rw [scoreBits, scoreBits, if_pos hx, if_pos hy]
          rw [Int.compare_eq_eq.mpr hkeys, Int.compare_eq_eq.mpr (congrArg bitsKey hbits)]
      | false =>
          obtain ⟨hplaces, hkeys⟩ := places_of_isNaN hsigned hx hy
          rw [Int.compare_eq_lt.mpr hkeys, Int.compare_eq_lt.mpr hplaces]
  | false =>
      cases hy : y.isNaN with
      | true =>
          obtain ⟨hplaces, hkeys⟩ := places_of_isNaN (hnan (.inr hy)) hy hx
          rw [Int.compare_eq_gt.mpr hkeys, Int.compare_eq_gt.mpr hplaces]
      | false =>
          rw [scoreKey_of_number hx, scoreKey_of_number hy, scoreBits_of_number hx,
            scoreBits_of_number hy]

/-! ## Matches -/

section Matches

variable {E F : Type} [Searchable E F] {settings : EngineSettings}
  {fields : List (WeightedField F)} {query : String} {entity : E} {corpus : List E}

/-- Some field with a weight is similar to the query at all, and similar enough on its own. -/
def Matches (settings : EngineSettings) (fields : List (WeightedField F)) (query : String)
    (entity : E) : Prop :=
  MatchesIn settings.matchThreshold (inDoubles fields) (.ofText query) entity

instance (entity : E) : Decidable (Matches settings fields query entity) :=
  inferInstanceAs (Decidable (MatchesIn _ _ _ _))

/-- The matches of a corpus in its own order. -/
def matching (settings : EngineSettings) (fields : List (WeightedField F)) (query : String)
    (corpus : List E) : List E :=
  corpus.filter fun entity => decide (Matches settings fields query entity)

/-- The weighted sum that a record scores. -/
def total (fields : List (WeightedField F)) (query : String) (entity : E) : Float :=
  totalIn (inDoubles fields) (.ofText query) entity

/-- One match stands before another: by a higher weighted sum, then by a later time, then by an id
that is not greater. -/
def ListedBefore (nan : UInt64) (fields : List (WeightedField F)) (query : String) (a b : E) :
    Prop :=
  totalCompare nan (total fields query a) (total fields query b) = .gt ∨
    totalCompare nan (total fields query a) (total fields query b) = .eq ∧
      ((Searchable.createdAt a).compare (Searchable.createdAt b) = .gt ∨
        (Searchable.createdAt a).compare (Searchable.createdAt b) = .eq ∧
          Searchable.id a ≤ Searchable.id b)

theorem score_eq_total :
    score settings fields entity (.ofText query) =
      if Matches settings fields query entity then some (total fields query entity) else none :=
  score_eq settings fields entity (.ofText query)

theorem score_of_mem_candidates {candidate : Candidate E}
    (hmem : candidate ∈ candidates settings fields query corpus) :
    candidate.score = total fields query candidate.entity := by
  have hscore := mem_candidates hmem
  rw [score_eq_total, Option.ite_none_right_eq_some] at hscore
  exact (Option.some.inj hscore.2).symm

/-- The candidates are the matches, each as often as it stands in the corpus. -/
theorem candidates_perm :
    ((candidates settings fields query corpus).map Candidate.entity).Perm
      (matching settings fields query corpus) := by
  have hfound (entities : List E) : (entities.filterMap fun entity =>
      (score settings fields entity (TrigramSet.ofText query)).map fun total =>
        (⟨entity, total⟩ : Candidate E)).map Candidate.entity =
      matching settings fields query entities := by
    unfold matching
    induction entities with
    | nil => rfl
    | cons entity rest ih =>
        by_cases hmatches : Matches settings fields query entity
        · simpa [score_eq_total, hmatches] using ih
        · simpa [score_eq_total, hmatches] using ih
  rw [← hfound corpus]
  exact (List.mergeSort_perm _ _).map _

theorem listedBefore_of_compare {nan : UInt64} {a b : Candidate E}
    (ha : a.score = total fields query a.entity) (hb : b.score = total fields query b.entity)
    (hnan : a.score.isNaN = true ∨ b.score.isNaN = true → IsSignedNaN nan)
    (hab : (compare a b).isLE = true) : ListedBefore nan fields query a.entity b.entity := by
  have hscores : Ord.compare (scoreKey b.score) (scoreKey a.score) =
      (totalCompare nan a.score b.score).swap := by
    rw [← compare_scoreKey hnan]
    exact Std.OrientedCmp.eq_swap
  have htimes : (Searchable.createdAt b.entity).compare (Searchable.createdAt a.entity) =
      ((Searchable.createdAt a.entity).compare (Searchable.createdAt b.entity)).swap :=
    Std.OrientedCmp.eq_swap
  have hids : (Ord.compare (Searchable.id a.entity) (Searchable.id b.entity)).isLE = true ↔
      Searchable.id a.entity ≤ Searchable.id b.entity :=
    isLE_compareOfLessAndEq String.le_antisymm String.not_le String.le_total
  rw [ListedBefore, ← ha, ← hb]
  simpa only [compare, Ordering.isLE_then_iff_or, hscores, htimes, hids, Ordering.swap_eq_lt,
    Ordering.swap_eq_eq] using hab

/-- An infinite weight that counts. -/
def HasInfiniteWeight (fields : List (WeightedField F)) : Prop :=
  ∃ field ∈ fields, 0 < field.weight ∧ field.weight.isFinite = false

theorem hasInfiniteWeight_of_isNaN (hnone : (total fields query entity).isNaN = true) :
    HasInfiniteWeight fields := by
  by_contra hfinite
  have hnumber : (total fields query entity).isNaN = false := by
    apply isNaN_totalIn
    intro field hmem hpos
    by_contra hinfinite
    exact hfinite ⟨field, hmem, hpos, Bool.not_eq_true _ ▸ hinfinite⟩
  rw [hnone] at hnumber
  contradiction

theorem candidates_pairwise {nan : UInt64} (hnan : HasInfiniteWeight fields → IsSignedNaN nan) :
    ((candidates settings fields query corpus).map Candidate.entity).Pairwise
      (ListedBefore nan fields query) := by
  apply List.pairwise_map.mpr
  have hsorted : (candidates settings fields query corpus).Pairwise fun a b =>
      (compare a b).isLE = true :=
    pairwise_mergeSort_precedes _
  refine hsorted.imp_of_mem fun {a b} ha hb hab => ?_
  have hascore : a.score = total fields query a.entity := score_of_mem_candidates ha
  have hbscore : b.score = total fields query b.entity := score_of_mem_candidates hb
  refine listedBefore_of_compare hascore hbscore ?_ hab
  rw [hascore, hbscore]
  rintro (hnone | hnone)
  · exact hnan (hasInfiniteWeight_of_isNaN hnone)
  · exact hnan (hasInfiniteWeight_of_isNaN hnone)

/-- The pages of a search: an error if there is no match at all, and otherwise slices of one list
that has every match as often as the corpus has it, in the order of the search.

Only with an infinite weight there can be sums that are no numbers.  They are in order on machines
where the product of infinity and zero has its sign bit set. -/
theorem ranked_pages {nan : UInt64} (hnan : HasInfiniteWeight fields → IsSignedNaN nan)
    (hcorpus : corpus.length < 0x10000000000000000)
    (hpages : pageCount settings (matching settings fields query corpus).length < 0x100000000) :
    (matching settings fields query corpus = [] →
      ∃ failure : Failure, failure.kind = .notFound ∧
        ∀ page, rank settings fields ⟨some query, page⟩ corpus = .error failure) ∧
    (matching settings fields query corpus ≠ [] →
      ∃ items : UInt32 → List E,
        (∀ page, rank settings fields ⟨some query, page⟩ corpus =
          .ok ⟨items page, page, pageSize settings, (matching settings fields query corpus).length,
            some query⟩) ∧
        (pagesTogether (pageCount settings (matching settings fields query corpus).length)
          items).Perm (matching settings fields query corpus) ∧
        (pagesTogether (pageCount settings (matching settings fields query corpus).length)
          items).Pairwise (ListedBefore nan fields query) ∧
        (∀ k, k + 1 < pageCount settings (matching settings fields query corpus).length →
          (items (UInt32.ofNat (k + 1))).length = pageSize settings) ∧
        ∀ page, pageCount settings (matching settings fields query corpus).length < page.toNat →
          items page = []) := by
  have hperm : ((candidates settings fields query corpus).map Candidate.entity).Perm
      (matching settings fields query corpus) := candidates_perm
  have hsame : ((candidates settings fields query corpus).map Candidate.entity).length =
      (matching settings fields query corpus).length := hperm.length_eq
  have hlength : ((candidates settings fields query corpus).map Candidate.entity).length <
      0x10000000000000000 := by
    have hfewer : (matching settings fields query corpus).length ≤ corpus.length :=
      List.length_filter_le _ _
    omega
  have hcount : (candidates settings fields query corpus).length =
      (matching settings fields query corpus).length := by
    rw [← hsame, List.length_map]
  constructor
  · intro hnone
    refine ⟨.nothingMatches (Searchable.label E) query, rfl, fun page => ?_⟩
    have hempty : candidates settings fields query corpus = [] := by
      apply List.eq_nil_of_length_eq_zero
      rw [hcount, hnone, List.length_nil]
    simp [rank, pageOfCandidates, hempty]
  · intro hsome
    have hfound : (candidates settings fields query corpus).isEmpty = false := by
      rw [List.isEmpty_eq_false_iff, ← List.length_pos_iff, hcount, List.length_pos_iff]
      exact hsome
    rw [← hsame] at hpages ⊢
    refine ⟨paginate settings ((candidates settings fields query corpus).map Candidate.entity),
      fun page => ?_, ?_, ?_, fun k hk => ?_, fun page hpage => ?_⟩
    · simp [rank, pageOfCandidates, hfound, map_paginate]
    · rw [pagesTogether_paginate hlength hpages]
      exact hperm
    · rw [pagesTogether_paginate hlength hpages]
      exact candidates_pairwise hnan
    · exact length_paginate hlength hpages hk
    · exact paginate_eq_nil hlength hpage

end Matches

/-- Two categories of one description, and one without. -/
def sampleCategories : List Category :=
  let morning : Time.Instant := .sinceEpoch 28800 0
  let noon : Time.Instant := .sinceEpoch 43200 0
  [⟨"1", "bikes", some "All on two wheels", noon, noon⟩,
    ⟨"2", "scooters", some "All on two wheels", morning, noon⟩,
    ⟨"3", "books", none, morning, morning⟩]

theorem sample_ranked_pages :
    ∃ items : UInt32 → List Category,
      (∀ page, rank sampleSettings categoryFields ⟨some "two wheels", page⟩ sampleCategories =
        .ok ⟨items page, page, 1, 2, some "two wheels"⟩) ∧
      (items 1 ++ items 2).Perm (sampleCategories.take 2) ∧
      (items 1 ++ items 2).Pairwise
        (ListedBefore 0xFFF8000000000000 categoryFields "two wheels") ∧
      items 3 = [] := by
  have hmatching : matching sampleSettings categoryFields "two wheels" sampleCategories =
      sampleCategories.take 2 := by
    decide +kernel
  have hcount : pageCount sampleSettings (sampleCategories.take 2).length = 2 := by decide
  have hpages := @ranked_pages _ _ _ sampleSettings categoryFields "two wheels" sampleCategories
    0xFFF8000000000000 (fun _ => by decide) (by decide) (by rw [hmatching, hcount]; decide)
  rw [hmatching, hcount] at hpages
  obtain ⟨items, hanswers, htogether, hordered, -, hbehind⟩ := hpages.2 (by decide)
  have hboth : pagesTogether 2 items = items 1 ++ items 2 := by
    simp [pagesTogether, List.range_succ]
  rw [hboth] at htogether hordered
  exact ⟨items, hanswers, htogether, hordered, hbehind 3 (by decide)⟩

end Noticeboard.Ranking
