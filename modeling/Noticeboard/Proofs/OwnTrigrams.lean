import Mathlib.Data.List.Perm.Subperm
import Noticeboard.Proofs.Doubles
import Noticeboard.Proofs.NormalizedNames
import Noticeboard.Search.Trigram

/-!
# The trigrams of a normalized query

A query is lower-cased as a whole, and a text character by character before it is cut into words.
Only a capital sigma at the end of a word tells both apart.  Without one, a query that is trimmed
and lower-cased has the trigrams of the text it was made of, and is as similar to it as can be.
-/

namespace Noticeboard

namespace Text

/-! ## Blanks -/

/-- A character that is neither a part of a word nor looked at for a sigma, and is in lower case. -/
structure IsPlain (c : Char) : Prop where
  separates : isAlphanumeric c = false
  uncased : isCased c = false
  seen : isCaseIgnorable c = false
  lowered : lowerChar c = [c]

theorem blankCodes_plain :
    (blankCodes.all fun range => (List.range' range.1 (range.2 - range.1 + 1)).all fun code =>
      !alphanumericCodes.contains code && !casedCodes.contains code &&
        !caseIgnorableCodes.contains code && lowerCode code capitalRuns == code && code != 0x130) =
      true := by
  decide +kernel

theorem isPlain_of_isBlank {c : Char} (h : isBlank c = true) : IsPlain c := by
  obtain ⟨range, hrange, hfirst, hlast⟩ := exists_range_of_contains h
  have hcodes := List.all_eq_true.mp blankCodes_plain range hrange
  have hmem : c.toNat ∈ List.range' range.1 (range.2 - range.1 + 1) := by
    rw [List.mem_range'_1]
    omega
  have hcode := List.all_eq_true.mp hcodes c.toNat hmem
  simp only [Bool.and_eq_true, Bool.not_eq_true', beq_iff_eq, bne_iff_ne] at hcode
  obtain ⟨⟨⟨⟨hseparates, huncased⟩, hseen⟩, hlowered⟩, hdotted⟩ := hcode
  refine ⟨hseparates, huncased, hseen, ?_⟩
  have hother : c ≠ 'İ' := by
    rintro rfl
    exact hdotted rfl
  rw [lowerChar, if_neg hother, hlowered, Char.ofNat_toNat]

theorem flatMap_lowerChar_of_small {text : List Char} (h : ∀ c ∈ text, lowerChar c = [c]) :
    text.flatMap lowerChar = text := by
  rw [List.flatMap_congr h, List.flatMap_singleton']

/-- Trimming takes blanks from both ends. -/
theorem exists_blanks (text : String) :
    ∃ before after, text.toList = before ++ (trim text).toList ++ after ∧
      (∀ c ∈ before, isBlank c = true) ∧ ∀ c ∈ after, isBlank c = true := by
  refine ⟨text.toList.takeWhile isBlank, (text.toList.dropWhile isBlank).rtakeWhile isBlank, ?_,
    fun c hc => List.mem_takeWhile_imp hc, fun c hc => List.mem_rtakeWhile_imp hc⟩
  rw [trim_eq, List.append_assoc, List.rdropWhile_append_rtakeWhile,
    List.takeWhile_append_dropWhile]

/-! ## Sigma at the end of a word -/

/-- Whether a capital sigma ends a word of a text, behind characters that are listed from the
nearest to the first. -/
def sigmaEndsWord (before : List Char) : List Char → Bool
  | [] => false
  | c :: rest =>
    (c == 'Σ' && meetsCased before && !meetsCased rest) || sigmaEndsWord (c :: before) rest

/-- Apart from a sigma that ends a word, the lower case of a text is that of its characters. -/
theorem lowerAfter_eq_flatMap_iff {before text : List Char} :
    lowerAfter before text = text.flatMap lowerChar ↔ sigmaEndsWord before text = false := by
  induction text generalizing before with
  | nil => simp [lowerAfter, sigmaEndsWord]
  | cons c rest ih =>
      rw [lowerAfter_cons, List.flatMap_cons, sigmaEndsWord, Bool.or_eq_false_iff]
      by_cases hsigma : c = 'Σ'
      · subst hsigma
        have hsmall : lowerChar 'Σ' = ['σ'] := by decide
        rw [lowerHere, if_pos rfl, hsmall]
        cases hends : meetsCased before && !meetsCased rest with
        | true => simp [hends]
        | false => simp [hends, ih]
      · rw [lowerHere, if_neg hsigma, List.append_cancel_left_eq, ih]
        simp [hsigma]

section Blanks

variable {blanks : List Char}

theorem meetsCased_append (h : ∀ c ∈ blanks, isBlank c = true) (text : List Char) :
    meetsCased (text ++ blanks) = meetsCased text := by
  unfold meetsCased
  induction text with
  | nil =>
      cases blanks with
      | nil => rfl
      | cons c rest =>
          have hplain := isPlain_of_isBlank (h c List.mem_cons_self)
          simp [hplain.seen, hplain.uncased]
  | cons c rest ih =>
      by_cases hignorable : isCaseIgnorable c = true
      · simpa [hignorable] using ih
      · simp [hignorable]

theorem ne_sigma_of_isBlank {c : Char} (h : isBlank c = true) : (c == 'Σ') = false := by
  rw [beq_eq_false_iff_ne]
  rintro rfl
  revert h
  decide

theorem sigmaEndsWord_behind (h : ∀ c ∈ blanks, isBlank c = true) (before text : List Char) :
    sigmaEndsWord (before ++ blanks) text = sigmaEndsWord before text := by
  induction text generalizing before with
  | nil => rfl
  | cons c rest ih =>
      have hrest := ih (c :: before)
      rw [List.cons_append] at hrest
      rw [sigmaEndsWord, sigmaEndsWord, meetsCased_append h, hrest]

theorem sigmaEndsWord_past (h : ∀ c ∈ blanks, isBlank c = true) (before text : List Char) :
    sigmaEndsWord before (blanks ++ text) = sigmaEndsWord (blanks.reverse ++ before) text := by
  induction blanks generalizing before with
  | nil => rfl
  | cons c rest ih =>
      rw [List.cons_append, sigmaEndsWord, ne_sigma_of_isBlank (h c List.mem_cons_self)]
      have hrest := ih (fun d hd => h d (List.mem_cons_of_mem c hd)) (c :: before)
      simpa using hrest

theorem sigmaEndsWord_append (h : ∀ c ∈ blanks, isBlank c = true) (before text : List Char) :
    sigmaEndsWord before (text ++ blanks) = sigmaEndsWord before text := by
  induction text generalizing before with
  | nil =>
      rw [List.nil_append, ← List.append_nil blanks, sigmaEndsWord_past h]
      rfl
  | cons c rest ih =>
      rw [List.cons_append, sigmaEndsWord, sigmaEndsWord, meetsCased_append h, ih]

theorem sigmaEndsWord_trim (text : String) :
    sigmaEndsWord [] (trim text).toList = sigmaEndsWord [] text.toList := by
  obtain ⟨before, after, hparts, hbefore, hafter⟩ := exists_blanks text
  have hreverse : ∀ c ∈ before.reverse, isBlank c = true := by simpa using hbefore
  rw [hparts, sigmaEndsWord_append hafter, sigmaEndsWord_past hbefore, List.append_nil,
    ← List.nil_append before.reverse, sigmaEndsWord_behind hreverse]

end Blanks

end Text

namespace TrigramSet

open Text

/-! ## Words -/

section Words

variable {c : Char} {text gap : List Char}

theorem words_cons (h : isAlphanumeric c = false) : words (c :: text) = words text := by
  simp [words, pieces, h]

theorem pieces_ne_nil (text : List Char) : pieces text ≠ [] := by
  cases text with
  | nil => simp [pieces]
  | cons c rest =>
      unfold pieces
      split
      · split <;> simp
      · simp

/-- A text falls apart at every character that is not alphanumeric. -/
theorem pieces_append_cons (h : isAlphanumeric c = false) (text rest : List Char) :
    pieces (text ++ c :: rest) = pieces text ++ pieces rest := by
  induction text with
  | nil => simp [pieces, h]
  | cons d more ih =>
      by_cases hd : isAlphanumeric d = true
      · obtain ⟨piece, others, hmore⟩ := List.exists_cons_of_ne_nil (pieces_ne_nil more)
        simp [pieces, hd, ih, hmore]
      · simp [pieces, hd, ih]

theorem words_append_cons (h : isAlphanumeric c = false) (text rest : List Char) :
    words (text ++ c :: rest) = words text ++ words rest := by
  rw [words, pieces_append_cons h, List.filter_append]
  rfl

theorem words_past (h : ∀ c ∈ gap, isAlphanumeric c = false) (text : List Char) :
    words (gap ++ text) = words text := by
  induction gap with
  | nil => rfl
  | cons c rest ih =>
      rw [List.cons_append, words_cons (h c List.mem_cons_self)]
      exact ih fun d hd => h d (List.mem_cons_of_mem c hd)

theorem words_gap (h : ∀ c ∈ gap, isAlphanumeric c = false) : words gap = [] := by
  rw [← List.append_nil gap, words_past h]
  rfl

theorem words_between (h : ∀ c ∈ gap, isAlphanumeric c = false) (hsome : gap ≠ [])
    (text rest : List Char) : words (text ++ (gap ++ rest)) = words text ++ words rest := by
  obtain ⟨c, others, rfl⟩ := List.exists_cons_of_ne_nil hsome
  rw [List.cons_append, words_append_cons (h c List.mem_cons_self),
    words_past fun d hd => h d (List.mem_cons_of_mem c hd)]

theorem words_before (h : ∀ c ∈ gap, isAlphanumeric c = false) (text : List Char) :
    words (text ++ gap) = words text := by
  by_cases hsome : gap = []
  · rw [hsome, List.append_nil]
  · have hparts := words_between h hsome text []
    rw [List.append_nil] at hparts
    exact hparts.trans (List.append_nil _)

theorem words_ne_nil (hmem : c ∈ text) (h : isAlphanumeric c = true) : words text ≠ [] := by
  induction text with
  | nil => simp at hmem
  | cons d rest ih =>
      by_cases hd : isAlphanumeric d = true
      · obtain ⟨piece, more, hrest⟩ := List.exists_cons_of_ne_nil (pieces_ne_nil rest)
        simp [words, pieces, hd, hrest]
      · have hrest : c ∈ rest := by
          rcases List.mem_cons.mp hmem with rfl | hrest
          · contradiction
          · exact hrest
        rw [words_cons (by simpa using hd)]
        exact ih hrest

theorem ofWord_ne_nil (word : List Char) : ofWord word ≠ [] := by
  cases word <;> simp [ofWord, windows]

/-- The words of a text do not change when it is trimmed. -/
theorem words_lowered_trim (text : String) :
    words ((trim text).toList.flatMap lowerChar) = words (text.toList.flatMap lowerChar) := by
  obtain ⟨before, after, hparts, hbefore, hafter⟩ := exists_blanks text
  have hlowered {blanks : List Char} (h : ∀ c ∈ blanks, isBlank c = true) :
      blanks.flatMap lowerChar = blanks :=
    flatMap_lowerChar_of_small fun c hc => (isPlain_of_isBlank (h c hc)).lowered
  rw [hparts, List.flatMap_append, List.flatMap_append, hlowered hbefore, hlowered hafter,
    words_before fun c hc => (isPlain_of_isBlank (hafter c hc)).separates,
    words_past fun c hc => (isPlain_of_isBlank (hbefore c hc)).separates]

end Words

/-! ## A set and itself -/

section Self

variable {set : TrigramSet}

theorem place_ne_nil (g : Trigram) (l : List Trigram) : place g l ≠ [] := by
  cases l with
  | nil => simp [place]
  | cons head rest =>
      unfold place
      split
      · simp
      · split <;> simp

theorem isEmpty_ofList {grams : List Trigram} (h : grams ≠ []) :
    (ofList grams).isEmpty = false := by
  obtain ⟨init, last, rfl⟩ := List.eq_nil_or_concat grams |>.resolve_left h
  rw [ofList, List.concat_eq_append, List.foldl_append]
  exact List.isEmpty_eq_false_iff.mpr (place_ne_nil last _)

theorem isEmpty_ofText {text : String}
    (h : ∃ c ∈ text.toList.flatMap lowerChar, isAlphanumeric c = true) :
    (ofText text).isEmpty = false := by
  obtain ⟨c, hmem, hc⟩ := h
  apply isEmpty_ofList
  obtain ⟨word, rest, hwords⟩ := List.exists_cons_of_ne_nil (words_ne_nil hmem hc)
  rw [hwords, List.flatMap_cons]
  exact List.append_ne_nil_of_left_ne_nil (ofWord_ne_nil word) _

theorem key_lt (g : Trigram) : g.key < 2 ^ 63 - 1 := by
  have hcode (c : Char) : c.toNat < 0x110000 := by
    have hvalid : c.toNat.isValidChar := c.valid
    unfold Nat.isValidChar at hvalid
    omega
  have hfirst := hcode g.first
  have hsecond := hcode g.second
  have hthird := hcode g.third
  unfold Trigram.key
  omega

/-- Keys are numbers of 63 bits, and no two members have the same. -/
theorem size_lt (set : TrigramSet) : set.size < 2 ^ 63 := by
  have hnodup : (set.members.map Trigram.key).Nodup :=
    List.pairwise_map.mpr (set.ascending.imp fun h => Nat.ne_of_lt h)
  have hsubset : set.members.map Trigram.key ⊆ List.range (2 ^ 63 - 1) := by
    intro key hkey
    obtain ⟨g, -, rfl⟩ := List.mem_map.mp hkey
    exact List.mem_range.mpr (key_lt g)
  have hlength := (List.subperm_of_subset hnodup hsubset).length_le
  rw [List.length_map, List.length_range] at hlength
  exact Nat.lt_of_le_pred (by decide) hlength

theorem shared_self (set : TrigramSet) : set.shared set = set.size := by
  rw [shared, if_pos (Nat.le_refl _), size, List.countP_eq_length]
  intro g hg
  simpa [contains] using hg

theorem similarity_self (h : set.isEmpty = false) : set.similarity set = 1.0 := by
  have hsome : set.size ≠ 0 := by
    rw [size, Ne, List.length_eq_zero_iff]
    exact List.isEmpty_eq_false_iff.mp h
  have hsize := set.size_lt
  unfold similarity joint
  rw [h, shared_self, Nat.add_sub_cancel]
  exact Doubles.ofNat_div_self hsome (by omega)

end Self

end TrigramSet

/-! ## Normalized queries -/

section Queries

variable {text query : String}

open Text

/-- A text with a letter or a number in it is no blank query. -/
theorem normalizeQuery_of_letters
    (h : ∃ c ∈ text.toList.flatMap lowerChar, isAlphanumeric c = true) :
    normalizeQuery text = some (lower (trim text)) := by
  have hsome : (trim text).isEmpty = false := by
    rw [← Bool.not_eq_true, trim_isEmpty_iff]
    intro hblank
    obtain ⟨c, hmem, hc⟩ := h
    rw [isBlankText, List.all_eq_true] at hblank
    rw [flatMap_lowerChar_of_small fun d hd => (isPlain_of_isBlank (hblank d hd)).lowered] at hmem
    rw [(isPlain_of_isBlank (hblank c hmem)).separates] at hc
    contradiction
  simp [normalizeQuery, hsome]

theorem ofText_lower_trim (h : sigmaEndsWord [] text.toList = false) :
    TrigramSet.ofText (lower (trim text)) = TrigramSet.ofText text := by
  have hlowered : (lower (trim text)).toList = (trim text).toList.flatMap lowerChar := by
    rw [lower, String.toList_ofList, lowerAfter_eq_flatMap_iff, sigmaEndsWord_trim, h]
  have hsmall : ∀ c ∈ (lower (trim text)).toList, lowerChar c = [c] := by
    intro c hc
    rw [lower, String.toList_ofList] at hc
    exact lowerChar_of_mem_lowerAfter hc
  unfold TrigramSet.ofText
  rw [flatMap_lowerChar_of_small hsmall, hlowered, TrigramSet.words_lowered_trim]

end Queries

end Noticeboard
