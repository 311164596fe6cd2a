import Noticeboard.Proofs.GramSets

/-!
# Trigrams of words

The trigrams of a text are those of its words, and no window of three characters reaches over the
border of a word.  So they depend on the set of words alone: neither on their order, nor on how
often they stand in the text, nor on what separates them.
-/

namespace Noticeboard

namespace Text

/-- Nothing of the lower case of a text is part of a word. -/
def Separates (text : String) : Prop :=
  ∀ c ∈ text.toList.flatMap lowerChar, isAlphanumeric c = false

-- By name: the instance for a statement about all characters would go through every one there is.
instance (text : String) : Decidable (Separates text) :=
  List.decidableBAll (fun c => isAlphanumeric c = false) (text.toList.flatMap lowerChar)

theorem lowerChar_ne_nil (c : Char) : lowerChar c ≠ [] := by
  unfold lowerChar
  split <;> simp

theorem lowered_ne_nil {text : String} (h : text ≠ "") : text.toList.flatMap lowerChar ≠ [] := by
  have hsome : text.toList ≠ [] := fun hnil => h (String.toList_eq_nil_iff.mp hnil)
  obtain ⟨c, rest, htext⟩ := List.exists_cons_of_ne_nil hsome
  rw [htext, List.flatMap_cons]
  exact List.append_ne_nil_of_left_ne_nil (lowerChar_ne_nil c) _

end Text

namespace TrigramSet

open Text

/-! ## Words of a text -/

/-- The words of a text in their order, in lower case. -/
def wordsOf (text : String) : List (List Char) :=
  words (text.toList.flatMap lowerChar)

section Gaps

variable {gap text rest : String}

theorem wordsOf_gap (h : Separates gap) : wordsOf gap = [] :=
  words_gap h

theorem wordsOf_past (h : Separates gap) (text : String) :
    wordsOf (gap ++ text) = wordsOf text := by
  rw [wordsOf, String.toList_append, List.flatMap_append]
  exact words_past h _

theorem wordsOf_between (h : Separates gap) (hsome : gap ≠ "") (text rest : String) :
    wordsOf (text ++ gap ++ rest) = wordsOf text ++ wordsOf rest := by
  simp only [wordsOf, String.toList_append, List.flatMap_append, List.append_assoc]
  exact words_between h (lowered_ne_nil hsome) _ _

theorem wordsOf_eq_nil_iff : wordsOf text = [] ↔ Separates text := by
  constructor
  · intro hnone c hc
    by_contra hword
    exact words_ne_nil hc (by simpa using hword) hnone
  · exact wordsOf_gap

end Gaps

/-- A text consists of some parts in their order, with separators between them, and perhaps in front
of them and behind. -/
inductive Spaced : List String → String → Prop where
  | none : Spaced [] ""
  | one (part : String) : Spaced [part] part
  | front {gap text : String} {parts : List String} (hgap : Separates gap)
      (hrest : Spaced parts text) : Spaced parts (gap ++ text)
  | cons {part gap text : String} {parts : List String} (hgap : Separates gap) (hsome : gap ≠ "")
      (hrest : Spaced parts text) : Spaced (part :: parts) (part ++ gap ++ text)

theorem Spaced.wordsOf_eq {parts : List String} {text : String} (h : Spaced parts text) :
    wordsOf text = parts.flatMap wordsOf := by
  induction h with
  | none => rfl
  | one part => rw [List.flatMap_singleton]
  | front hgap _ ih => rw [wordsOf_past hgap, ih]
  | cons hgap hsome _ ih => rw [wordsOf_between hgap hsome, ih, List.flatMap_cons]

/-! ## Characters of words -/

theorem isAlphanumeric_of_mem_pieces {text piece : List Char} (hpiece : piece ∈ pieces text) :
    ∀ c ∈ piece, isAlphanumeric c = true := by
  induction text generalizing piece with
  | nil =>
      rw [pieces, List.mem_singleton] at hpiece
      simp [hpiece]
  | cons d rest ih =>
      by_cases hd : isAlphanumeric d = true
      · obtain ⟨first, more, hrest⟩ := List.exists_cons_of_ne_nil (pieces_ne_nil rest)
        rw [hrest] at ih
        simp only [pieces, hd, if_true, hrest, List.mem_cons] at hpiece
        rcases hpiece with rfl | hmore
        · intro c hc
          rcases List.mem_cons.mp hc with rfl | hc
          · exact hd
          · exact ih List.mem_cons_self c hc
        · exact ih (List.mem_cons_of_mem first hmore)
      · simp only [pieces, hd, Bool.false_eq_true, if_false, List.mem_cons] at hpiece
        rcases hpiece with rfl | hrest
        · simp
        · exact ih hrest

theorem exists_letter_of_mem_words {text word : List Char} (hword : word ∈ words text) :
    ∃ c rest, word = c :: rest ∧ isAlphanumeric c = true := by
  rw [words, List.mem_filter] at hword
  obtain ⟨hpiece, hsome⟩ := hword
  cases word with
  | nil => simp at hsome
  | cons c rest =>
      exact ⟨c, rest, rfl, isAlphanumeric_of_mem_pieces hpiece c List.mem_cons_self⟩

/-! ## Trigrams of a text -/

section Texts

variable {text other : String}

theorem toFinset_ofText (text : String) :
    (ofText text).toFinset = ((wordsOf text).flatMap ofWord).toFinset :=
  toFinset_ofList _

theorem mem_ofText {g : Trigram} :
    g ∈ (ofText text).toFinset ↔ ∃ word ∈ wordsOf text, g ∈ ofWord word := by
  rw [toFinset_ofText, List.mem_toFinset, List.mem_flatMap]

theorem ofText_congr (h : ∀ word, word ∈ wordsOf text ↔ word ∈ wordsOf other) :
    ofText text = ofText other := by
  apply toFinset_injective
  ext g
  rw [mem_ofText, mem_ofText]
  exact exists_congr fun word => and_congr_left' (h word)

theorem ofText_between {gap : String} (hgap : Separates gap) (hsome : gap ≠ "") :
    (ofText (text ++ gap ++ other)).toFinset =
      (ofText text).toFinset ∪ (ofText other).toFinset := by
  rw [toFinset_ofText, wordsOf_between hgap hsome, List.flatMap_append, List.toFinset_append,
    toFinset_ofText, toFinset_ofText]

theorem ofText_spaced {parts others : List String} (htext : Spaced parts text)
    (hother : Spaced others other) (hsame : ∀ part, part ∈ parts ↔ part ∈ others) :
    ofText text = ofText other := by
  apply ofText_congr
  intro word
  rw [htext.wordsOf_eq, hother.wordsOf_eq, List.mem_flatMap, List.mem_flatMap]
  exact exists_congr fun part => and_congr_left' (hsame part)

theorem isEmpty_ofText_iff : (ofText text).isEmpty = true ↔ Separates text := by
  rw [isEmpty_iff, toFinset_ofText, List.toFinset_eq_empty_iff, List.flatMap_eq_nil_iff,
    ← wordsOf_eq_nil_iff, List.eq_nil_iff_forall_not_mem]
  exact forall₂_congr fun word _ => iff_false_intro (ofWord_ne_nil word)

/-- The first two windows of a word differ in their middle, which is a blank in one of them only. -/
theorem two_le_size (h : (ofText text).isEmpty = false) : 2 ≤ (ofText text).size := by
  have hwords : wordsOf text ≠ [] := by
    rw [ne_eq, wordsOf_eq_nil_iff, ← isEmpty_ofText_iff, h]
    exact Bool.false_ne_true
  obtain ⟨word, others, hfirst⟩ := List.exists_cons_of_ne_nil hwords
  have hword : word ∈ wordsOf text := hfirst ▸ List.mem_cons_self
  obtain ⟨c, rest, rfl, hc⟩ := exists_letter_of_mem_words hword
  obtain ⟨next, hnext⟩ : ∃ next, ⟨' ', c, next⟩ ∈ ofWord (c :: rest) := by
    cases rest with
    | nil => exact ⟨' ', by simp [ofWord, windows]⟩
    | cons d more => exact ⟨d, by simp [ofWord, windows]⟩
  have hstart : ⟨' ', ' ', c⟩ ∈ ofWord (c :: rest) := by simp [ofWord, windows]
  have hblank : isAlphanumeric ' ' = false := by decide
  have hne : (⟨' ', ' ', c⟩ : Trigram) ≠ ⟨' ', c, next⟩ := by
    rintro hsame
    have hmiddle : ' ' = c := congrArg Trigram.second hsame
    rw [← hmiddle, hblank] at hc
    contradiction
  have hstarts : ⟨' ', ' ', c⟩ ∈ (ofText text).toFinset := mem_ofText.mpr ⟨_, hword, hstart⟩
  have hgoesOn : ⟨' ', c, next⟩ ∈ (ofText text).toFinset := mem_ofText.mpr ⟨_, hword, hnext⟩
  rw [← card_toFinset]
  exact Finset.one_lt_card.mpr ⟨_, hstarts, _, hgoesOn, hne⟩

end Texts

/-- Texts with separators between them have the trigrams of both.  So texts that are spaced out of
the same parts have the same trigrams and the same similarities, in whatever order, however often
and with whatever separators the parts stand in them; and so have all texts with the same set of
words.  A text without words has no trigrams, and any other at least two. -/
theorem trigrams_of_words :
    (∀ text gap rest : String, gap ≠ "" → Separates gap →
      (ofText (text ++ gap ++ rest)).toFinset = (ofText text).toFinset ∪ (ofText rest).toFinset) ∧
    (∀ (parts others : List String) (text other : String), Spaced parts text →
      Spaced others other → (∀ part, part ∈ parts ↔ part ∈ others) →
      ofText text = ofText other ∧
        ∀ third, Noticeboard.similarity text third = Noticeboard.similarity other third ∧
          Noticeboard.similarity third text = Noticeboard.similarity third other) ∧
    (∀ text other : String, (∀ word, word ∈ wordsOf text ↔ word ∈ wordsOf other) →
      ofText text = ofText other) ∧
    ∀ text : String, ((ofText text).isEmpty = true ↔ Separates text) ∧
      ((ofText text).isEmpty = false → 2 ≤ (ofText text).size) := by
  refine ⟨fun text gap rest hsome hgap => ofText_between hgap hsome, ?_,
    fun text other hsame => ofText_congr hsame,
    fun text => ⟨isEmpty_ofText_iff, two_le_size⟩⟩
  intro parts others text other htext hother hsame
  have htrigrams := ofText_spaced htext hother hsame
  unfold Noticeboard.similarity
  rw [htrigrams]
  exact ⟨rfl, fun _ => ⟨rfl, rfl⟩⟩

theorem greetings_have_the_same_trigrams :
    Spaced ["Hello", "World"] "Hello, World!" ∧
      Spaced ["World", "Hello", "World"] "...World / Hello: World" ∧
      ofText "Hello, World!" = ofText "...World / Hello: World" ∧
      (ofText "Hello, World!").toFinset = (ofText "Hello").toFinset ∪ (ofText "World!").toFinset ∧
      2 ≤ (ofText "Hello, World!").size := by
  obtain ⟨hbetween, hspaced, -, hsize⟩ := trigrams_of_words
  have htext : Spaced ["Hello", "World"] ("Hello" ++ ", " ++ ("World" ++ "!" ++ "")) :=
    .cons (by decide) (by decide) (.cons (by decide) (by decide) .none)
  have hother : Spaced ["World", "Hello", "World"]
      ("..." ++ ("World" ++ " / " ++ ("Hello" ++ ": " ++ "World"))) :=
    .front (by decide) (.cons (by decide) (by decide)
      (.cons (by decide) (by decide) (.one "World")))
  have hsame (part : String) :
      part ∈ ["Hello", "World"] ↔ part ∈ ["World", "Hello", "World"] := by
    simp only [List.mem_cons, List.not_mem_nil, or_false]
    tauto
  exact ⟨htext, hother, (hspaced _ _ _ _ htext hother hsame).1,
    hbetween "Hello" ", " "World!" (by decide) (by decide), (hsize _).2 rfl⟩

end TrigramSet
end Noticeboard
