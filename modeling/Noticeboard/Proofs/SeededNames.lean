import Noticeboard.Proofs.NameKeys
import Noticeboard.Seeding

/-!
# Names of seeded categories

The name of a seeded category is its own stored form: small letters and digits with single blanks
between the words.  Its last word is its number, so that no two names of one run are the same,
whatever words the generator gives.
-/

namespace Noticeboard

namespace Text

/-- The capitals begin behind the digits and most of the signs. -/
theorem lowerChar_of_lt {c : Char} (h : c.toNat < 0x41) : lowerChar c = [c] := by
  have hother : c ≠ 'İ' := by
    rintro rfl
    revert h
    decide
  have hlower : lowerCode c.toNat capitalRuns = c.toNat := if_pos h
  rw [lowerChar, if_neg hother, hlower, Char.ofNat_toNat]

theorem lowerChar_of_isDigit {c : Char} (h : c.isDigit = true) : lowerChar c = [c] := by
  rw [← Decimal.isDigit_eq] at h
  have hdigit := Decimal.toNat_of_isDigit h
  exact lowerChar_of_lt (by omega)

end Text

open Text

theorem storedName_of_small {name : String} (htrimmed : Trimmed name.toList)
    (hsmall : ∀ c ∈ name.toList, lowerChar c = [c]) : storedName name = name := by
  rw [storedName, trim_of_trimmed htrimmed, lower, lowerAfter_of_small hsmall, String.ofList_toList]

namespace Seeding

/-! ## Words -/

variable {index : Nat} {generator : Generator}

theorem words_small : ∀ word ∈ words ++ nouns,
    word.toList ≠ [] ∧ ∀ c ∈ word.toList, lowerChar c = [c] ∧ isBlank c = false := by
  have hwords : ((words ++ nouns).all fun word => !word.toList.isEmpty &&
      word.toList.all fun c => lowerChar c == [c] && !isBlank c) = true :=
    rfl
  intro word hword
  simpa using List.all_eq_true.mp hwords word hword

theorem pickWord_mem (generator : Generator) : (pickWord generator).1 ∈ words :=
  List.get_mem _ _

theorem pickNoun_mem (generator : Generator) : (pickNoun generator).1 ∈ nouns :=
  List.get_mem _ _

/-- Every place at which a word is looked up is in the list. -/
theorem pick_eq (list : List String) (h : 0 < list.length) (generator : Generator) :
    list[generator.step.value % list.length]? = some (generator.pick list h).1 :=
  List.getElem?_eq_getElem (Nat.mod_lt _ h)

/-! ## Names -/

theorem draft_name (index : Nat) (generator : Generator) :
    ∃ a ∈ words ++ nouns, ∃ b ∈ words ++ nouns, ∃ c ∈ words ++ nouns,
      (draft index generator).1.name = a ++ " " ++ b ++ " " ++ c ++ " " ++ toString index :=
  ⟨_, List.mem_append_left nouns (pickWord_mem _), _, List.mem_append_left nouns (pickWord_mem _),
    _, List.mem_append_right words (pickNoun_mem _), rfl⟩

/-- A name begins with a letter and ends in a blank and a number, all of it in lower case. -/
theorem name_form (index : Nat) (generator : Generator) :
    ∃ c rest, (draft index generator).1.name.toList = c :: rest ++ ' ' :: Nat.toDigits 10 index ∧
      isBlank c = false ∧ ∀ d ∈ c :: rest, lowerChar d = [d] := by
  obtain ⟨first, hfirst, second, hsecond, noun, hnoun, hname⟩ := draft_name index generator
  obtain ⟨hsome, hletters⟩ := words_small first hfirst
  obtain ⟨c, more, hchars⟩ := List.exists_cons_of_ne_nil hsome
  rw [hchars] at hletters
  have hblank : lowerChar ' ' = [' '] := lowerChar_of_lt (by decide)
  refine ⟨c, more ++ ' ' :: second.toList ++ ' ' :: noun.toList, ?_,
    (hletters c List.mem_cons_self).2, ?_⟩
  · rw [hname]
    simp [String.toList_append, Nat.toString_eq_repr, Nat.toList_repr, hchars]
  · intro d hd
    have hparts : d ∈ c :: more ∨ d = ' ' ∨ d ∈ second.toList ∨ d = ' ' ∨ d ∈ noun.toList := by
      simpa [or_assoc] using hd
    rcases hparts with hd | rfl | hd | rfl | hd
    · exact (hletters d hd).1
    · exact hblank
    · exact ((words_small second hsecond).2 d hd).1
    · exact hblank
    · exact ((words_small noun hnoun).2 d hd).1

theorem isBlank_of_mem_toDigits {d : Char} (hd : d ∈ Nat.toDigits 10 index) :
    isBlank d = false := by
  apply Decimal.isBlank_of_isDigit
  rw [Decimal.isDigit_eq]
  exact Nat.isDigit_of_mem_toDigits (by decide) (by decide) hd

theorem storedName_draft (index : Nat) (generator : Generator) :
    storedName (draft index generator).1.name = (draft index generator).1.name := by
  obtain ⟨c, rest, hchars, hstart, hsmall⟩ := name_form index generator
  apply storedName_of_small
  · rw [hchars]
    constructor
    · rintro _ ⟨⟩
      exact hstart
    · intro d hd
      have hlast : (c :: rest ++ ' ' :: Nat.toDigits 10 index).getLast? =
          (Nat.toDigits 10 index).getLast? := by
        rw [List.append_cons, List.getLast?_append_of_ne_nil _ Nat.toDigits_ne_nil]
      rw [hlast] at hd
      exact isBlank_of_mem_toDigits (List.mem_of_getLast? hd)
  · intro d hd
    rw [hchars] at hd
    have hparts : d ∈ c :: rest ∨ d = ' ' ∨ d ∈ Nat.toDigits 10 index := by
      simpa [or_assoc] using hd
    rcases hparts with hd | rfl | hd
    · exact hsmall d hd
    · exact lowerChar_of_lt (by decide)
    · exact lowerChar_of_isDigit (Nat.isDigit_of_mem_toDigits (by decide) (by decide) hd)

theorem name_not_blank (index : Nat) (generator : Generator) :
    isBlankText (draft index generator).1.name = false := by
  obtain ⟨c, rest, hchars, hstart, -⟩ := name_form index generator
  rw [isBlankText, hchars]
  simp [hstart]

/-- What stands behind the last blank of a name. -/
def numberOf (name : String) : List Char :=
  name.toList.rtakeWhile fun c => c != ' '

theorem numberOf_draft (index : Nat) (generator : Generator) :
    numberOf (draft index generator).1.name = Nat.toDigits 10 index := by
  obtain ⟨c, rest, hchars, -, -⟩ := name_form index generator
  have hdigits : ∀ d ∈ (Nat.toDigits 10 index).reverse, (d != ' ') = true := by
    intro d hd
    rw [bne_iff_ne]
    rintro rfl
    have hblank := isBlank_of_mem_toDigits (List.mem_reverse.mp hd)
    revert hblank
    decide
  rw [numberOf, hchars, List.rtakeWhile, List.reverse_append, List.reverse_cons, List.append_assoc,
    List.takeWhile_append_of_pos hdigits]
  simp

/-! ## Drafts of a run -/

/-- The drafts of a run: one for each number from `index` on. -/
def drafts : Nat → Nat → Generator → List CategoryDraft
  | _, 0, _ => []
  | index, count + 1, generator =>
    (draft index generator).1 :: drafts (index + 1) count (draft index generator).2

/-- The generator after a run, which takes six steps for each draft. -/
def generatorAfter (count : Nat) (generator : Generator) : Generator :=
  Generator.step^[6 * count] generator

theorem generatorAfter_succ (index count : Nat) (generator : Generator) :
    generatorAfter (count + 1) generator = generatorAfter count (draft index generator).2 := by
  rw [generatorAfter, Nat.mul_succ, Function.iterate_add_apply]
  rfl

theorem generatorAfter_add (count more : Nat) (generator : Generator) :
    generatorAfter (count + more) generator =
      generatorAfter more (generatorAfter count generator) := by
  rw [generatorAfter, Nat.mul_add, Nat.add_comm, Function.iterate_add_apply]
  rfl

theorem length_drafts (index count : Nat) (generator : Generator) :
    (drafts index count generator).length = count := by
  induction count generalizing index generator with
  | zero => rfl
  | succ count ih => rw [drafts, List.length_cons, ih]

theorem drafts_add (index count more : Nat) (generator : Generator) :
    drafts index (count + more) generator = drafts index count generator ++
      drafts (index + count) more (generatorAfter count generator) := by
  induction count generalizing index generator with
  | zero => rw [Nat.zero_add]; rfl
  | succ count ih =>
      rw [Nat.succ_add, drafts, ih, drafts, List.cons_append, generatorAfter_succ index,
        show index + 1 + count = index + (count + 1) by omega]

theorem numbers_drafts (index count : Nat) (generator : Generator) :
    ((drafts index count generator).map CategoryDraft.name).map numberOf =
      (List.range' index count).map (Nat.toDigits 10) := by
  induction count generalizing index generator with
  | zero => rfl
  | succ count ih =>
      rw [drafts, List.map_cons, List.map_cons, numberOf_draft, ih, List.range'_succ, List.map_cons]

theorem toDigits_injective : Function.Injective (Nat.toDigits 10) := by
  intro m n hsame
  rw [← Nat.ofDigitChars_ten_toDigits (n := m), hsame, Nat.ofDigitChars_ten_toDigits]

/-- Different numbers make different names. -/
theorem nodup_names (index count : Nat) (generator : Generator) :
    ((drafts index count generator).map CategoryDraft.name).Nodup := by
  apply List.Nodup.of_map numberOf
  rw [numbers_drafts]
  exact (List.nodup_range' 1).map toDigits_injective

end Seeding
end Noticeboard
