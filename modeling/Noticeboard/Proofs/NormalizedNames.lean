import Mathlib.Data.List.DropRight
import Noticeboard.Proofs.Integrity

/-!
# Normalized names

To trim a name and lower its case a second time changes nothing.  The lower case of a capital is
neither a capital nor a blank, since the codes that the table of capitals leads to are apart from
those that it covers, run by run.
-/

namespace Noticeboard

namespace Text

/-! ## The table of capitals -/

theorem covers_iff {run : CapitalRun} {code : Nat} :
    run.covers code = true ↔
      run.first ≤ code ∧ code ≤ run.last ∧ (code - run.first) % run.step = 0 := by
  simp [CapitalRun.covers, and_assoc]

theorem lowerCode_cases (code : Nat) (runs : List CapitalRun) :
    lowerCode code runs = code ∨
      ∃ run ∈ runs, run.covers code = true ∧ lowerCode code runs = run.lower code := by
  induction runs with
  | nil => exact .inl rfl
  | cons run rest ih =>
      by_cases hbelow : code < run.first
      · simp [lowerCode, hbelow]
      · by_cases hcovers : run.covers code = true
        · simp [lowerCode, hbelow, hcovers]
        · rcases ih with hsame | ⟨found, hfound, hcovered, hlower⟩
          · simp [lowerCode, hbelow, hcovers, hsame]
          · refine .inr ⟨found, List.mem_cons_of_mem run hfound, hcovered, ?_⟩
            simp [lowerCode, hbelow, hcovers, hlower]

theorem lowerCode_of_uncovered {code : Nat} {runs : List CapitalRun}
    (h : ∀ run ∈ runs, run.covers code = false) : lowerCode code runs = code := by
  rcases lowerCode_cases code runs with hsame | ⟨run, hrun, hcovers, -⟩
  · exact hsame
  · rw [h run hrun] at hcovers
    contradiction

/-- What one run leads to is not covered by another: it stands before it or behind it, or between
its codes. -/
def CapitalRun.apart (run other : CapitalRun) : Bool :=
  Nat.blt (run.lower run.last) other.first || Nat.blt other.last run.small ||
    (other.step == 2 && (run.step == 2 || run.first == run.last) &&
      (run.small + other.first) % 2 == 1)

/-- What a run leads to is outside a range. -/
def CapitalRun.misses (run : CapitalRun) (range : Nat × Nat) : Bool :=
  Nat.blt (run.lower run.last) range.1 || Nat.blt range.2 run.small

/-- Codes that the lower case of a capital must not be: that of `İ`, surrogates and blanks. -/
def barredCodes : CodeRanges :=
  (0x130, 0x130) :: (0xd800, 0xdfff) :: blankCodes

theorem capitalRuns_apart :
    (capitalRuns.all fun run => capitalRuns.all fun other => run.apart other) = true := by
  decide +kernel

theorem capitalRuns_miss :
    (capitalRuns.all fun run => Nat.blt (run.lower run.last) 0x110000 &&
      barredCodes.all fun range => run.misses range) = true := by
  decide +kernel

theorem not_covers_lower {run other : CapitalRun} {code : Nat} (h : run.apart other = true)
    (hcode : run.covers code = true) : other.covers (run.lower code) = false := by
  obtain ⟨hfirst, hlast, hstep⟩ := covers_iff.mp hcode
  rw [← Bool.not_eq_true, covers_iff]
  rintro ⟨hfirst', hlast', hstep'⟩
  simp only [CapitalRun.apart, CapitalRun.lower, Bool.or_eq_true, Bool.and_eq_true,
    Nat.blt_eq, beq_iff_eq] at h hfirst' hlast' hstep'
  rcases h with (hbefore | hbehind) | ⟨⟨htwo, hsteps⟩, hparity⟩
  · omega
  · omega
  -- capitals and small letters that take turns are told apart by their parity
  · rw [htwo] at hstep'
    rcases hsteps with hrun | hone
    · rw [hrun] at hstep
      omega
    · omega

theorem lower_outside {run : CapitalRun} {code : Nat} {range : Nat × Nat}
    (h : run.misses range = true) (hcode : run.covers code = true) :
    run.lower code < range.1 ∨ range.2 < run.lower code := by
  obtain ⟨hfirst, hlast, -⟩ := covers_iff.mp hcode
  simp only [CapitalRun.misses, CapitalRun.lower, Bool.or_eq_true, Nat.blt_eq] at h ⊢
  omega

theorem exists_range_of_contains {ranges : CodeRanges} {code : Nat}
    (h : ranges.contains code = true) :
    ∃ range ∈ ranges, range.1 ≤ code ∧ code ≤ range.2 := by
  induction ranges with
  | nil => simp [CodeRanges.contains] at h
  | cons range rest ih =>
      by_cases hbelow : code < range.1
      · simp [CodeRanges.contains, hbelow] at h
      · by_cases hwithin : code ≤ range.2
        · exact ⟨range, List.mem_cons_self, by omega, hwithin⟩
        · simp only [CodeRanges.contains, hbelow, hwithin, if_false] at h
          obtain ⟨found, hfound, hcode⟩ := ih h
          exact ⟨found, List.mem_cons_of_mem range hfound, hcode⟩

/-! ## Characters -/

section Capitals

variable {run : CapitalRun} {code : Nat}

theorem lowerCode_lower (hrun : run ∈ capitalRuns) (hcode : run.covers code = true) :
    lowerCode (run.lower code) capitalRuns = run.lower code := by
  apply lowerCode_of_uncovered
  intro other hother
  have hrows := List.all_eq_true.mp capitalRuns_apart run hrun
  exact not_covers_lower (List.all_eq_true.mp hrows other hother) hcode

theorem lower_not_barred (hrun : run ∈ capitalRuns) (hcode : run.covers code = true) :
    run.lower code < 0x110000 ∧
      ∀ range ∈ barredCodes, run.lower code < range.1 ∨ range.2 < run.lower code := by
  have hmisses := List.all_eq_true.mp capitalRuns_miss run hrun
  rw [Bool.and_eq_true, Nat.blt_eq] at hmisses
  have hlast := (covers_iff.mp hcode).2.1
  refine ⟨?_, fun range hrange =>
    lower_outside (List.all_eq_true.mp hmisses.2 range hrange) hcode⟩
  have hend := hmisses.1
  unfold CapitalRun.lower at hend ⊢
  omega

theorem toNat_lower (hrun : run ∈ capitalRuns) (hcode : run.covers code = true) :
    (Char.ofNat (run.lower code)).toNat = run.lower code := by
  obtain ⟨hend, hbarred⟩ := lower_not_barred hrun hcode
  have hsurrogates := hbarred (0xd800, 0xdfff) (by simp [barredCodes])
  have hvalid : (run.lower code).isValidChar := by
    unfold Nat.isValidChar
    omega
  rw [Char.ofNat, dif_pos hvalid]
  rfl

end Capitals

/-- A character becomes itself, one of the two characters of `İ`, or the character of a run. -/
theorem lowerChar_cases {c d : Char} (h : d ∈ lowerChar c) :
    d = c ∧ lowerChar c = [c] ∨ d = 'i' ∨ d = '\u0307' ∨
      ∃ run ∈ capitalRuns, run.covers c.toNat = true ∧ d = Char.ofNat (run.lower c.toNat) := by
  unfold lowerChar at h ⊢
  by_cases hdotted : c = 'İ'
  · simp [hdotted] at h
    exact .inr (h.imp_right .inl)
  · rw [if_neg hdotted, List.mem_singleton] at h
    rw [if_neg hdotted]
    rcases lowerCode_cases c.toNat capitalRuns with hsame | ⟨run, hrun, hcovers, hlower⟩
    · rw [hsame, Char.ofNat_toNat] at h ⊢
      exact .inl ⟨h, rfl⟩
    · rw [hlower] at h
      exact .inr (.inr (.inr ⟨run, hrun, hcovers, h⟩))

/-- What a character becomes stays as it is. -/
theorem lowerChar_of_mem {c d : Char} (h : d ∈ lowerChar c) : lowerChar d = [d] := by
  rcases lowerChar_cases h with ⟨rfl, hsame⟩ | rfl | rfl | ⟨run, hrun, hcovers, rfl⟩
  · exact hsame
  · decide
  · decide
  · have htoNat := toNat_lower hrun hcovers
    have hdotted : Char.ofNat (run.lower c.toNat) ≠ 'İ' := by
      intro hsame
      have hbarred := (lower_not_barred hrun hcovers).2 (0x130, 0x130) (by simp [barredCodes])
      rw [← htoNat, hsame] at hbarred
      revert hbarred
      decide
    rw [lowerChar, if_neg hdotted, htoNat, lowerCode_lower hrun hcovers]

theorem isBlank_of_mem_lowerChar {c d : Char} (hc : isBlank c = false) (h : d ∈ lowerChar c) :
    isBlank d = false := by
  rcases lowerChar_cases h with ⟨rfl, -⟩ | rfl | rfl | ⟨run, hrun, hcovers, rfl⟩
  · exact hc
  · decide
  · decide
  · rw [← Bool.not_eq_true, isBlank, toNat_lower hrun hcovers]
    intro hblank
    obtain ⟨range, hrange, hfirst, hlast⟩ := exists_range_of_contains hblank
    have hbarred := (lower_not_barred hrun hcovers).2 range (by simp [barredCodes, hrange])
    omega

/-! ## Lower-casing twice -/

/-- What the character `c` becomes after some and before others. -/
def lowerHere (before : List Char) (c : Char) (rest : List Char) : List Char :=
  if c = 'Σ' then [if meetsCased before && !meetsCased rest then 'ς' else 'σ'] else lowerChar c

theorem lowerAfter_cons (before : List Char) (c : Char) (rest : List Char) :
    lowerAfter before (c :: rest) = lowerHere before c rest ++ lowerAfter (c :: before) rest := by
  by_cases hsigma : c = 'Σ'
  · simp [lowerAfter, lowerHere, hsigma]
  · simp [lowerAfter, lowerHere, hsigma]

theorem lowerChar_of_mem_lowerHere {before rest : List Char} {c d : Char}
    (h : d ∈ lowerHere before c rest) : lowerChar d = [d] := by
  unfold lowerHere at h
  by_cases hsigma : c = 'Σ'
  · rw [if_pos hsigma, List.mem_singleton] at h
    subst h
    split
    · decide
    · decide
  · rw [if_neg hsigma] at h
    exact lowerChar_of_mem h

theorem lowerChar_of_mem_lowerAfter {before text : List Char} {d : Char}
    (h : d ∈ lowerAfter before text) : lowerChar d = [d] := by
  induction text generalizing before with
  | nil => simp [lowerAfter] at h
  | cons c rest ih =>
      rw [lowerAfter_cons, List.mem_append] at h
      exact h.elim lowerChar_of_mem_lowerHere ih

theorem lowerAfter_of_small {before text : List Char} (h : ∀ c ∈ text, lowerChar c = [c]) :
    lowerAfter before text = text := by
  induction text generalizing before with
  | nil => rfl
  | cons c rest ih =>
      have hsigma : c ≠ 'Σ' := by
        rintro rfl
        have hsame := h 'Σ' List.mem_cons_self
        revert hsame
        decide
      have hrest : lowerAfter (c :: before) rest = rest :=
        ih fun d hd => h d (List.mem_cons_of_mem c hd)
      rw [lowerAfter_cons, lowerHere, if_neg hsigma, h c List.mem_cons_self, hrest]
      rfl

theorem lower_lower (text : String) : lower (lower text) = lower text := by
  have hsmall : lowerAfter [] (lower text).toList = (lower text).toList := by
    apply lowerAfter_of_small
    intro c hc
    rw [lower, String.toList_ofList] at hc
    exact lowerChar_of_mem_lowerAfter hc
  rw [lower, hsmall, String.ofList_toList]

/-! ## Ends of a text -/

/-- A text does not begin or end with a blank. -/
structure Trimmed (text : List Char) : Prop where
  first : ∀ c ∈ text.head?, isBlank c = false
  last : ∀ c ∈ text.getLast?, isBlank c = false

theorem trim_eq (text : String) :
    (trim text).toList = (text.toList.dropWhile isBlank).rdropWhile isBlank := by
  rw [trim, String.toList_ofList]
  rfl

theorem trim_of_trimmed {text : String} (h : Trimmed text.toList) : trim text = text := by
  have hstart : text.toList.dropWhile isBlank = text.toList := by
    rw [List.dropWhile_eq_self_iff]
    intro hsome
    have hfirst := h.first text.toList[0] (by simp [List.head?_eq_getElem?])
    simp [hfirst]
  have hend : text.toList.rdropWhile isBlank = text.toList := by
    rw [List.rdropWhile_eq_self_iff]
    intro hsome
    have hlast := h.last (text.toList.getLast hsome) (List.getLast_mem_getLast? hsome)
    simp [hlast]
  rw [← String.toList_inj, trim_eq, hstart, hend]

theorem trimmed_trim (text : String) : Trimmed (trim text).toList := by
  rw [trim_eq]
  generalize hrest : text.toList.dropWhile isBlank = rest
  constructor
  · intro c hc
    obtain ⟨tail, htail⟩ := List.rdropWhile_prefix isBlank rest
    have hfirst : (text.toList.dropWhile isBlank).head? = some c := by
      rw [hrest, ← htail, List.head?_append, hc]
      rfl
    have hkept := List.head?_dropWhile_not isBlank text.toList
    rw [hfirst] at hkept
    exact hkept
  · intro c hc
    obtain ⟨hsome, rfl⟩ := List.mem_getLast?_eq_getLast hc
    simpa using List.rdropWhile_last_not isBlank rest hsome

theorem isBlank_of_mem_lowerHere {before rest : List Char} {c d : Char}
    (hc : isBlank c = false) (h : d ∈ lowerHere before c rest) : isBlank d = false := by
  unfold lowerHere at h
  by_cases hsigma : c = 'Σ'
  · rw [if_pos hsigma, List.mem_singleton] at h
    subst h
    split
    · decide
    · decide
  · rw [if_neg hsigma] at h
    exact isBlank_of_mem_lowerChar hc h

theorem lowerHere_ne_nil (before : List Char) (c : Char) (rest : List Char) :
    lowerHere before c rest ≠ [] := by
  unfold lowerHere lowerChar
  split
  · simp
  · split <;> simp

theorem getLast?_lowerAfter {before text : List Char} {d : Char}
    (hlast : ∀ c ∈ text.getLast?, isBlank c = false)
    (h : d ∈ (lowerAfter before text).getLast?) : isBlank d = false := by
  -- only the last character of the text says how its lower case ends
  induction text generalizing before with
  | nil => simp [lowerAfter] at h
  | cons c rest ih =>
      rw [lowerAfter_cons, List.getLast?_append] at h
      cases rest with
      | nil =>
          have hhere : d ∈ lowerHere before c [] := List.mem_of_getLast? (by simpa [lowerAfter] using h)
          exact isBlank_of_mem_lowerHere (hlast c rfl) hhere
      | cons next rest =>
          have hsome : lowerAfter (c :: before) (next :: rest) ≠ [] := by
            rw [lowerAfter_cons]
            exact List.append_ne_nil_of_left_ne_nil (lowerHere_ne_nil _ _ _) _
          have hrest : d ∈ (lowerAfter (c :: before) (next :: rest)).getLast? := by
            rw [List.getLast?_eq_some_getLast hsome] at h ⊢
            exact h
          exact ih (fun e he => hlast e (by simpa using he)) hrest

theorem trimmed_lowerAfter {text : List Char} (h : Trimmed text) :
    Trimmed (lowerAfter [] text) := by
  constructor
  · intro d hd
    cases text with
    | nil => simp [lowerAfter] at hd
    | cons c rest =>
        rw [lowerAfter_cons, List.head?_append_of_ne_nil _ (lowerHere_ne_nil [] c rest)] at hd
        exact isBlank_of_mem_lowerHere (h.first c rfl) (List.mem_of_head? hd)
  · intro d hd
    exact getLast?_lowerAfter h.last hd

end Text

theorem normalized_twice {given name : String} (h : normalizeCategoryName given = .ok name) :
    Text.trim name = name ∧ Text.lower name = name := by
  have hname : Text.lower (Text.trim given) = name := by
    by_cases hempty : (Text.lower (Text.trim given)).isEmpty = true
    · simp [normalizeCategoryName, hempty] at h
    · simpa [normalizeCategoryName, hempty] using h
  subst hname
  refine ⟨Text.trim_of_trimmed ?_, Text.lower_lower _⟩
  rw [Text.lower, String.toList_ofList]
  exact Text.trimmed_lowerAfter (Text.trimmed_trim given)

end Noticeboard
