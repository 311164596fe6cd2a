import Noticeboard.Proofs.Browsing
import Noticeboard.Proofs.NormalizedNames
import Noticeboard.Search.Request

/-!
# The grammar of search requests

What a request may look like is said apart from the checks, as relations between its members and
what they give.  A page is a whole number, or a text that spells one between blanks; since the
digits of a number spell it and nothing else, both forms of a page are answered alike.
-/

namespace Noticeboard

namespace Decimal

/-! ## Numbers as texts spell them -/

/-- A whole number of decimal digits, at least one of them; it may begin with zeros. -/
structure IsNumeral (digits : List Char) : Prop where
  some_digit : digits ≠ []
  all_digits : ∀ c ∈ digits, c.isDigit = true

/-- A text spells a whole number by its digits, behind a sign or without one. -/
inductive Spells : List Char → Int → Prop where
  | plain {digits : List Char} : IsNumeral digits →
      Spells digits (Nat.ofDigitChars 10 digits 0)
  | plus {digits : List Char} : IsNumeral digits →
      Spells ('+' :: digits) (Nat.ofDigitChars 10 digits 0)
  | minus {digits : List Char} : IsNumeral digits →
      Spells ('-' :: digits) (-(Nat.ofDigitChars 10 digits 0 : Int))

theorem isNumeral_iff {digits : List Char} :
    IsNumeral digits ↔ (digits.isEmpty || !digits.all isDigit) = false := by
  simp only [Bool.or_eq_false_iff, List.isEmpty_eq_false_iff, Bool.not_eq_false', List.all_eq_true,
    isDigit_eq]
  exact ⟨fun h => ⟨h.some_digit, h.all_digits⟩, fun h => ⟨h.1, h.2⟩⟩

theorem IsNumeral.takeSign_eq {digits : List Char} (h : IsNumeral digits) :
    takeSign digits = (false, digits) := by
  cases digits with
  | nil => rfl
  | cons c rest =>
      have hdigit := h.all_digits c List.mem_cons_self
      unfold takeSign
      split
      next heq =>
        cases heq
        contradiction
      next heq =>
        cases heq
        contradiction
      next => rfl

theorem takeSign_cases (text : List Char) :
    (∃ digits, text = '-' :: digits ∧ takeSign text = (true, digits)) ∨
      (∃ digits, text = '+' :: digits ∧ takeSign text = (false, digits)) ∨
      takeSign text = (false, text) := by
  unfold takeSign
  split
  next digits => exact .inl ⟨digits, rfl, rfl⟩
  next digits => exact .inr (.inl ⟨digits, rfl, rfl⟩)
  next => exact .inr (.inr rfl)

theorem readInt?_of_takeSign {text digits : List Char} {negative : Bool} {n : Int}
    (h : takeSign text = (negative, digits)) :
    readInt? text = some n ↔
      IsNumeral digits ∧
        (if negative then -(Nat.ofDigitChars 10 digits 0 : Int)
          else Nat.ofDigitChars 10 digits 0) = n := by
  simp only [readInt?, h, isNumeral_iff, valueOfDigits_eq]
  cases digits.isEmpty || !digits.all isDigit <;> simp

/-- The reader of whole numbers accepts what spells one, and nothing else. -/
theorem readInt?_eq_some_iff {text : List Char} {n : Int} :
    readInt? text = some n ↔ Spells text n := by
  constructor
  · intro h
    rcases takeSign_cases text with ⟨digits, rfl, hsign⟩ | ⟨digits, rfl, hsign⟩ | hsign
    all_goals obtain ⟨hnumeral, rfl⟩ := (readInt?_of_takeSign hsign).mp h
    · exact .minus hnumeral
    · exact .plus hnumeral
    · exact .plain hnumeral
  · intro h
    cases h with
    | plain hnumeral => exact (readInt?_of_takeSign hnumeral.takeSign_eq).mpr ⟨hnumeral, rfl⟩
    | plus hnumeral => exact (readInt?_of_takeSign rfl).mpr ⟨hnumeral, rfl⟩
    | minus hnumeral => exact (readInt?_of_takeSign rfl).mpr ⟨hnumeral, rfl⟩

theorem readInt64?_eq_some_iff {text : List Char} {n : Int} :
    readInt64? text = some n ↔ Spells text n ∧ isInt64 n = true := by
  simp [readInt64?, Option.filter_eq_some_iff, readInt?_eq_some_iff]

theorem isNumeral_toDigits (n : Nat) : IsNumeral (Nat.toDigits 10 n) where
  some_digit := Nat.toDigits_ne_nil
  all_digits := fun _ hc => Nat.isDigit_of_mem_toDigits (by decide) (by decide) hc

theorem spells_toString (n : Int) : Spells (toString n).toList n := by
  cases n with
  | ofNat n =>
      have hspells := Spells.plain (isNumeral_toDigits n)
      rw [Nat.ofDigitChars_ten_toDigits] at hspells
      simpa [Int.toString_eq_repr, Int.repr, Nat.toList_repr] using hspells
  | negSucc n =>
      have hspells := Spells.minus (isNumeral_toDigits n.succ)
      have hsame : (toString (Int.negSucc n)).toList = '-' :: Nat.toDigits 10 n.succ := by
        simp [Int.toString_eq_repr, Int.repr, Nat.toList_repr]
      rw [Nat.ofDigitChars_ten_toDigits] at hspells
      rw [hsame]
      exact hspells

theorem IsNumeral.isBlank_of_mem {digits : List Char} (h : IsNumeral digits) {c : Char}
    (hc : c ∈ digits) : Text.isBlank c = false := by
  apply isBlank_of_isDigit
  rw [isDigit_eq]
  exact h.all_digits c hc

theorem Spells.isBlank_of_mem {text : List Char} {n : Int} (h : Spells text n) {c : Char}
    (hc : c ∈ text) : Text.isBlank c = false := by
  cases h with
  | plain hnumeral => exact hnumeral.isBlank_of_mem hc
  | plus hnumeral | minus hnumeral =>
      rcases List.mem_cons.mp hc with rfl | hdigit
      · decide
      · exact hnumeral.isBlank_of_mem hdigit

theorem trim_toString (n : Int) : Text.trim (toString n) = toString n := by
  have hspells := spells_toString n
  apply Text.trim_of_trimmed
  constructor
  · exact fun c hc => hspells.isBlank_of_mem (List.mem_of_head? hc)
  · exact fun c hc => hspells.isBlank_of_mem (List.mem_of_getLast? hc)

theorem readInt64?_toString {n : Int} :
    readInt64? (toString n).toList = if isInt64 n then some n else none := by
  rw [readInt64?, readInt?_eq_some_iff.mpr (spells_toString n), Option.filter_some]

end Decimal

/-! ## Pages -/

/-- The number of a page: pages count from one, up to what 32 bits hold. -/
structure IsPage (n : Int) (page : UInt32) : Prop where
  first : 1 ≤ n
  last : n ≤ 0xFFFFFFFF
  same : (page.toNat : Int) = n

theorem IsPage.isInt64 {n : Int} {page : UInt32} (h : IsPage n page) :
    Decimal.isInt64 n = true := by
  have hfirst := h.first
  have hlast := h.last
  simp only [Decimal.isInt64, Bool.and_eq_true, decide_eq_true_eq]
  omega

theorem checkPage_eq_ok_iff {n : Int} {page : UInt32} : checkPage n = .ok page ↔ IsPage n page := by
  constructor
  · intro h
    unfold checkPage at h
    split at h
    · cases h
    next hfirst =>
      split at h
      next hlast =>
        cases h
        refine ⟨by omega, by omega, ?_⟩
        rw [UInt32.toNat_ofNat_of_lt' (by rw [UInt32.size]; omega)]
        omega
      · cases h
  · rintro ⟨hfirst, -, rfl⟩
    exact checkPage_toNat (by omega)

/-- A failure is about one field of what was asked for. -/
structure Failure.Blames (failure : Failure) (field : String) : Prop where
  kind : failure.kind = .invalidInput
  field : failure.field = some field

theorem checkPage_blames {n : Int} {failure : Failure} (h : checkPage n = .error failure) :
    failure.Blames "page_no" := by
  unfold checkPage at h
  split at h
  · cases h
    exact ⟨rfl, rfl⟩
  · split at h
    · cases h
    · cases h
      exact ⟨rfl, rfl⟩

namespace SearchRequest

/-! ## The two members of a request -/

/-- What a query gives: nothing, or a text that is normalized. -/
inductive GivesQuery : Option Json → Option String → Prop where
  | absent : GivesQuery none none
  | null : GivesQuery (some .null) none
  | text (raw : String) : GivesQuery (some (.str raw)) (normalizeQuery raw)

/-- What a page gives: the first page, or the one that a number or a text between blanks says. -/
inductive GivesPage : Option Json → UInt32 → Prop where
  | absent : GivesPage none 1
  | null : GivesPage (some .null) 1
  | number {n : Int} {page : UInt32} : IsPage n page → GivesPage (some (.num (.whole n))) page
  | text {raw : String} {n : Int} {page : UInt32} : Decimal.Spells (Text.trim raw).toList n →
      IsPage n page → GivesPage (some (.str raw)) page

theorem checkQuery_eq_ok_iff {member : Option Json} {query : Option String} :
    checkQuery member = .ok query ↔ GivesQuery member query := by
  constructor
  · intro h
    unfold checkQuery at h
    split at h
    · cases h
      exact .absent
    · cases h
      exact .null
    · cases h
      exact .text _
    · cases h
  · rintro (_ | _ | raw)
    · rfl
    · rfl
    · rfl

theorem checkQuery_blames {member : Option Json} {failure : Failure}
    (h : checkQuery member = .error failure) : failure.Blames "query" := by
  unfold checkQuery at h
  split at h
  · cases h
  · cases h
  · cases h
  · cases h
    exact ⟨rfl, rfl⟩

theorem checkPageNo_eq_ok_iff {member : Option Json} {page : UInt32} :
    checkPageNo member = .ok page ↔ GivesPage member page := by
  constructor
  · intro h
    unfold checkPageNo at h
    split at h
    · cases h
      exact .absent
    · cases h
      exact .null
    · split at h
      · exact .number (checkPage_eq_ok_iff.mp h)
      · cases h
    · split at h
      next hread =>
        exact .text (Decimal.readInt64?_eq_some_iff.mp hread).1 (checkPage_eq_ok_iff.mp h)
      · cases h
    · cases h
  · rintro (_ | _ | hpage | ⟨hspells, hpage⟩)
    · rfl
    · rfl
    · simp only [checkPageNo, hpage.isInt64, if_true]
      exact checkPage_eq_ok_iff.mpr hpage
    · simp only [checkPageNo, Decimal.readInt64?_eq_some_iff.mpr ⟨hspells, hpage.isInt64⟩]
      exact checkPage_eq_ok_iff.mpr hpage

theorem checkPageNo_blames {member : Option Json} {failure : Failure}
    (h : checkPageNo member = .error failure) : failure.Blames "page_no" := by
  unfold checkPageNo at h
  split at h
  · cases h
  · cases h
  · split at h
    · exact checkPage_blames h
    · cases h
      exact ⟨rfl, rfl⟩
  · split at h
    · exact checkPage_blames h
    · cases h
      exact ⟨rfl, rfl⟩
  · cases h
    exact ⟨rfl, rfl⟩

/-- A number and the text of its digits are one and the same page. -/
theorem checkPageNo_toString (n : Int) :
    checkPageNo (some (.str (toString n))) = checkPageNo (some (.num (.whole n))) := by
  simp only [checkPageNo, Decimal.trim_toString, Decimal.readInt64?_toString]
  cases Decimal.isInt64 n with
  | true => rfl
  | false => rfl

/-! ## Requests -/

theorem check_eq_ok_iff {request : SearchRequest} {params : SearchParams} :
    request.check = .ok params ↔
      GivesQuery request.query params.query ∧ GivesPage request.pageNo params.page := by
  obtain ⟨query, page⟩ := params
  rw [← checkQuery_eq_ok_iff, ← checkPageNo_eq_ok_iff, check]
  cases checkQuery request.query with
  | error failure => simp [bind, Except.bind]
  | ok found =>
      cases checkPageNo request.pageNo with
      | error failure => simp [bind, Except.bind]
      | ok shown => simp [bind, Except.bind, pure, Except.pure]

/-- A query that gives nothing is blamed, whatever page comes with it. -/
theorem check_blames_query {request : SearchRequest}
    (h : ∀ query, ¬ GivesQuery request.query query) :
    ∃ failure, request.check = .error failure ∧ failure.Blames "query" := by
  cases hquery : checkQuery request.query with
  | ok query => exact absurd (checkQuery_eq_ok_iff.mp hquery) (h query)
  | error failure =>
      refine ⟨failure, ?_, checkQuery_blames hquery⟩
      rw [check, hquery]
      rfl

theorem check_blames_page {request : SearchRequest} {query : Option String}
    (hquery : GivesQuery request.query query) (h : ∀ page, ¬ GivesPage request.pageNo page) :
    ∃ failure, request.check = .error failure ∧ failure.Blames "page_no" := by
  cases hpage : checkPageNo request.pageNo with
  | ok page => exact absurd (checkPageNo_eq_ok_iff.mp hpage) (h page)
  | error failure =>
      refine ⟨failure, ?_, checkPageNo_blames hpage⟩
      rw [check, checkQuery_eq_ok_iff.mpr hquery, hpage]
      rfl

/-- Requests are accepted by this grammar, refused for the first member that is outside of it, and
a page may come as a number or as the text of its digits. -/
structure HasGrammar (request : SearchRequest) : Prop where
  accepts : ∀ params, request.check = .ok params ↔
    GivesQuery request.query params.query ∧ GivesPage request.pageNo params.page
  blames_query : (∀ query, ¬ GivesQuery request.query query) →
    ∃ failure, request.check = .error failure ∧ failure.Blames "query"
  blames_page : ∀ query, GivesQuery request.query query →
    (∀ page, ¬ GivesPage request.pageNo page) →
    ∃ failure, request.check = .error failure ∧ failure.Blames "page_no"

theorem accepted_by_grammar :
    (∀ request : SearchRequest, request.HasGrammar) ∧
      ∀ (query : Option Json) (n : Int),
        check ⟨query, some (.str (toString n))⟩ = check ⟨query, some (.num (.whole n))⟩ := by
  constructor
  · intro request
    exact ⟨fun _ => check_eq_ok_iff, check_blames_query, fun _ => check_blames_page⟩
  · intro query n
    simp only [check, checkPageNo_toString]

/-- A request with a bad query and a bad page, one with a bad page only, a page between blanks, and
the two forms of a page that fills 64 bits without a sign. -/
theorem accepted_by_grammar_at_bounds :
    (∃ failure, check ⟨some (.bool true), some (.str "two")⟩ = .error failure ∧
        failure.Blames "query") ∧
      (∃ failure, check ⟨some (.str " Sofa "), some (.str "4294967296")⟩ = .error failure ∧
        failure.Blames "page_no") ∧
      check ⟨some (.str " Sofa "), some (.str " +007 ")⟩ = .ok ⟨some "sofa", 7⟩ ∧
      check ⟨none, some (.str (toString (2 ^ 64 - 1 : Int)))⟩ =
        check ⟨none, some (.num (.whole (2 ^ 64 - 1)))⟩ := by
  obtain ⟨hgrammar, htext⟩ := accepted_by_grammar
  have hsofa : normalizeQuery " Sofa " = some "sofa" := by decide +kernel
  have hseven : Decimal.readInt64? (Text.trim " +007 ").toList = some 7 := by decide +kernel
  have hlarge : Decimal.readInt64? (Text.trim "4294967296").toList = some 4294967296 := by
    decide +kernel
  refine ⟨(hgrammar _).blames_query ?_, (hgrammar _).blames_page _ (.text " Sofa ") ?_,
    ((hgrammar _).accepts _).mpr ⟨hsofa ▸ .text " Sofa ", ?_⟩, htext none _⟩
  · rintro query ⟨⟩
  · intro page hpage
    have hrefused : checkPageNo (some (.str "4294967296")) =
        .error (.pageOutOfRange 4294967296) := by
      simp only [checkPageNo, hlarge]
      rfl
    rw [checkPageNo_eq_ok_iff.mpr hpage] at hrefused
    contradiction
  · rw [← checkPageNo_eq_ok_iff]
    simp only [checkPageNo, hseven]
    rfl

end SearchRequest
end Noticeboard
