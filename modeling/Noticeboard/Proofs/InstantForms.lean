import Mathlib.Data.List.TakeWhile
import Noticeboard.Proofs.Statements
import Noticeboard.Proofs.TimeOrder

/-!
# Times in data

An instant is written with as few fraction digits as it needs, and may be given with any number of
them, at any offset, with blanks and without leading zeros.  Whatever way it was given, it is one
that can be shown, and what is written for such an instant is read as that instant.
-/

namespace Noticeboard

open Store (bind_eq_ok pure_eq_ok throw_ne_ok ite_eq_ok)

namespace Time

/-- An instant that can be written: its year is within the range of the calendar, and only a
sixtieth second has more than a second of nanoseconds. -/
structure Instant.Shown (t : Instant) : Prop where
  year : minYear ≤ t.date.year ∧ t.date.year ≤ maxYear
  leap : t.nano < 1000000000 ∨ t.second = 59

/-! ## What is read can be shown -/

/-- Whatever the reader finds has this property. -/
def Finds {α : Type} (scan : Scan α) (P : α → Prop) : Prop :=
  ∀ text a rest, scan text = .ok (a, rest) → P a

section

variable {α β : Type} {P : α → Prop} {Q : β → Prop}

theorem Finds.bind {first : Scan α} {next : α → Scan β} (hfirst : Finds first P)
    (hnext : ∀ a, P a → Finds (next a) Q) : Finds (first >>= next) Q := by
  intro text b rest h
  rw [scan_bind] at h
  obtain ⟨⟨a, left⟩, hrun, hthen⟩ := bind_eq_ok.mp h
  exact hnext a (hfirst text a left hrun) left b rest hthen

/-- What is found first does not matter here. -/
theorem finds_bind {first : Scan α} {next : α → Scan β} (hnext : ∀ a, Finds (next a) Q) :
    Finds (first >>= next) Q :=
  Finds.bind (fun _ _ _ _ => trivial : Finds first fun _ => True) fun a _ => hnext a

theorem finds_pure {a : α} (h : P a) : Finds (pure a) P := by
  intro text b rest heq
  cases heq
  exact h

end

theorem scanNumber_lt {least most : Nat} {text rest : List Char} {value : Nat}
    (h : scanNumber least most text = .ok (value, rest)) :
    value < 10 ^ (text.length - rest.length) ∧ text.length - rest.length ≤ most := by
  simp only [scanNumber, ite_eq_ok, reduceCtorEq, and_false, false_or, Except.ok.injEq,
    Prod.mk.injEq] at h
  obtain ⟨-, -, -, rfl, rfl⟩ := h
  generalize hdigits : (text.take most).takeWhile Decimal.isDigit = digits
  have hprefix : digits <+: text.take most := hdigits ▸ List.takeWhile_prefix _
  have hlength := hprefix.length_le
  have hall : ∀ c ∈ digits, Decimal.isDigit c = true := by
    intro c hc
    rw [← hdigits] at hc
    exact List.mem_takeWhile_imp hc
  rw [List.length_take] at hlength
  have hgiven : text.length - (text.drop digits.length).length = digits.length := by
    rw [List.length_drop]
    omega
  rw [hgiven]
  exact ⟨Decimal.valueOfDigits_lt hall, by omega⟩

/-- Nine digits at most are counted, and they are moved up to the ninth place. -/
theorem scanFraction_lt : Finds scanFraction fun nano => nano < 1000000000 := by
  intro text nano rest h
  simp only [scanFraction, scan_bind, scan_get, ok_bind] at h
  split at h
  next digits =>
    simp only [scan_bind, scan_set, scan_get, scan_modify, ok_bind] at h
    obtain ⟨⟨value, left⟩, hnumber, hthen⟩ := bind_eq_ok.mp h
    obtain ⟨hvalue, hnine⟩ := scanNumber_lt hnumber
    cases hthen
    generalize digits.length - left.length = given at hvalue hnine
    calc value * 10 ^ (9 - given)
        < 10 ^ given * 10 ^ (9 - given) :=
          Nat.mul_lt_mul_of_pos_right hvalue (Nat.pow_pos (by decide))
      _ = 10 ^ 9 := by rw [← Nat.pow_add, Nat.add_sub_cancel' hnine]
  next =>
    cases h
    decide

theorem scanFields_nano : Finds Relaxed.scanFields fun fields => fields.nano < 1000000000 := by
  unfold Relaxed.scanFields
  refine finds_bind fun year => ?_
  refine finds_bind fun _ => ?_
  refine finds_bind fun month => ?_
  refine finds_bind fun _ => ?_
  refine finds_bind fun day => ?_
  refine finds_bind fun _ => ?_
  refine finds_bind fun hour => ?_
  refine finds_bind fun _ => ?_
  refine finds_bind fun minute => ?_
  refine finds_bind fun _ => ?_
  refine finds_bind fun second => ?_
  refine scanFraction_lt.bind fun nano hnano => ?_
  refine finds_bind fun _ => ?_
  apply finds_pure
  exact hnano

theorem clockOn_leap {date : Date} {hour minute second nano : Nat} {clock : Instant}
    (hnano : nano < 1000000000) (h : clockOn date hour minute second nano = .ok clock) :
    clock.nano < 1000000000 ∨ clock.second = 59 := by
  unfold clockOn at h
  cases hleap : second == 60 with
  | true =>
      simp only [hleap, if_true] at h
      split at h
      · cases h
        exact .inr rfl
      · cases h
  | false =>
      simp only [hleap, Bool.false_eq_true, if_false] at h
      split at h
      · cases h
        exact .inl hnano
      · cases h

theorem universal_shown {clock instant : Instant} {offset : Int}
    (hclock : clock.nano < 1000000000 ∨ clock.second = 59)
    (h : universal clock offset = .ok instant) : instant.Shown := by
  unfold universal at h
  simp only [ite_eq_ok, reduceCtorEq, and_false, false_or, Except.ok.injEq] at h
  obtain ⟨-, hyear, rfl⟩ := h
  exact ⟨by omega, hclock⟩

theorem shown_of_readInstant {text : String} {t : Instant} (h : readInstant text = .ok t) :
    t.Shown := by
  simp only [readInstant, StateT.run, bind_eq_ok, ite_eq_ok, throw_ne_ok, and_false, or_false] at h
  obtain ⟨⟨fields, rest⟩, hfields, ⟨offset, rest'⟩, -, -, hinstant⟩ := h
  have hnano : fields.nano < 1000000000 := scanFields_nano _ fields rest hfields
  unfold Fields.instant at hinstant
  split at hinstant
  · cases hinstant
  · split at hinstant
    · cases hinstant
    · obtain ⟨clock, hclock, huniversal⟩ := bind_eq_ok.mp hinstant
      exact universal_shown (clockOn_leap hnano hclock) huniversal

/-! ## What is shown can be read -/

section

variable {rest : List Char}

theorem skipBlanks_of_head (h : ∀ c ∈ rest.head?, Text.isBlank c = false) :
    skipBlanks rest = .ok ((), rest) := by
  have hsame : Text.trimStart rest = rest := by
    cases rest with
    | nil => rfl
    | cons c rest => simp [Text.trimStart, h c rfl]
  rw [skipBlanks, scan_modify, hsame]

theorem skipBlanks_cons {c : Char} (h : Text.isBlank c = false) :
    skipBlanks (c :: rest) = .ok ((), c :: rest) :=
  skipBlanks_of_head fun _ hc => Option.some.inj hc ▸ h

theorem exists_cons_padded (width n : Nat) :
    ∃ c digits, padded width n = c :: digits ∧ Decimal.isDigit c = true := by
  have hsome : padded width n ≠ [] := by
    unfold padded
    exact List.append_ne_nil_of_right_ne_nil _ Nat.toDigits_ne_nil
  obtain ⟨c, digits, hdigits⟩ := List.exists_cons_of_ne_nil hsome
  exact ⟨c, digits, hdigits, isDigit_of_mem_padded (hdigits ▸ List.mem_cons_self)⟩

theorem scanPart_padded {n : Nat} (hn : n < 10 ^ 2) :
    Relaxed.scanPart (padded 2 n ++ rest) = .ok (n, rest) := by
  obtain ⟨c, digits, hdigits, hc⟩ := exists_cons_padded 2 n
  have hlength := length_padded (by decide) hn
  have hnumber : scanNumber 1 2 (padded 2 n ++ rest) = .ok (n, rest) := by
    rw [scanNumber_digits (fun _ => isDigit_of_mem_padded) (by omega) (by omega) (.inl hlength)
      (by rw [valueOfDigits_padded]; omega), valueOfDigits_padded]
  have hskip : skipBlanks (padded 2 n ++ rest) = .ok ((), padded 2 n ++ rest) := by
    rw [hdigits]
    exact skipBlanks_cons (Decimal.isBlank_of_isDigit hc)
  rw [Relaxed.scanPart, scan_bind, hskip, ok_bind]
  exact hnumber

theorem scanSpacedMark_self {mark : Char} (h : Text.isBlank mark = false) :
    Relaxed.scanSpacedMark mark (mark :: rest) = .ok ((), rest) := by
  rw [Relaxed.scanSpacedMark, scan_bind, skipBlanks_cons h, ok_bind]
  exact scanMark_self mark rest

theorem bounded_of_le {low high n : Nat} {number : Scan Nat} {text : List Char}
    (hnumber : number text = .ok (n, rest)) (hn : low ≤ n ∧ n ≤ high) :
    bounded low high number text = .ok (n, rest) := by
  rw [bounded, scan_bind, hnumber, ok_bind]
  simp only [if_pos hn]
  rfl

/-- A year that begins with a digit has four of them at most. -/
theorem scanYear_digit {c : Char} {digits : List Char} {year : Nat}
    (hc : Decimal.isDigit c = true)
    (hnumber : scanNumber 1 4 (c :: digits) = .ok (year, rest)) :
    Relaxed.scanYear (c :: digits) = .ok ((year : Int), rest) := by
  have hbehind : c ≠ '-' := by
    rintro rfl
    contradiction
  have hahead : c ≠ '+' := by
    rintro rfl
    contradiction
  have hskip : skipBlanks (c :: digits) = .ok ((), c :: digits) :=
    skipBlanks_cons (Decimal.isBlank_of_isDigit hc)
  simp [Relaxed.scanYear, scan_bind, hskip, ok_bind, scan_get, hbehind, hahead, hnumber,
    -bind_pure_comp]
  rfl

theorem scanYear_sign {sign : Char} {digits : List Char} {year : Nat}
    (hsign : sign = '-' ∨ sign = '+') (hyear : year < 0x80000000)
    (hnumber : scanNumber 1 digits.length digits = .ok (year, rest)) :
    Relaxed.scanYear (sign :: digits) =
      .ok (if sign = '-' then -(year : Int) else year, rest) := by
  have hbehind : ¬ 0x80000000 < year := by omega
  have hahead : ¬ 0x80000000 ≤ year := by omega
  rcases hsign with rfl | rfl
  · have hskip : skipBlanks ('-' :: digits) = .ok ((), '-' :: digits) :=
      skipBlanks_cons (by decide)
    simp only [Relaxed.scanYear, scan_bind, hskip, ok_bind, scan_get, scan_set, hnumber, hbehind,
      if_false]
    rfl
  · have hskip : skipBlanks ('+' :: digits) = .ok ((), '+' :: digits) :=
      skipBlanks_cons (by decide)
    simp only [Relaxed.scanYear, scan_bind, hskip, ok_bind, scan_get, scan_set, hnumber, hahead,
      if_false]
    rfl

theorem scanYear_yearText {year : Int} (hyear : minYear ≤ year ∧ year ≤ maxYear)
    (hstop : ∀ c ∈ rest.head?, Decimal.isDigit c = false) :
    Relaxed.scanYear (yearText year ++ rest) = .ok (year, rest) := by
  unfold minYear maxYear at hyear
  unfold yearText
  split
  next hfour =>
    have hsmall : year.toNat < 10 ^ 4 := by omega
    have hlength := length_padded (by decide) hsmall
    have hnumber : scanNumber 1 4 (padded 4 year.toNat ++ rest) = .ok (year.toNat, rest) := by
      rw [scanNumber_digits (fun _ => isDigit_of_mem_padded) (by omega) (by omega) (.inl hlength)
        (by rw [valueOfDigits_padded]; omega), valueOfDigits_padded]
    obtain ⟨c, digits, hdigits, hc⟩ := exists_cons_padded 4 year.toNat
    rw [hdigits, List.cons_append] at hnumber ⊢
    rw [scanYear_digit hc hnumber, Int.toNat_of_nonneg hfour.1]
  next hlong =>
    have hnumber : scanNumber 1 (padded 4 year.natAbs ++ rest).length
        (padded 4 year.natAbs ++ rest) = .ok (year.natAbs, rest) := by
      obtain ⟨c, digits, hdigits, -⟩ := exists_cons_padded 4 year.natAbs
      rw [scanNumber_digits (fun _ => isDigit_of_mem_padded) (by simp [hdigits]) (by simp)
        (.inr hstop) (by rw [valueOfDigits_padded]; omega), valueOfDigits_padded]
    have hsmall : year.natAbs < 0x80000000 := by omega
    rw [List.cons_append]
    by_cases hnegative : year < 0
    · rw [if_pos hnegative, scanYear_sign (.inl rfl) hsmall hnumber, if_pos rfl]
      congr 2
      omega
    · rw [if_neg hnegative, scanYear_sign (.inr rfl) hsmall hnumber, if_neg (by decide)]
      congr 2
      omega

/-! ## The written form -/

/-- The fraction that an instant is written with. -/
def fractionText (nano : Nat) : List Char :=
  if nano = 0 then []
  else if nano % 1000000 = 0 then '.' :: padded 3 (nano / 1000000)
  else if nano % 1000 = 0 then '.' :: padded 6 (nano / 1000)
  else '.' :: padded 9 nano

theorem toList_text (t : Instant) :
    t.text.toList = t.clockChars ++ fractionText t.shownNano ++ ['Z'] := by
  rw [Instant.text, String.toList_ofList]
  rfl

theorem scanFraction_fractionText {nano : Nat} (h : nano < 1000000000) :
    scanFraction (fractionText nano ++ ['Z']) = .ok (nano, ['Z']) := by
  have hstop : ∀ c ∈ ['Z'].head?, Decimal.isDigit c = false := by
    intro c hc
    cases hc
    decide
  unfold fractionText
  split
  · subst nano
    rfl
  · split
    next hmillis =>
      rw [scanFraction_padded (by decide) (by decide) (by omega) _ hstop]
      congr 2
      omega
    next =>
      split
      next hmicros =>
        rw [scanFraction_padded (by decide) (by decide) (by omega) _ hstop]
        congr 2
        omega
      next =>
        rw [scanFraction_padded (by decide) (by decide) (by omega) _ hstop]
        congr 2
        omega

theorem scanFields_text {t : Instant} (h : t.Shown) :
    Relaxed.scanFields t.text.toList =
      .ok (⟨t.date.year, t.date.month, t.date.day, t.hour, t.minute, t.shownSecond, t.shownNano⟩,
        ['Z']) := by
  have hmonth := t.date.month_valid
  have hday : t.date.day ≤ 31 := day_le t.date
  have hhour := t.hour_lt
  have hminute := t.minute_lt
  have hsecond := shownSecond_le t
  have hnano : t.shownNano < 1000000000 := Nat.mod_lt _ (by decide)
  have hdash : Text.isBlank '-' = false := by decide
  have hcolon : Text.isBlank ':' = false := by decide
  have hpart {low high n : Nat} (hn : low ≤ n ∧ n ≤ high) (hhigh : high < 100)
      (rest : List Char) : bounded low high Relaxed.scanPart (padded 2 n ++ rest) = .ok (n, rest) :=
    bounded_of_le (scanPart_padded (by omega)) hn
  have hyear (rest : List Char) : Relaxed.scanYear (yearText t.date.year ++ '-' :: rest) =
      .ok (t.date.year, '-' :: rest) := by
    apply scanYear_yearText h.year
    intro c hc
    cases hc
    decide
  rw [toList_text]
  simp only [Relaxed.scanFields, Instant.clockChars, Date.chars, List.append_assoc,
    List.cons_append, scan_bind, ok_bind, hyear, scanSpacedMark_self hdash,
    scanSpacedMark_self hcolon, scanJoin_join, hpart hmonth (by decide),
    hpart ⟨t.date.day_valid.1, hday⟩ (by decide),
    hpart ⟨Nat.zero_le _, Nat.le_of_lt_succ hhour⟩ (by decide),
    hpart ⟨Nat.zero_le _, Nat.le_of_lt_succ hminute⟩ (by decide),
    hpart ⟨Nat.zero_le _, hsecond⟩ (by decide), scanFraction_fractionText hnano]
  rfl

theorem clockOn_shownSecond {t : Instant} (h : t.nano < 1000000000 ∨ t.second = 59) :
    clockOn t.date t.hour t.minute t.shownSecond t.shownNano = .ok t := by
  obtain ⟨date, hour, minute, second, nano, hhour, hminute, hsecond, hnano⟩ := t
  by_cases hearly : nano < 1000000000
  · have hsixty : (second == 60) = false := beq_false_of_ne (by omega)
    simp [clockOn, Instant.shownSecond, Instant.shownNano, hearly, hsixty, Nat.mod_eq_of_lt, hhour,
      hminute, hsecond, hnano]
  · obtain rfl : second = 59 := h.resolve_left hearly
    have hback : nano % 1000000000 + 1000000000 = nano := by omega
    simp [clockOn, Instant.shownSecond, Instant.shownNano, hearly, hback, hhour, hminute, hnano]

theorem readInstant_text {t : Instant} (h : t.Shown) : readInstant t.text = .ok t := by
  have hzone : Relaxed.scanZone ['Z'] = .ok (0, []) := rfl
  have hrange : ¬ (t.date.year < minYear ∨ maxYear < t.date.year) := by
    have hyear := h.year
    omega
  simp only [readInstant, StateT.run, scanFields_text h, hzone, ok_bind, List.isEmpty_nil, if_true,
    Fields.instant, hrange, if_false, ofFields?_self, clockOn_shownSecond h.leap,
    universal_zero h.year]

end

end Time
end Noticeboard
