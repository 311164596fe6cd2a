import Mathlib.Algebra.Group.Nat.Defs
import Noticeboard.Time.Reading
import Noticeboard.Time.Timestamp

/-!
# Stored times can be read

A stored timestamp writes each field of an instant with a fixed number of digits, as long as its
year has four of them, and the strict reader takes the same fields off again.
-/

namespace Noticeboard

/-! ## Digits -/

namespace Decimal

theorem isDigit_eq (c : Char) : isDigit c = c.isDigit := by
  simp [isDigit, Char.isDigit, Char.le_def]

theorem valueOfDigits_eq (digits : List Char) :
    valueOfDigits digits = Nat.ofDigitChars 10 digits 0 :=
  rfl

theorem isBlank_of_isDigit {c : Char} (h : isDigit c = true) : Text.isBlank c = false := by
  have hbounds : 48 ≤ c.toNat ∧ c.toNat ≤ 57 := by
    simpa [isDigit, Char.le_def, UInt32.le_iff_toNat_le] using h
  have hdigits : ∀ code < 58, 48 ≤ code → Text.blankCodes.contains code = false := by decide
  exact hdigits c.toNat (by omega) hbounds.1

end Decimal

namespace Time

theorem isDigit_of_mem_padded {width n : Nat} {c : Char} (hc : c ∈ padded width n) :
    Decimal.isDigit c = true := by
  rcases List.mem_append.mp hc with hzero | hdigit
  · rw [(List.mem_replicate.mp hzero).2]
    decide
  · rw [Decimal.isDigit_eq]
    exact Nat.isDigit_of_mem_toDigits (by decide) (by decide) hdigit

theorem length_padded {width n : Nat} (hwidth : 0 < width) (hn : n < 10 ^ width) :
    (padded width n).length = width := by
  have hdigits : (Nat.toDigits 10 n).length ≤ width :=
    (Nat.length_toDigits_le_iff (by decide) hwidth).mpr hn
  simp only [padded, List.length_append, List.length_replicate]
  omega

theorem valueOfDigits_padded (width n : Nat) : Decimal.valueOfDigits (padded width n) = n := by
  have hzeros (zeros : Nat) : Nat.ofDigitChars 10 (List.replicate zeros '0') 0 = 0 := by
    induction zeros with
    | zero => rfl
    | succ zeros ih => simpa [List.replicate_succ, Nat.ofDigitChars] using ih
  simp only [Decimal.valueOfDigits_eq, padded, Nat.ofDigitChars_append, hzeros,
    Nat.ofDigitChars_ten_toDigits]

/-! ## Readers -/

theorem length_le_byteSize (text : List Char) : text.length ≤ Text.byteSize text := by
  have hfold (size : Nat) :
      size + text.length ≤ text.foldl (fun size c => size + c.utf8Size) size := by
    induction text generalizing size with
    | nil => simp
    | cons c rest ih =>
        have hc := c.utf8Size_pos
        have hrest := ih (size + c.utf8Size)
        simp only [List.length_cons, List.foldl_cons]
        omega
  simpa [Text.byteSize] using hfold 0

theorem shorterThan_eq_false {bytes : Nat} {text : List Char} (h : bytes ≤ text.length) :
    shorterThan bytes text = false := by
  have hsize := length_le_byteSize (text.take bytes)
  rw [List.length_take_of_le h] at hsize
  simpa [shorterThan] using hsize

theorem scan_bind {α β : Type} (first : Scan α) (next : α → Scan β) (text : List Char) :
    (first >>= next) text = first text >>= fun (a, rest) => next a rest :=
  rfl

theorem scan_get (text : List Char) : (get : Scan (List Char)) text = .ok (text, text) :=
  rfl

theorem scan_set (rest text : List Char) : (set rest : Scan Unit) text = .ok ((), rest) :=
  rfl

theorem scan_modify (change : List Char → List Char) (text : List Char) :
    (modify change : Scan Unit) text = .ok ((), change text) :=
  rfl

theorem ok_bind {ε α β : Type} (a : α) (next : α → Except ε β) : .ok a >>= next = next a :=
  rfl

/-- A reader of numbers stops at the most digits it takes or at what is no digit. -/
theorem scanNumber_digits {least most : Nat} {digits rest : List Char}
    (hdigits : ∀ c ∈ digits, Decimal.isDigit c = true) (hleast : least ≤ digits.length)
    (hmost : digits.length ≤ most)
    (hstop : digits.length = most ∨ ∀ c ∈ rest.head?, Decimal.isDigit c = false)
    (hvalue : Decimal.valueOfDigits digits < 0x8000000000000000) :
    scanNumber least most (digits ++ rest) = .ok (Decimal.valueOfDigits digits, rest) := by
  have htaken : ((digits ++ rest).take most).takeWhile Decimal.isDigit = digits := by
    rw [List.take_append, List.take_of_length_le hmost, List.takeWhile_append_of_pos hdigits]
    rcases hstop with hfull | hother
    · simp [hfull]
    · cases rest with
      | nil => simp
      | cons c rest =>
          have hc : Decimal.isDigit c = false := hother c rfl
          cases most - digits.length <;> simp [hc]
  have hlong : least ≤ (digits ++ rest).length := by
    rw [List.length_append]
    omega
  have hsmall : ¬ 0x8000000000000000 ≤ Decimal.valueOfDigits digits := by omega
  simp only [scanNumber, htaken, shorterThan_eq_false hlong]
  simp [hsmall, hleast]

theorem scanNumber_padded {width n : Nat} (hwidth : 0 < width) (hn : n < 10 ^ width)
    (hsmall : n < 0x8000000000000000) (rest : List Char) :
    scanNumber width width (padded width n ++ rest) = .ok (n, rest) := by
  have hlength := length_padded hwidth hn
  have hvalue := valueOfDigits_padded width n
  rw [scanNumber_digits (fun _ => isDigit_of_mem_padded) (by omega) (by omega) (.inl hlength)
    (by omega), hvalue]

theorem scanMark_self (mark : Char) (rest : List Char) :
    scanMark mark (mark :: rest) = .ok ((), rest) := by
  simp [scanMark, scanChar]

theorem scanJoin_join (rest : List Char) : scanJoin ('T' :: rest) = .ok ((), rest) := by
  simp [scanJoin, scanChar]

theorem scanFraction_padded {width n : Nat} (hwidth : 0 < width) (hmost : width ≤ 9)
    (hn : n < 10 ^ width) (rest : List Char)
    (hstop : ∀ c ∈ rest.head?, Decimal.isDigit c = false) :
    scanFraction ('.' :: padded width n ++ rest) = .ok (n * 10 ^ (9 - width), rest) := by
  have hlength : (padded width n).length = width := length_padded hwidth hn
  have hsmall : n < 0x8000000000000000 := by
    have hnine : 10 ^ width ≤ 10 ^ 9 := Nat.pow_le_pow_right (by decide) hmost
    omega
  have hnumber : scanNumber 1 9 (padded width n ++ rest) = .ok (n, rest) := by
    rw [scanNumber_digits (fun _ => isDigit_of_mem_padded) (by omega) (by omega) (.inr hstop)
      (by rwa [valueOfDigits_padded]), valueOfDigits_padded]
  have hrest : rest.dropWhile Decimal.isDigit = rest := by
    cases rest with
    | nil => rfl
    | cons c rest => simp [hstop c rfl]
  have hgiven : (padded width n ++ rest).length - rest.length = width := by simp [hlength]
  simp only [scanFraction, List.cons_append, scan_bind, scan_get, scan_set, scan_modify, ok_bind,
    hnumber, hgiven, hrest]
  rfl

theorem ofFields?_self (date : Date) :
    Date.ofFields? date.year date.month date.day = some date := by
  simp [Date.ofFields?, date.month_valid, date.day_valid]

theorem day_le (date : Date) : date.day ≤ 31 := by
  have hday := date.day_valid.2
  have hmonth : daysIn date.year date.month ≤ 31 := by
    unfold daysIn
    split <;> try split
    all_goals decide
  omega

theorem day_lt (date : Date) : date.day < 100 :=
  Nat.lt_of_le_of_lt (day_le date) (by decide)

theorem scanDate_chars {date : Date} (hyear : 0 ≤ date.year ∧ date.year ≤ 9999)
    (rest : List Char) : Strict.scanDate (date.chars ++ rest) = .ok (date, rest) := by
  have hfour : date.year.toNat < 10 ^ 4 := by omega
  have hmonth : date.month < 10 ^ 2 := by have := date.month_valid; omega
  have hday : date.day < 10 ^ 2 := day_lt date
  have hback : ((date.year.toNat : Nat) : Int) = date.year := Int.toNat_of_nonneg hyear.1
  simp only [Strict.scanDate, Date.chars, yearText, hyear, and_self, if_true, List.append_assoc,
    List.cons_append, scan_bind, ok_bind, scanMark_self,
    scanNumber_padded (by decide) hfour (by omega), scanNumber_padded (by decide) hmonth (by omega),
    scanNumber_padded (by decide) hday (by omega), hback, ofFields?_self]
  rfl

/-! ## Timestamps -/

variable {t : Instant}

theorem shownSecond_le (t : Instant) : t.shownSecond ≤ 60 := by
  have hsecond := t.second_lt
  unfold Instant.shownSecond
  split <;> omega

theorem shownMicros_lt (t : Instant) : t.shownNano / 1000 < 1000000 := by
  unfold Instant.shownNano
  omega

theorem scanClock_storedText (hyear : 0 ≤ t.date.year ∧ t.date.year ≤ 9999) :
    Strict.scanClock t.storedText.toList =
      clockOn t.date t.hour t.minute t.shownSecond (t.shownNano / 1000 * 1000) >>= fun clock =>
        .ok (clock, ['Z']) := by
  have hhour : t.hour < 10 ^ 2 := by have := t.hour_lt; omega
  have hminute : t.minute < 10 ^ 2 := by have := t.minute_lt; omega
  have hsecond : t.shownSecond < 10 ^ 2 := by have := shownSecond_le t; omega
  have hfraction : scanFraction ('.' :: padded 6 (t.shownNano / 1000) ++ ['Z']) =
      .ok (t.shownNano / 1000 * 1000, ['Z']) :=
    scanFraction_padded (by decide) (by decide) (shownMicros_lt t) ['Z'] (by simp; decide)
  simp only [Strict.scanClock, Instant.storedText, Instant.clockChars, String.toList_ofList,
    List.append_assoc, List.cons_append, scan_bind, scanDate_chars hyear, ok_bind,
    scanJoin_join, scanMark_self, scanNumber_padded (by decide) hhour (by omega),
    scanNumber_padded (by decide) hminute (by omega),
    scanNumber_padded (by decide) hsecond (by omega)]
  rw [← List.cons_append, hfraction, ok_bind]
  cases clockOn t.date t.hour t.minute t.shownSecond (t.shownNano / 1000 * 1000) <;> rfl

theorem length_chars {date : Date} (hyear : 0 ≤ date.year ∧ date.year ≤ 9999) :
    date.chars.length = 10 := by
  have hfour : (padded 4 date.year.toNat).length = 4 := length_padded (by decide) (by omega)
  have hyears : (yearText date.year).length = 4 := by simpa [yearText, hyear] using hfour
  have hmonths : (padded 2 date.month).length = 2 :=
    length_padded (by decide) (by have := date.month_valid; omega)
  have hdays : (padded 2 date.day).length = 2 := length_padded (by decide) (day_lt date)
  simp [Date.chars, hyears, hmonths, hdays]

theorem leastBytes_le_storedText (hyear : 0 ≤ t.date.year ∧ t.date.year ≤ 9999) :
    Strict.leastBytes ≤ t.storedText.toList.length := by
  have hhours : (padded 2 t.hour).length = 2 :=
    length_padded (by decide) (by have := t.hour_lt; omega)
  have hminutes : (padded 2 t.minute).length = 2 :=
    length_padded (by decide) (by have := t.minute_lt; omega)
  have hseconds : (padded 2 t.shownSecond).length = 2 :=
    length_padded (by decide) (by have := shownSecond_le t; omega)
  simp [Instant.storedText, Instant.clockChars, length_chars hyear, hhours, hminutes, hseconds,
    Strict.leastBytes]
  omega

/-- What a reader finds when it reads a stored timestamp: the fields that are shown. -/
theorem readStored_storedText (hyear : 0 ≤ t.date.year ∧ t.date.year ≤ 9999) :
    readStored t.storedText =
      clockOn t.date t.hour t.minute t.shownSecond (t.shownNano / 1000 * 1000) >>= fun clock =>
        universal clock 0 := by
  have hshort := shorterThan_eq_false (leastBytes_le_storedText hyear)
  simp only [readStored, hshort, StateT.run, scanClock_storedText hyear]
  cases clockOn t.date t.hour t.minute t.shownSecond (t.shownNano / 1000 * 1000) <;> rfl

theorem ofLocal_zero (clock : Instant) : clock.ofLocal 0 = clock := by
  obtain ⟨date, hour, minute, second, nano, hhour, hminute, hsecond, hnano⟩ := clock
  have htotal : ¬ (((hour * 60 + minute : Nat) : Int) - 0 < 0) := by omega
  have hday : ¬ 1440 ≤ ((hour * 60 + minute : Nat) : Int) - 0 := by omega
  simp only [Instant.ofLocal, htotal, hday, if_false, Instant.mk.injEq, true_and, and_true]
  constructor <;> omega

theorem universal_zero {clock : Instant}
    (hyear : minYear ≤ clock.date.year ∧ clock.date.year ≤ maxYear) :
    universal clock 0 = .ok clock := by
  have hrange : ¬ (clock.date.year < minYear ∨ maxYear < clock.date.year) := by omega
  simp [universal, ofLocal_zero, hrange]

theorem clockOn_shown (t : Instant) :
    ∃ clock, clockOn t.date t.hour t.minute t.shownSecond (t.shownNano / 1000 * 1000) =
      .ok clock ∧ clock.date = t.date := by
  have hhour := t.hour_lt
  have hminute := t.minute_lt
  have hshown := shownSecond_le t
  have hmicros := shownMicros_lt t
  have hnano : t.shownNano / 1000 * 1000 < 1000000000 := by omega
  generalize t.shownNano / 1000 * 1000 = nano at hnano ⊢
  unfold clockOn
  by_cases hleap : t.shownSecond = 60
  · have hlate : nano + 1000000000 < 2000000000 := by omega
    simp [hleap, hhour, hminute, hlate]
  · have hsixty : t.shownSecond < 60 := by omega
    have hearly : nano < 2000000000 := by omega
    simp [hleap, hhour, hminute, hsixty, hearly]

theorem readStored_storedText_ok (hyear : 0 ≤ t.date.year ∧ t.date.year ≤ 9999) :
    ∃ read, readStored t.storedText = .ok read := by
  obtain ⟨clock, hclock, hdate⟩ := clockOn_shown t
  have hrange : minYear ≤ clock.date.year ∧ clock.date.year ≤ maxYear := by
    rw [hdate]
    unfold minYear maxYear
    omega
  exact ⟨clock, by rw [readStored_storedText hyear, hclock, ok_bind, universal_zero hrange]⟩

/-- A stored time to the microsecond reads as itself, if a leap second stands at the end of its
minute. -/
theorem readStored_storedText_self (hyear : 0 ≤ t.date.year ∧ t.date.year ≤ 9999)
    (hleap : t.nano < 1000000000 ∨ t.second = 59) (hmicros : t.nano % 1000 = 0) :
    readStored t.storedText = .ok t := by
  have hclock : clockOn t.date t.hour t.minute t.shownSecond (t.shownNano / 1000 * 1000) =
      .ok t := by
    obtain ⟨date, hour, minute, second, nano, hhour, hminute, hsecond, hnano⟩ := t
    simp only at hleap hmicros
    unfold clockOn Instant.shownSecond Instant.shownNano
    by_cases hshort : nano < 1000000000
    · have hsixty : second ≠ 60 := by omega
      have hshown : nano % 1000000000 / 1000 * 1000 = nano := by omega
      simp [hshort, hsixty, hshown, hhour, hminute, hsecond, hnano]
    · have hlast : second = 59 := by omega
      have hshown : nano % 1000000000 / 1000 * 1000 + 1000000000 = nano := by omega
      simp [hshort, hlast, hshown, hhour, hminute, hnano]
  have hrange : minYear ≤ t.date.year ∧ t.date.year ≤ maxYear := by
    unfold minYear maxYear
    omega
  rw [readStored_storedText hyear, hclock, ok_bind, universal_zero hrange]

end Time
end Noticeboard
