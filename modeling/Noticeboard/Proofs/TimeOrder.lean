import Mathlib.Tactic.Ring
import Noticeboard.Proofs.StoredTime

/-!
# Stored times keep value and order

An ordinary time, to the microsecond, is read back as it was.  Two such times compare as their texts
do, since every field has as many digits in the one as in the other and earlier fields count for
more.
-/

namespace Noticeboard

/-! ## Order of texts -/

theorem compareOfLessAndEq_cons {α : Type} [LT α] [DecidableLT α] [DecidableEq α]
    [Std.Irrefl fun a b : α => a < b] (a b : α) (l m : List α) :
    compareOfLessAndEq (a :: l) (b :: m) =
      (compareOfLessAndEq a b).then (compareOfLessAndEq l m) := by
  have hirrefl : ¬ b < b := Std.Irrefl.irrefl b
  by_cases hlt : a < b
  · simp [compareOfLessAndEq, List.cons_lt_cons_iff, hlt]
  · by_cases heq : a = b
    · subst heq
      simp [compareOfLessAndEq, hlt]
    · simp [compareOfLessAndEq, List.cons_lt_cons_iff, hlt, heq]

/-- Beginnings of one length decide, unless they are the same. -/
theorem compareOfLessAndEq_append {l m l' m' : List Char} (hlength : l.length = m.length) :
    compareOfLessAndEq (l ++ l') (m ++ m') =
      (compareOfLessAndEq l m).then (compareOfLessAndEq l' m') := by
  induction l generalizing m with
  | nil =>
      obtain rfl := List.length_eq_zero_iff.mp hlength.symm
      rfl
  | cons a l ih =>
      cases m with
      | nil => contradiction
      | cons b m =>
          simp only [List.cons_append, compareOfLessAndEq_cons]
          rw [ih (Nat.succ.inj hlength), Ordering.then_assoc]

theorem compare_toList (s t : String) :
    Ord.compare s t = compareOfLessAndEq s.toList t.toList := by
  simp only [Ord.compare, String.compare, compareOfLessAndEq, String.lt_iff, String.toList_inj]

namespace Decimal

theorem ofDigitChars_eq (digits : List Char) (init : Nat) :
    Nat.ofDigitChars 10 digits init = init * 10 ^ digits.length + valueOfDigits digits := by
  induction digits generalizing init with
  | nil => simp [Nat.ofDigitChars, valueOfDigits]
  | cons c rest ih =>
      have hvalue : valueOfDigits (c :: rest) =
          (c.toNat - '0'.toNat) * 10 ^ rest.length + valueOfDigits rest := by
        rw [valueOfDigits_eq, Nat.ofDigitChars_cons, ih]
        simp
      rw [Nat.ofDigitChars_cons, ih, hvalue, List.length_cons]
      ring

theorem valueOfDigits_cons (c : Char) (digits : List Char) :
    valueOfDigits (c :: digits) =
      (c.toNat - '0'.toNat) * 10 ^ digits.length + valueOfDigits digits := by
  rw [valueOfDigits_eq, Nat.ofDigitChars_cons, ofDigitChars_eq]
  simp

theorem toNat_of_isDigit {c : Char} (hc : isDigit c = true) : 48 ≤ c.toNat ∧ c.toNat ≤ 57 := by
  simp only [isDigit, Bool.and_eq_true, decide_eq_true_eq] at hc
  exact hc

theorem valueOfDigits_lt {digits : List Char} (h : ∀ c ∈ digits, isDigit c = true) :
    valueOfDigits digits < 10 ^ digits.length := by
  induction digits with
  | nil => decide
  | cons c rest ih =>
      have hrest := ih fun d hd => h d (List.mem_cons_of_mem c hd)
      have hc := toNat_of_isDigit (h c List.mem_cons_self)
      have hzero : '0'.toNat = 48 := rfl
      rw [valueOfDigits_cons, List.length_cons, Nat.pow_succ]
      have hdigit : c.toNat - '0'.toNat ≤ 9 := by omega
      have hscaled := Nat.mul_le_mul_right (10 ^ rest.length) hdigit
      omega

/-- Numbers compare by what they have of a base, and then by what is left. -/
theorem compare_scaled_int {a b base : Int} {x y : Nat} (hx : x < base) (hy : y < base) :
    Ord.compare (a * base + x) (b * base + y) = (Ord.compare a b).then (Ord.compare x y) := by
  have hless {a b : Int} {x y : Nat} (hx : x < base) (hab : a < b) :
      a * base + x < b * base + y := by
    have hscaled : (a + 1) * base ≤ b * base := Int.mul_le_mul_of_nonneg_right hab (by omega)
    rw [Int.add_mul] at hscaled
    omega
  rcases Int.lt_trichotomy a b with hlt | rfl | hgt
  · rw [Int.compare_eq_lt.mpr (hless hx hlt), Int.compare_eq_lt.mpr hlt]
    rfl
  · have hsame : Ord.compare a a = .eq := Int.compare_eq_eq.mpr rfl
    rw [hsame, Int.compare_eq_ite_lt, Nat.compare_eq_ite_lt]
    simp
  · rw [Int.compare_eq_gt.mpr (hless hy hgt), Int.compare_eq_gt.mpr hgt]
    rfl

theorem compare_scaled {a b x y base : Nat} (hx : x < base) (hy : y < base) :
    Ord.compare (a * base + x) (b * base + y) = (Ord.compare a b).then (Ord.compare x y) := by
  have hcast (m n : Nat) : Ord.compare (m : Int) n = Ord.compare m n := by
    simp only [Int.compare_eq_ite_lt, Nat.compare_eq_ite_lt, Int.ofNat_lt]
  have hscaled : Ord.compare ((a : Int) * base + x) (b * base + y) =
      (Ord.compare (a : Int) b).then (Ord.compare x y) :=
    compare_scaled_int (Int.ofNat_lt.mpr hx) (Int.ofNat_lt.mpr hy)
  simpa only [← Int.natCast_mul, ← Int.natCast_add, hcast] using hscaled

theorem compareOfLessAndEq_digit {c d : Char} (hc : isDigit c = true) (hd : isDigit d = true) :
    compareOfLessAndEq c d = Ord.compare (c.toNat - '0'.toNat) (d.toNat - '0'.toNat) := by
  have hcd := toNat_of_isDigit hc
  have hdd := toNat_of_isDigit hd
  have hzero : '0'.toNat = 48 := rfl
  have hlt : c < d ↔ c.toNat < d.toNat := Iff.rfl
  rw [Nat.compare_eq_ite_lt, compareOfLessAndEq]
  rcases Nat.lt_trichotomy c.toNat d.toNat with h | h | h
  · rw [if_pos (hlt.mpr h), if_pos (by omega)]
  · obtain rfl := Char.toNat_inj.mp h
    simp
  · have hne : c ≠ d := by
      rintro rfl
      omega
    rw [if_neg (mt hlt.mp (by omega)), if_neg hne, if_neg (by omega), if_pos (by omega)]

/-- Numbers with one count of digits compare as their texts do. -/
theorem compareOfLessAndEq_digits {l m : List Char} (hlength : l.length = m.length)
    (hl : ∀ c ∈ l, isDigit c = true) (hm : ∀ c ∈ m, isDigit c = true) :
    compareOfLessAndEq l m = Ord.compare (valueOfDigits l) (valueOfDigits m) := by
  induction l generalizing m with
  | nil =>
      obtain rfl := List.length_eq_zero_iff.mp hlength.symm
      rfl
  | cons c l ih =>
      cases m with
      | nil => contradiction
      | cons d m =>
          have hrest : l.length = m.length := Nat.succ.inj hlength
          have hl' : ∀ e ∈ l, isDigit e = true := fun e he => hl e (List.mem_cons_of_mem c he)
          have hm' : ∀ e ∈ m, isDigit e = true := fun e he => hm e (List.mem_cons_of_mem d he)
          have hsmall : valueOfDigits m < 10 ^ l.length := hrest ▸ valueOfDigits_lt hm'
          rw [compareOfLessAndEq_cons, ih hrest hl' hm', valueOfDigits_cons, valueOfDigits_cons,
            ← hrest, compare_scaled (valueOfDigits_lt hl') hsmall,
            compareOfLessAndEq_digit (hl c List.mem_cons_self) (hm d List.mem_cons_self)]

end Decimal

namespace Time

theorem compareOfLessAndEq_padded {width m n : Nat} (hwidth : 0 < width) (hm : m < 10 ^ width)
    (hn : n < 10 ^ width) :
    compareOfLessAndEq (padded width m) (padded width n) = Ord.compare m n := by
  rw [Decimal.compareOfLessAndEq_digits
    ((length_padded hwidth hm).trans (length_padded hwidth hn).symm)
    (fun _ => isDigit_of_mem_padded) (fun _ => isDigit_of_mem_padded), valueOfDigits_padded,
    valueOfDigits_padded]

/-- A number that ends with a mark decides before what follows the mark. -/
theorem compareOfLessAndEq_field {width m n : Nat} {mark : Char} {l l' : List Char}
    (hwidth : 0 < width) (hm : m < 10 ^ width) (hn : n < 10 ^ width) :
    compareOfLessAndEq (padded width m ++ mark :: l) (padded width n ++ mark :: l') =
      (Ord.compare m n).then (compareOfLessAndEq l l') := by
  have hlength : (padded width m).length = (padded width n).length :=
    (length_padded hwidth hm).trans (length_padded hwidth hn).symm
  have hmark : compareOfLessAndEq mark mark = .eq := by
    simp [compareOfLessAndEq]
  rw [compareOfLessAndEq_append hlength, compareOfLessAndEq_padded hwidth hm hn,
    compareOfLessAndEq_cons, hmark]
  rfl

/-! ## Times -/

/-- A time that is no leap second, in a year that is written with four digits. -/
structure Instant.Ordinary (t : Instant) : Prop where
  year : 0 ≤ t.date.year ∧ t.date.year ≤ 9999
  noLeap : t.nano < 1000000000

/-- An ordinary time without what a microsecond cannot hold. -/
structure Instant.Storable (t : Instant) : Prop extends t.Ordinary where
  micros : t.nano % 1000 = 0

theorem Instant.Ordinary.toMicros {t : Instant} (h : t.Ordinary) : t.toMicros.Storable where
  year := h.year
  noLeap := Nat.lt_of_le_of_lt (Nat.sub_le _ _) h.noLeap
  micros := by
    show (t.nano - t.nano % 1000) % 1000 = 0
    omega

theorem Instant.Ordinary.withoutLeap {t : Instant} (h : t.Ordinary) : t.withoutLeap = t := by
  simp [Instant.withoutLeap, h.noLeap]

namespace Instant.Storable

variable {t u : Instant}

theorem shownSecond (h : t.Storable) : t.shownSecond = t.second := by
  simp [Instant.shownSecond, h.noLeap]

theorem shownNano (h : t.Storable) : t.shownNano = t.nano :=
  Nat.mod_eq_of_lt h.noLeap

theorem readStored_storedText (h : t.Storable) : readStored t.storedText = .ok t :=
  readStored_storedText_self h.year (.inl h.noLeap) h.micros

theorem storedText_toList (h : t.Storable) :
    t.storedText.toList =
      padded 4 t.date.year.toNat ++ '-' :: (padded 2 t.date.month ++ '-' ::
        (padded 2 t.date.day ++ 'T' :: (padded 2 t.hour ++ ':' :: (padded 2 t.minute ++ ':' ::
          (padded 2 t.second ++ '.' :: (padded 6 (t.nano / 1000) ++ 'Z' :: [])))))) := by
  simp [Instant.storedText, Instant.clockChars, Date.chars, yearText, h.year, h.shownSecond,
    h.shownNano]

theorem compare_year (ht : t.Storable) (hu : u.Storable) :
    Ord.compare t.date.year.toNat u.date.year.toNat = Ord.compare t.date.year u.date.year := by
  have htyear := ht.year
  have huyear := hu.year
  rw [Nat.compare_eq_ite_lt, Int.compare_eq_ite_lt]
  grind

theorem compare_micros (ht : t.Storable) (hu : u.Storable) :
    Ord.compare (t.nano / 1000) (u.nano / 1000) = Ord.compare t.nano u.nano := by
  have htmicros := ht.micros
  have humicros := hu.micros
  rw [Nat.compare_eq_ite_lt, Nat.compare_eq_ite_lt]
  grind

/-- Stored texts are in the order of the times. -/
theorem compare_storedText (ht : t.Storable) (hu : u.Storable) :
    Ord.compare t.storedText u.storedText = t.compare u := by
  have hyear {t : Instant} (h : t.Storable) : t.date.year.toNat < 10 ^ 4 := by
    have := h.year
    omega
  have hmonth (t : Instant) : t.date.month < 10 ^ 2 := by
    have := t.date.month_valid
    omega
  have hhour (t : Instant) : t.hour < 10 ^ 2 := by
    have := t.hour_lt
    omega
  have hminute (t : Instant) : t.minute < 10 ^ 2 := by
    have := t.minute_lt
    omega
  have hsecond (t : Instant) : t.second < 10 ^ 2 := by
    have := t.second_lt
    omega
  have hmicros {t : Instant} (h : t.Storable) : t.nano / 1000 < 10 ^ 6 := by
    have := h.noLeap
    omega
  rw [compare_toList, ht.storedText_toList, hu.storedText_toList,
    compareOfLessAndEq_field (by decide) (hyear ht) (hyear hu),
    compareOfLessAndEq_field (by decide) (hmonth t) (hmonth u),
    compareOfLessAndEq_field (by decide) (day_lt t.date) (day_lt u.date),
    compareOfLessAndEq_field (by decide) (hhour t) (hhour u),
    compareOfLessAndEq_field (by decide) (hminute t) (hminute u),
    compareOfLessAndEq_field (by decide) (hsecond t) (hsecond u),
    compareOfLessAndEq_field (by decide) (hmicros ht) (hmicros hu),
    compare_year ht hu, compare_micros ht hu]
  simp only [Instant.compare, Date.compare, Ordering.then_assoc]
  simp [compareOfLessAndEq]

end Instant.Storable
end Time
end Noticeboard
