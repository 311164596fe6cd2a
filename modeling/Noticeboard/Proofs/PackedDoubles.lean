import Noticeboard.Proofs.NearestDoubles

/-!
# Packed doubles

A double is stored in 64 bits, where a number that is too large becomes infinity.  What is stored
from zero on is an amount: a number of a double, or infinity.  Amounts are compared as their numbers
are, and every other double is no number or has its sign set.
-/

namespace Noticeboard.Doubles

open Float.Model Float.Model.UnpackedFloat

variable {m n : Nat} {e k : Int} {x y : UnpackedFloat} {v w : ℚ} {a b : WithTop ℚ}

/-! ## The order of numbers -/

theorem Canonical.value_lt_value (h : Canonical m e) (h' : Canonical n k) (hlt : e < k) :
    value m e < value n k := by
  have hleast := h.least
  exact (h.value_lt hlt).trans_le (h'.le_value (by omega))

/-- The exponent counts before the mantissa. -/
theorem Canonical.value_lt_iff (h : Canonical m e) (h' : Canonical n k) :
    value m e < value n k ↔ e < k ∨ e = k ∧ m < n := by
  rcases lt_trichotomy e k with hlt | rfl | hgt
  · exact iff_of_true (h.value_lt_value h' hlt) (.inl hlt)
  · have hmantissas : value m e < value n e ↔ m < n := by
      rw [value, value, mul_lt_mul_iff_left₀ (zpow_pos two_pos e), Nat.cast_lt]
    simp [hmantissas]
  · have hvalues := h'.value_lt_value h hgt
    exact iff_of_false hvalues.not_gt (by omega)

theorem HasValue.compare_of_lt (hx : HasValue x v) (hy : HasValue y w) (hlt : v < w) :
    x.compare y = some .lt ∧ y.compare x = some .gt := by
  cases hy with
  | zero => exact absurd hlt hx.nonneg.not_gt
  | @finite n k _ h' =>
      cases hx with
      | zero => exact ⟨rfl, rfl⟩
      | @finite m e _ h =>
          have hcompare : (Ord.compare e k).then (Ord.compare m n) = .lt ∧
              (Ord.compare k e).then (Ord.compare n m) = .gt := by
            rcases (h.value_lt_iff h').mp hlt with hexponent | ⟨rfl, hmantissa⟩
            · rw [Int.compare_eq_lt.mpr hexponent, Int.compare_eq_gt.mpr hexponent]
              exact ⟨rfl, rfl⟩
            · rw [Int.compare_eq_eq.mpr rfl, Nat.compare_eq_lt.mpr hmantissa,
                Nat.compare_eq_gt.mpr hmantissa]
              exact ⟨rfl, rfl⟩
          exact ⟨congrArg some hcompare.1, congrArg some hcompare.2⟩

/-- A number has one double. -/
theorem HasValue.unique (hx : HasValue x v) (hy : HasValue y w) (hvalue : v = w) : x = y := by
  cases hx with
  | zero =>
      cases hy with
      | zero => rfl
      | @finite n k hn _ => exact absurd hvalue (value_pos hn k).ne
  | @finite m e hm h =>
      cases hy with
      | zero => exact absurd hvalue (value_pos hm e).ne'
      | @finite n k hn h' =>
          have hforth := (h.value_lt_iff h').not.mp hvalue.not_lt
          have hback := (h'.value_lt_iff h).not.mp hvalue.not_gt
          obtain ⟨rfl, rfl⟩ : m = n ∧ e = k := by omega
          rfl

/-! ## Amounts -/

/-- A double from zero on, infinity or not, with its number. -/
inductive Amount : UnpackedFloat → WithTop ℚ → Prop where
  | finite {x : UnpackedFloat} {v : ℚ} (h : HasValue x v) (hbound : v < 2 ^ 1024) : Amount x v
  | infinity : Amount (.infinity .positive) ⊤

theorem Amount.zero : Amount (.zero .positive) 0 :=
  .finite .zero (by positivity)

theorem Amount.nonneg (hx : Amount x a) : 0 ≤ a := by
  cases hx with
  | finite hx _ => exact_mod_cast hx.nonneg
  | infinity => exact le_top

theorem Amount.unique (hx : Amount x a) (hy : Amount y b) (hab : a = b) : x = y := by
  cases hx with
  | finite hx _ =>
      cases hy with
      | finite hy _ => exact hx.unique hy (WithTop.coe_injective hab)
      | infinity => exact absurd hab WithTop.coe_ne_top
  | infinity =>
      cases hy with
      | finite hy _ => exact absurd hab.symm WithTop.coe_ne_top
      | infinity => rfl

theorem Amount.compare_of_lt (hx : Amount x a) (hy : Amount y b) (hlt : a < b) :
    x.compare y = some .lt ∧ y.compare x = some .gt := by
  cases hx with
  | finite hx _ =>
      cases hy with
      | finite hy _ => exact hx.compare_of_lt hy (WithTop.coe_lt_coe.mp hlt)
      | infinity =>
          cases hx with
          | zero => exact ⟨rfl, rfl⟩
          | finite _ => exact ⟨rfl, rfl⟩
  | infinity => exact absurd hlt not_top_lt

theorem Amount.compare_self (hx : Amount x a) : x.compare x = some .eq := by
  cases hx with
  | finite hx _ =>
      cases hx with
      | zero => rfl
      | @finite m e _ _ =>
          have hcompare : (Ord.compare e e).then (Ord.compare m m) = .eq := by
            rw [Int.compare_eq_eq.mpr rfl, Nat.compare_eq_eq.mpr rfl]
            rfl
          exact congrArg some hcompare
  | infinity => rfl

/-- Amounts are compared as their numbers are. -/
theorem Amount.compare_cases (hx : Amount x a) (hy : Amount y b) :
    a < b ∧ x.compare y = some .lt ∨ a = b ∧ x.compare y = some .eq ∨
      b < a ∧ x.compare y = some .gt := by
  rcases lt_trichotomy a b with hlt | heq | hgt
  · exact .inl ⟨hlt, (hx.compare_of_lt hy hlt).1⟩
  · exact .inr (.inl ⟨heq, hx.unique hy heq ▸ hx.compare_self⟩)
  · exact .inr (.inr ⟨hgt, (hy.compare_of_lt hx hgt).2⟩)

theorem Amount.le_iff (hx : Amount x a) (hy : Amount y b) : x.le y = true ↔ a ≤ b := by
  unfold UnpackedFloat.le
  rcases hx.compare_cases hy with ⟨hab, hcompare⟩ | ⟨hab, hcompare⟩ | ⟨hab, hcompare⟩
  · exact iff_of_true (by rw [hcompare]; rfl) hab.le
  · exact iff_of_true (by rw [hcompare]; rfl) hab.le
  · exact iff_of_false (by rw [hcompare]; decide) hab.not_ge

theorem Amount.lt_iff (hx : Amount x a) (hy : Amount y b) : x.lt y = true ↔ a < b := by
  unfold UnpackedFloat.lt
  rcases hx.compare_cases hy with ⟨hab, hcompare⟩ | ⟨hab, hcompare⟩ | ⟨hab, hcompare⟩
  · exact iff_of_true (by rw [hcompare]; rfl) hab
  · exact iff_of_false (by rw [hcompare]; decide) hab.not_lt
  · exact iff_of_false (by rw [hcompare]; decide) hab.not_gt

/-! ## Packing -/

theorem finite_congr {hm : 0 < m} {hn : 0 < n} (hmantissa : m = n) (hexponent : e = k) :
    UnpackedFloat.finite .positive m e hm = .finite .positive n k hn := by
  subst hmantissa hexponent
  rfl

/-- The first bit of a number with all bits is not stored. -/
theorem unpack_full {exponent : BitVec 11} {significand : BitVec 52} {hm : 0 < m}
    (hfirst : exponent ≠ 0#11) (hlast : exponent ≠ -1#11)
    (hmantissa : 2 ^ 52 + significand.toNat = m) (hexponent : (exponent.toNat : Int) - 1075 = e) :
    UnpackedFloat.unpack Format.binary64
      (packComponents Format.binary64 .positive exponent significand) =
        .finite .positive m e hm := by
  -- of the packed bits only their three parts count
  have hparts (bits : BitVec Format.binary64.numBits)
      (hsign : unpackSign bits = Sign.toBitVec .positive) (hbits : unpackExponent bits = exponent)
      (hrest : unpackMantissa bits = significand) :
      UnpackedFloat.unpack Format.binary64 bits = .finite .positive m e hm := by
    subst hbits hrest
    unfold UnpackedFloat.unpack
    dsimp only
    rw [if_neg hlast, if_neg hfirst, hsign]
    refine finite_congr ?_ hexponent
    rw [← hmantissa, BitVec.toNat_append, ← Nat.shiftLeft_add_eq_or_of_lt (BitVec.isLt _)]
    rfl
  exact hparts _ (unpackSign_packComponents _ _ _) unpackExponent_packComponents
    unpackMantissa_packComponents

/-- The exponent of a number without its first bit is the smallest. -/
theorem unpack_small {significand : BitVec 52} {hm : 0 < m} (hmantissa : significand.toNat = m) :
    UnpackedFloat.unpack Format.binary64
      (packComponents Format.binary64 .positive 0#11 significand) =
        .finite .positive m (-1074) hm := by
  have hparts (bits : BitVec Format.binary64.numBits)
      (hsign : unpackSign bits = Sign.toBitVec .positive) (hbits : unpackExponent bits = 0#11)
      (hrest : unpackMantissa bits = significand) :
      UnpackedFloat.unpack Format.binary64 bits = .finite .positive m (-1074) hm := by
    subst hrest
    have hsome : unpackMantissa bits ≠ 0#52 := by
      intro hzero
      rw [hzero] at hmantissa
      exact hm.ne hmantissa
    unfold UnpackedFloat.unpack
    dsimp only
    rw [hbits, if_neg (by decide), if_pos rfl, dif_neg hsome, hsign]
    exact finite_congr hmantissa rfl
  exact hparts _ (unpackSign_packComponents _ _ _) unpackExponent_packComponents
    unpackMantissa_packComponents

/-- With room for its exponent a number is stored as it is. -/
theorem unpack_pack (hm : 0 < m) (h : Canonical m e) (hroom : e ≤ 971) :
    (Float.Model.pack (.finite .positive m e hm)).unpack = .finite .positive m e hm := by
  obtain ⟨hleast, hsmall, hfull⟩ := h
  have hfinite : ¬ 2 ^ 11 ≤ (e + 1023 + 52).toNat + 1 := by omega
  show UnpackedFloat.unpack Format.binary64
    (UnpackedFloat.pack Format.binary64 (.finite .positive m e hm)) = _
  by_cases hfirst : 2 ^ 52 ≤ m
  · have hlog : m.log2 = 52 := (Nat.log2_eq_iff hm.ne').mpr ⟨hfirst, hsmall⟩
    have hpacked : UnpackedFloat.pack Format.binary64 (.finite .positive m e hm) =
        packComponents Format.binary64 .positive (BitVec.ofNat 11 (e + 1023 + 52).toNat)
          (BitVec.ofNat 52 m) :=
      (if_neg hfinite).trans (if_pos (by rw [hlog]; rfl))
    have hexponent : (BitVec.ofNat 11 (e + 1023 + 52).toNat).toNat = (e + 1023 + 52).toNat := by
      rw [BitVec.toNat_ofNat, Nat.mod_eq_of_lt]
      omega
    have hstored (bits : BitVec 11) (hbits : bits.toNat = 0 ∨ bits.toNat = 2047) :
        BitVec.ofNat 11 (e + 1023 + 52).toNat ≠ bits := by
      rintro rfl
      omega
    rw [hpacked]
    apply unpack_full
    · exact hstored _ (.inl rfl)
    · exact hstored _ (.inr rfl)
    · rw [BitVec.toNat_ofNat]
      omega
    · rw [hexponent]
      omega
  · obtain rfl : e = -1074 := hfull.resolve_left hfirst
    have hlog : ¬ m.log2 + 1 = Format.binary64.mantissaBits := by
      have hshort := (Nat.log2_lt hm.ne').mpr (not_le.mp hfirst)
      show ¬ m.log2 + 1 = 53
      omega
    have hpacked : UnpackedFloat.pack Format.binary64 (.finite .positive m (-1074) hm) =
        packComponents Format.binary64 .positive 0#11 (BitVec.ofNat 52 m) := by
      unfold UnpackedFloat.pack
      exact (if_neg hfinite).trans (if_neg hlog)
    rw [hpacked]
    apply unpack_small
    rw [BitVec.toNat_ofNat]
    omega

theorem unpack_pack_of_large (hm : 0 < m) (hlarge : 972 ≤ e) :
    (Float.Model.pack (.finite .positive m e hm)).unpack = .infinity .positive := by
  have hroom : 2 ^ 11 ≤ (e + 1023 + 52).toNat + 1 := by omega
  have hpacked : UnpackedFloat.pack Format.binary64 (.finite .positive m e hm) =
      packedInfinity Format.binary64 .positive :=
    if_pos hroom
  show UnpackedFloat.unpack Format.binary64
    (UnpackedFloat.pack Format.binary64 (.finite .positive m e hm)) = _
  rw [hpacked]
  rfl

/-! ## What is stored of a number -/

/-- A number that is too large for a double becomes infinity. -/
def capped (v : ℚ) : WithTop ℚ :=
  if v < 2 ^ 1024 then v else ⊤

theorem capped_mono (h : v ≤ w) : capped v ≤ capped w := by
  unfold capped
  split_ifs with hv hw hw
  · exact WithTop.coe_le_coe.mpr h
  · exact le_top
  · exact absurd (h.trans_lt hw) hv
  · exact le_rfl

theorem limit_eq : (2 : ℚ) ^ 52 * 2 ^ (972 : ℤ) = 2 ^ 1024 := by
  rw [← zpow_natCast, ← zpow_natCast, ← zpow_add₀ two_ne_zero]
  rfl

theorem Canonical.value_lt_limit (h : Canonical m e) (hroom : e ≤ 971) : value m e < 2 ^ 1024 :=
  limit_eq ▸ h.value_lt (by omega)

theorem Canonical.limit_le_value (h : Canonical m e) (hlarge : 972 ≤ e) :
    2 ^ 1024 ≤ value m e := by
  have hpow : (2 : ℚ) ^ (972 : ℤ) ≤ 2 ^ e := zpow_le_zpow_right₀ one_le_two hlarge
  calc (2 : ℚ) ^ 1024 = 2 ^ 52 * 2 ^ (972 : ℤ) := limit_eq.symm
    _ ≤ 2 ^ 52 * 2 ^ e := mul_le_mul_of_nonneg_left hpow (by positivity)
    _ ≤ value m e := h.le_value (by omega)

theorem HasValue.amount (h : HasValue x v) : Amount (Float.Model.pack x).unpack (capped v) := by
  cases h with
  | zero =>
      rw [capped, if_pos (by positivity)]
      exact .zero
  | @finite m e hm h =>
      rcases le_or_gt e 971 with hroom | hlarge
      · have hbound := h.value_lt_limit hroom
        rw [unpack_pack hm h hroom, capped, if_pos hbound]
        exact .finite (.finite h) hbound
      · have hbound := h.limit_le_value hlarge
        rw [unpack_pack_of_large hm hlarge, capped, if_neg hbound.not_gt]
        exact .infinity

theorem Amount.hasValue (h : Amount x a) (ha : a = v) : HasValue x v := by
  cases h with
  | finite hvalue _ => exact WithTop.coe_injective ha ▸ hvalue
  | infinity => exact absurd ha.symm WithTop.coe_ne_top

theorem HasValue.stored (h : HasValue x v) (hbound : v < 2 ^ 1024) :
    HasValue (Float.Model.pack x).unpack v :=
  h.amount.hasValue (if_pos hbound)

theorem Rounded.amount (h : Rounded x v) : ∃ c, Amount (Float.Model.pack x).unpack c := by
  obtain ⟨w, hvalue, -⟩ := h
  exact ⟨_, hvalue.amount⟩

/-- Of two numbers the smaller is stored as no larger double. -/
theorem Rounded.le (h : Rounded x v) (h' : Rounded y w) (hlt : v < w) :
    (Float.Model.pack x).unpack.le (Float.Model.pack y).unpack = true := by
  obtain ⟨v', hvalue, hnearest⟩ := h
  obtain ⟨w', hvalue', hnearest'⟩ := h'
  rw [hvalue.amount.le_iff hvalue'.amount]
  exact capped_mono (hnearest.mono hnearest' hlt)

/-! ## Any double -/

/-- A double with its sign set. -/
def Negative : UnpackedFloat → Prop
  | .infinity sign | .zero sign | .finite sign .. => sign = .negative
  | .notANumber => False

theorem Negative.le (hx : Negative x) (hy : Amount y b) : x.le y = true := by
  have hforms : y = .zero .positive ∨ (∃ m e h, y = .finite .positive m e h) ∨
      y = .infinity .positive := by
    cases hy with
    | finite hy _ =>
        cases hy with
        | zero => exact .inl rfl
        | finite _ => exact .inr (.inl ⟨_, _, _, rfl⟩)
    | infinity => exact .inr (.inr rfl)
  cases x with
  | notANumber => exact hx.elim
  | infinity sign | zero sign | finite sign m e h =>
      obtain rfl : sign = .negative := hx
      rcases hforms with rfl | ⟨n, k, h', rfl⟩ | rfl <;> rfl

theorem Negative.not_lt (hy : Negative y) : (UnpackedFloat.zero .positive).lt y = false := by
  cases y with
  | notANumber => exact hy.elim
  | infinity sign | zero sign | finite sign m e h =>
      obtain rfl : sign = .negative := hy
      rfl

theorem Canonical.amount {hm : 0 < m} (h : Canonical m e) (hroom : e ≤ 971) :
    ∃ c, Amount (.finite .positive m e hm) c :=
  ⟨_, .finite (.finite h) (h.value_lt_limit hroom)⟩

/-- The bits above those of the infinity below zero are those of no number. -/
theorem unpack_of_large {bits : BitVec Format.binary64.numBits}
    (hlarge : 0xFFF0000000000000 < bits.toNat) :
    UnpackedFloat.unpack Format.binary64 bits = .notANumber := by
  have hbits : bits.toNat < 0x10000000000000000 := bits.isLt
  have hexponent : unpackExponent bits = -1#11 := by
    apply BitVec.eq_of_toNat_eq
    simp only [unpackExponent, BitVec.toNat_cast, BitVec.extractLsb_toNat,
      Nat.shiftRight_eq_div_pow]
    show bits.toNat / 2 ^ 52 % 2 ^ 11 = 2047
    omega
  have hmantissa : unpackMantissa bits ≠ 0#52 := by
    intro hzero
    have hrest : bits.toNat % 2 ^ 52 = 0 := by
      simpa [unpackMantissa, BitVec.extractLsb_toNat] using congrArg BitVec.toNat hzero
    omega
  unfold UnpackedFloat.unpack
  dsimp only
  rw [if_pos hexponent, if_neg hmantissa]

/-- A double is no number, or negative, or an amount. -/
theorem unpack_cases (bits : BitVec Format.binary64.numBits) :
    UnpackedFloat.unpack Format.binary64 bits = .notANumber ∨
      Negative (UnpackedFloat.unpack Format.binary64 bits) ∨
      ∃ c, Amount (UnpackedFloat.unpack Format.binary64 bits) c := by
  have hbias : ((1023 + 52 : ℕ) : Int) = 1075 := rfl
  have hmantissa := (unpackMantissa bits).isLt
  have hexponent : ((unpackExponent bits).toNat : Int) < 2048 := by
    exact_mod_cast (unpackExponent bits).isLt
  unfold UnpackedFloat.unpack
  dsimp only
  cases Sign.ofBitVec (unpackSign bits) with
  | negative =>
      split
      · split
        · exact .inr (.inl rfl)
        · exact .inl rfl
      · split
        · split
          · exact .inr (.inl rfl)
          · exact .inr (.inl rfl)
        · exact .inr (.inl rfl)
  | positive =>
      split
      · split
        · exact .inr (.inr ⟨_, .infinity⟩)
        · exact .inl rfl
      next hlast =>
        split
        next hfirst =>
          split
          · exact .inr (.inr ⟨0, .zero⟩)
          · have hleast : ((unpackExponent bits).toNat : Int) - (1023 + 52 : ℕ) + 1 = -1074 := by
              rw [hfirst]
              rfl
            refine .inr (.inr (Canonical.amount ⟨hleast.ge, ?_, .inr hleast⟩ ?_))
            · exact hmantissa.trans (by decide)
            · omega
        next hfirst =>
          have hlog := log2_significand (unpackMantissa bits)
          have hsome : (1#1 ++ unpackMantissa bits).toNat ≠ 0 := by
            intro hzero
            rw [hzero] at hlog
            exact absurd hlog (by decide)
          have hbits := (Nat.log2_eq_iff hsome).mp hlog
          have hleast : (unpackExponent bits).toNat ≠ 0 := fun hzero =>
            hfirst (BitVec.eq_of_toNat_eq hzero)
          have hmost : (unpackExponent bits).toNat ≠ 2047 := fun htop =>
            hlast (BitVec.eq_of_toNat_eq htop)
          refine .inr (.inr (Canonical.amount ⟨?_, hbits.2, .inl hbits.1⟩ ?_))
          · show -1074 ≤ ((unpackExponent bits).toNat : Int) - (1023 + 52 : ℕ)
            omega
          · show ((unpackExponent bits).toNat : Int) - (1023 + 52 : ℕ) ≤ 971
            omega

end Noticeboard.Doubles
