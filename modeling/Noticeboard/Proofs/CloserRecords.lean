import Noticeboard.Proofs.CloserFields
import Noticeboard.Proofs.OrderedDoubles

/-!
# Closer records

A record that is closer to the query than another in all of its fields is listed at or above it:
it scores at least as much, and matches if the other does.  So it is with exact numbers, and with
doubles as well, which are rounded at every step.
-/

namespace Noticeboard

namespace Doubles

open Float.Model

variable {x y : Float}

theorem le_iff_unpacked : x ≤ y ↔ x.toModel.unpack.le y.toModel.unpack = true :=
  decide_eq_true_iff

theorem lt_iff_unpacked : x < y ↔ x.toModel.unpack.lt y.toModel.unpack = true :=
  decide_eq_true_iff

/-- A double from zero on, infinity or not. -/
def IsAmount (x : Float) : Prop :=
  ∃ a, Amount x.toModel.unpack a

/-- A finite double above zero. -/
def IsWeight (x : Float) : Prop :=
  ∃ v : ℚ, 0 < v ∧ HasValue x.toModel.unpack v

theorem unpack_zero : (0 : Float).toModel.unpack = .zero .positive :=
  (hasValue_count (by decide)).1.unique .zero countValue_zero

theorem amount_cases (x : Float) : x.toModel.unpack = .notANumber ∨ Negative x.toModel.unpack ∨
    IsAmount x :=
  unpack_cases x.toModel.toBits.toBitVec

theorem isWeight_of_finite (hfinite : x.isFinite = true) (hpos : 0 < x) : IsWeight x := by
  rw [lt_iff_unpacked, unpack_zero] at hpos
  rcases amount_cases x with hnone | hnegative | ⟨a, hamount⟩
  · rw [hnone] at hpos
    contradiction
  · rw [hnegative.not_lt] at hpos
    contradiction
  · rw [Amount.zero.lt_iff hamount] at hpos
    change x.toModel.unpack.isFinite = true at hfinite
    unfold IsWeight
    generalize x.toModel.unpack = y at *
    cases hamount with
    | finite hvalue _ => exact ⟨_, WithTop.coe_lt_coe.mp hpos, hvalue⟩
    | infinity => contradiction

theorem IsAmount.isNaN (h : IsAmount x) : x.isNaN = false := by
  obtain ⟨a, hamount⟩ := h
  change x.toModel.unpack.isNaN = false
  generalize x.toModel.unpack = y at *
  cases hamount with
  | finite hvalue _ =>
      cases hvalue with
      | zero => rfl
      | finite _ => rfl
  | infinity => rfl

theorem zero_div_count {whole : ℕ} (hsome : 0 < whole) (hbits : whole < 2 ^ 64) :
    ((0 : ℕ) : Float) / (whole : Float) = 0 := by
  show Float.ofModel (Float.Model.pack (UnpackedFloat.div Format.binary64
    (0 : Float).toModel.unpack (Float.ofNat whole).toModel.unpack)) = 0
  rw [unpack_zero, div_zero_left (hasValue_count hbits).1 (countValue_pos hsome hbits)]
  decide

theorem orderLaws : OrderLaws Float IsAmount IsWeight where
  zero := ⟨0, by rw [unpack_zero]; exact .zero⟩
  zero_le := by
    rintro a ⟨b, ha⟩
    rw [le_iff_unpacked, unpack_zero, Amount.zero.le_iff ha]
    exact ha.nonneg
  le_trans := by
    rintro bound a b ⟨a', ha⟩ ⟨b', hb⟩ hbound hab
    rw [le_iff_unpacked] at *
    rcases amount_cases bound with hnone | hnegative | ⟨c, hamount⟩
    · rw [hnone] at hbound
      contradiction
    · exact hnegative.le hb
    · rw [hamount.le_iff ha] at hbound
      rw [ha.le_iff hb] at hab
      exact (hamount.le_iff hb).mpr (hbound.trans hab)
  lt_of_lt_of_le := by
    rintro a b ⟨a', ha⟩ ⟨b', hb⟩ hpos hab
    rw [lt_iff_unpacked, unpack_zero] at *
    rw [le_iff_unpacked, ha.le_iff hb] at hab
    rw [Amount.zero.lt_iff ha] at hpos
    exact (Amount.zero.lt_iff hb).mpr (hpos.trans_le hab)
  ratio := by
    rintro part whole hpart hsome hbits
    exact (Gives.rounded (rounded_ratio (by omega) hsome hbits)).amount
  ratio_le := by
    rintro part whole part' whole' hpart hwhole hsome hless hbits
    rcases Nat.eq_zero_or_pos part' with rfl | hpos
    · obtain rfl : part = 0 := by omega
      rw [zero_div_count (by omega) hbits, zero_div_count hsome (by omega), le_iff_unpacked,
        unpack_zero]
      exact (Amount.zero.le_iff .zero).mpr le_rfl
    · exact le_iff_unpacked.mpr (ratio_le hpart hwhole hpos hless hbits)
  zero_ratio := zero_div_count
  mul := by
    rintro w a ⟨v, hpos, hw⟩ ⟨b, ha⟩
    exact (gives_mul hw hpos ha).amount
  mul_le := by
    rintro w a b ⟨v, hpos, hw⟩ ⟨a', ha⟩ ⟨b', hb⟩ hle
    exact le_iff_unpacked.mpr (mul_le hw hpos ha hb ((ha.le_iff hb).mp (le_iff_unpacked.mp hle)))
  add := by
    rintro a b ⟨a', ha⟩ ⟨b', hb⟩
    exact (gives_add ha hb).amount
  add_le := by
    rintro a b c d ⟨a', ha⟩ ⟨b', hb⟩ ⟨c', hc⟩ ⟨d', hd⟩ hac hbd
    exact le_iff_unpacked.mpr (add_le ha hb hc hd ((ha.le_iff hc).mp (le_iff_unpacked.mp hac))
      ((hb.le_iff hd).mp (le_iff_unpacked.mp hbd)))

end Doubles

namespace Ranking

open TrigramSet

variable {E F : Type} [Searchable E F]

theorem isWeight_inDoubles {fields : List (WeightedField F)}
    (hfinite : ∀ field ∈ fields, 0 < field.weight → field.weight.isFinite = true) :
    ∀ field ∈ inDoubles fields, 0 < field.2 → Doubles.IsWeight field.2 := by
  intro field hfield hpos
  obtain ⟨weighted, hmem, rfl⟩ := List.mem_map.mp hfield
  exact Doubles.isWeight_of_finite (hfinite weighted hmem hpos) hpos

/-- With finite weights every weighted sum is a number. -/
theorem isNaN_totalIn {fields : List (WeightedField F)}
    (hfinite : ∀ field ∈ fields, 0 < field.weight → field.weight.isFinite = true) (query : String)
    (entity : E) : (totalIn (inDoubles fields) (ofText query) entity).isNaN = false :=
  (totalIn_amount Doubles.orderLaws (isWeight_inDoubles hfinite) query entity).isNaN

/-- A record that shares at least as much with the query in each field that counts, and has at most
as much besides, scores at least as much, and matches if the other does. -/
theorem closer_ranks_at_or_above (K : Type*) [Field K] [LinearOrder K] [IsStrictOrderedRing K]
    (query : String) (near far : E) :
    (∀ (threshold : K) (fields : List (F × K)), (∀ field ∈ fields, 0 ≤ field.2) →
      CloserIn fields (ofText query) near far →
      (∀ entity : E, totalIn fields (ofText query) entity =
        (fields.map (partIn (ofText query) entity)).sum) ∧
      totalIn fields (ofText query) far ≤ totalIn fields (ofText query) near ∧
      (MatchesIn threshold fields (ofText query) far →
        MatchesIn threshold fields (ofText query) near)) ∧
    ∀ (settings : EngineSettings) (fields : List (WeightedField F)),
      (∀ entity : E, score settings fields entity (ofText query) =
        if MatchesIn settings.matchThreshold (inDoubles fields) (ofText query) entity then
          some (totalIn (inDoubles fields) (ofText query) entity)
        else none) ∧
      ((∀ field ∈ fields, field.weight.isFinite = true) →
        CloserIn (inDoubles fields) (ofText query) near far →
        ∀ least, score settings fields far (ofText query) = some least →
          ∃ most, score settings fields near (ofText query) = some most ∧ least ≤ most) := by
  constructor
  · intro threshold fields hweights hcloser
    exact ⟨totalIn_eq_sum hweights _, totalIn_le (.exact K) (fun _ _ hpos => hpos) hcloser,
      MatchesIn.closer (.exact K) hcloser⟩
  · intro settings fields
    refine ⟨fun entity => score_eq settings fields entity _, ?_⟩
    intro hweights hcloser least hleast
    rw [score_eq, Option.ite_none_right_eq_some] at hleast
    obtain ⟨hmatches, heq⟩ := hleast
    obtain rfl := Option.some.inj heq
    refine ⟨_, by rw [score_eq, if_pos (hmatches.closer Doubles.orderLaws hcloser)], ?_⟩
    exact totalIn_le Doubles.orderLaws
      (isWeight_inDoubles fun field hmem _ => hweights field hmem) hcloser

theorem guitars_rank_above_lamps :
    let guitars : Category := ⟨"c1", "vintage guitars", none, sampleNow, sampleNow⟩
    let lamps : Category := ⟨"c2", "vintage lamp", some "For a desk", sampleNow, sampleNow⟩
    let query := ofText "Vintage Guitar"
    let exactFields : List (CategoryField × ℚ) := [(.name, 1), (.description, 1 / 2)]
    totalIn exactFields query lamps ≤ totalIn exactFields query guitars ∧
      MatchesIn (3 / 10) exactFields query guitars ∧
      ∃ least most, score .standard categoryFields lamps query = some least ∧
        score .standard categoryFields guitars query = some most ∧ least ≤ most := by
  intro guitars lamps query exactFields
  obtain ⟨hexact, hdoubles⟩ := closer_ranks_at_or_above ℚ "Vintage Guitar" guitars lamps
  have hexactFields : (∀ field ∈ exactFields, 0 ≤ field.2) ∧
      CloserIn exactFields query guitars lamps ∧ MatchesIn (3 / 10) exactFields query lamps := by
    decide +kernel
  have hcategoryFields : (∀ field ∈ categoryFields, field.weight.isFinite = true) ∧
      CloserIn (inDoubles categoryFields) query guitars lamps ∧
      (score .standard categoryFields lamps query).isSome = true := by
    decide +kernel
  obtain ⟨hweights, hcloser, hmatches⟩ := hexactFields
  obtain ⟨hfinite, hcloserDoubles, hscore⟩ := hcategoryFields
  obtain ⟨least, hleast⟩ := Option.isSome_iff_exists.mp hscore
  obtain ⟨-, htotal, hcarried⟩ := hexact (3 / 10) exactFields hweights hcloser
  obtain ⟨most, hmost, hle⟩ :=
    (hdoubles .standard categoryFields).2 hfinite hcloserDoubles least hleast
  exact ⟨htotal, hcarried hmatches, least, most, hleast, hmost, hle⟩

end Ranking
end Noticeboard
