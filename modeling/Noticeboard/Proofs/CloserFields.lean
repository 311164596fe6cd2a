import Noticeboard.Proofs.WeightedSums

/-!
# Closer fields

A text is closer to a query than another if it shares at least as many trigrams with it and has at
most as many others.  Then it is at least as similar, and a record all of whose fields are closer
scores at least as much and matches if the other does.  This asks of the numbers only that ratios,
products and sums keep the order, which exact numbers do.
-/

namespace Noticeboard

namespace TrigramSet

variable {query near far set : TrigramSet}

/-- One set shares at least as much with a query as another, and has at most as much besides. -/
structure Closer (query near far : TrigramSet) : Prop where
  shares : (far.toFinset ∩ query.toFinset).card ≤ (near.toFinset ∩ query.toFinset).card
  strays : (near.toFinset \ query.toFinset).card ≤ (far.toFinset \ query.toFinset).card

instance (query near far : TrigramSet) : Decidable (Closer query near far) :=
  decidable_of_iff (_ ∧ _) ⟨fun ⟨hshares, hstrays⟩ => ⟨hshares, hstrays⟩,
    fun ⟨hshares, hstrays⟩ => ⟨hshares, hstrays⟩⟩

theorem Closer.shared_le (h : Closer query near far) : query.shared far ≤ query.shared near := by
  rw [shared_comm, shared_eq, shared_comm, shared_eq]
  exact h.shares

/-- What is together with the query is the query, and what strays from it. -/
theorem joint_eq_strays (query set : TrigramSet) :
    query.joint set = (set.toFinset \ query.toFinset).card + query.size := by
  rw [joint_comm, joint_eq, ← Finset.card_sdiff_add_card, card_toFinset]

theorem Closer.joint_le (h : Closer query near far) : query.joint near ≤ query.joint far := by
  rw [joint_eq_strays, joint_eq_strays]
  exact Nat.add_le_add_right h.strays _

section Similarity

variable {N : Type*} [Zero N] [NatCast N] [Div N]

theorem similarityIn_of_shared_ne_zero (hsome : query.shared set ≠ 0) :
    query.similarityIn N set = (query.shared set : N) / (query.joint set : N) :=
  if_neg fun hempty => hsome (shared_eq_zero_of_isEmpty hempty)

/-- If nothing is shared it does not matter whether one of both is empty. -/
theorem similarityIn_of_shared_eq_zero (hnone : query.shared set = 0)
    (hzero : 0 < query.joint set → ((0 : ℕ) : N) / (query.joint set : N) = 0) :
    query.similarityIn N set = 0 := by
  unfold similarityIn
  split
  · rfl
  · rename_i hsome
    rw [Bool.not_eq_true, Bool.or_eq_false_iff] at hsome
    rw [hnone]
    exact hzero (joint_pos hsome.1)

end Similarity

end TrigramSet

/-! ## Numbers that keep the order -/

/-- In these numbers, ratios of counts, products with weights, and sums of amounts are amounts and
keep the order; counts have 64 bits. -/
structure OrderLaws (N : Type*) [Zero N] [NatCast N] [Add N] [Mul N] [Div N] [LE N] [LT N]
    (Amount Weight : N → Prop) : Prop where
  zero : Amount 0
  zero_le : ∀ {a}, Amount a → 0 ≤ a
  le_trans : ∀ {bound a b}, Amount a → Amount b → bound ≤ a → a ≤ b → bound ≤ b
  lt_of_lt_of_le : ∀ {a b}, Amount a → Amount b → 0 < a → a ≤ b → 0 < b
  ratio : ∀ {part whole : ℕ}, part ≤ whole → 0 < whole → whole < 2 ^ 64 →
    Amount ((part : N) / (whole : N))
  ratio_le : ∀ {part whole part' whole' : ℕ}, part ≤ part' → whole' ≤ whole → 0 < whole' →
    part' ≤ whole' → whole < 2 ^ 64 → (part : N) / (whole : N) ≤ (part' : N) / (whole' : N)
  zero_ratio : ∀ {whole : ℕ}, 0 < whole → whole < 2 ^ 64 → ((0 : ℕ) : N) / (whole : N) = 0
  mul : ∀ {w a}, Weight w → Amount a → Amount (w * a)
  mul_le : ∀ {w a b}, Weight w → Amount a → Amount b → a ≤ b → w * a ≤ w * b
  add : ∀ {a b}, Amount a → Amount b → Amount (a + b)
  add_le : ∀ {a b c d}, Amount a → Amount b → Amount c → Amount d → a ≤ c → b ≤ d → a + b ≤ c + d

/-- Exact numbers keep the order. -/
theorem OrderLaws.exact (K : Type*) [Field K] [LinearOrder K] [IsStrictOrderedRing K] :
    OrderLaws K (fun a => 0 ≤ a) (fun w => 0 < w) where
  zero := le_refl 0
  zero_le := id
  le_trans _ _ hbound hab := hbound.trans hab
  lt_of_lt_of_le _ _ hpos hab := hpos.trans_le hab
  ratio _ _ _ := by positivity
  ratio_le hpart hwhole hsome _ _ :=
    div_le_div₀ (Nat.cast_nonneg _) (Nat.cast_le.mpr hpart) (Nat.cast_pos.mpr hsome)
      (Nat.cast_le.mpr hwhole)
  zero_ratio _ _ := by rw [Nat.cast_zero, zero_div]
  mul hw ha := mul_nonneg hw.le ha
  mul_le hw _ _ hab := mul_le_mul_of_nonneg_left hab hw.le
  add := add_nonneg
  add_le _ _ _ _ := add_le_add

namespace OrderLaws

open TrigramSet

variable {N : Type*} [Zero N] [NatCast N] [Add N] [Mul N] [Div N] [LE N] [LT N]
  {Amount Weight : N → Prop}

section Similarity

variable {query near far set : TrigramSet}

theorem similarityIn_amount (laws : OrderLaws N Amount Weight)
    (hset : query.joint set < 2 ^ 64) : Amount (query.similarityIn N set) := by
  by_cases hnone : query.shared set = 0
  · rw [similarityIn_of_shared_eq_zero hnone fun hsome => laws.zero_ratio hsome hset]
    exact laws.zero
  · have hle := shared_le_joint query set
    rw [similarityIn_of_shared_ne_zero hnone]
    exact laws.ratio hle (by omega) hset

theorem similarityIn_le (laws : OrderLaws N Amount Weight) (h : query.Closer near far)
    (hnear : query.joint near < 2 ^ 64) (hfar : query.joint far < 2 ^ 64) :
    query.similarityIn N far ≤ query.similarityIn N near := by
  by_cases hnone : query.shared far = 0
  · rw [similarityIn_of_shared_eq_zero hnone fun hsome => laws.zero_ratio hsome hfar]
    exact laws.zero_le (laws.similarityIn_amount hnear)
  · have hshared := h.shared_le
    have hle := shared_le_joint query near
    rw [similarityIn_of_shared_ne_zero hnone, similarityIn_of_shared_ne_zero (by omega)]
    exact laws.ratio_le hshared h.joint_le (by omega) hle hfar

end Similarity

theorem foldl_amount {α : Type*} {f : α → N} {items : List α} {x : N}
    (laws : OrderLaws N Amount Weight) (hitems : ∀ a ∈ items, Amount (f a)) (hx : Amount x) :
    Amount (items.foldl (fun total a => total + f a) x) := by
  induction items generalizing x with
  | nil => exact hx
  | cons a rest ih =>
      obtain ⟨hf, hrest⟩ := List.forall_mem_cons.mp hitems
      exact ih hrest (laws.add hx hf)

/-- Sums of amounts that are in order step by step are in order. -/
theorem foldl_le {α : Type*} {f g : α → N} {items : List α} {x y : N}
    (laws : OrderLaws N Amount Weight)
    (hitems : ∀ a ∈ items, Amount (f a) ∧ Amount (g a) ∧ f a ≤ g a) (hx : Amount x)
    (hy : Amount y) (hxy : x ≤ y) :
    items.foldl (fun total a => total + f a) x ≤ items.foldl (fun total a => total + g a) y := by
  induction items generalizing x y with
  | nil => exact hxy
  | cons a rest ih =>
      obtain ⟨⟨hf, hg, hfg⟩, hrest⟩ := List.forall_mem_cons.mp hitems
      exact ih hrest (laws.add hx hf) (laws.add hy hg) (laws.add_le hx hf hy hg hxy hfg)

end OrderLaws

/-! ## Closer records -/

namespace Ranking

open TrigramSet

variable {E F : Type} [Searchable E F]

theorem fieldGrams_size_lt (entity : E) (field : F) : (fieldGrams entity field).size < 2 ^ 63 := by
  unfold fieldGrams
  split
  · exact size_lt _
  · exact Nat.two_pow_pos 63

theorem joint_fieldGrams_lt (query : String) (entity : E) (field : F) :
    (ofText query).joint (fieldGrams entity field) < 2 ^ 64 := by
  have hquery := size_lt (ofText query)
  have hfield := fieldGrams_size_lt entity field
  unfold joint
  omega

/-- What counts in a weighted sum. -/
theorem of_mem_counted {N : Type*} [Zero N] [LT N] [DecidableLT N] {fields : List (F × N)}
    {field : F × N} (h : field ∈ fields.filter fun field => 0 < field.2) :
    field ∈ fields ∧ 0 < field.2 :=
  ⟨(List.mem_filter.mp h).1, of_decide_eq_true (List.mem_filter.mp h).2⟩

variable {N : Type*} [Zero N] [NatCast N] [Add N] [Mul N] [Div N] [LE N] [LT N]

/-- In each field of a positive weight, one record is closer to the query than another. -/
def CloserIn (fields : List (F × N)) (query : TrigramSet) (near far : E) : Prop :=
  ∀ field ∈ fields, 0 < field.2 → query.Closer (fieldGrams near field.1) (fieldGrams far field.1)

instance [DecidableLT N] (fields : List (F × N)) (query : TrigramSet) (near far : E) :
    Decidable (CloserIn fields query near far) :=
  inferInstanceAs (Decidable (∀ field ∈ fields, _))

variable {Amount Weight : N → Prop} {fields : List (F × N)} {query : String} {near far : E}
  {threshold : N}

theorem MatchesIn.closer (laws : OrderLaws N Amount Weight)
    (hcloser : CloserIn fields (ofText query) near far)
    (h : MatchesIn threshold fields (ofText query) far) :
    MatchesIn threshold fields (ofText query) near := by
  obtain ⟨field, hmem, hweight, hpositive, henough⟩ := h
  have hnear := joint_fieldGrams_lt query near field.1
  have hfar := joint_fieldGrams_lt query far field.1
  have hle := laws.similarityIn_le (hcloser field hmem hweight) hnear hfar
  have hnearAmount := laws.similarityIn_amount hnear
  have hfarAmount := laws.similarityIn_amount hfar
  exact ⟨field, hmem, hweight, laws.lt_of_lt_of_le hfarAmount hnearAmount hpositive hle,
    laws.le_trans hfarAmount hnearAmount henough hle⟩

theorem partIn_amount (laws : OrderLaws N Amount Weight) {field : F × N} (hweight : Weight field.2)
    (query : String) (entity : E) : Amount (partIn (ofText query) entity field) :=
  laws.mul hweight (laws.similarityIn_amount (joint_fieldGrams_lt query entity field.1))

theorem partIn_le (laws : OrderLaws N Amount Weight) {field : F × N} (hweight : Weight field.2)
    (h : (ofText query).Closer (fieldGrams near field.1) (fieldGrams far field.1)) :
    partIn (ofText query) far field ≤ partIn (ofText query) near field := by
  have hnear := joint_fieldGrams_lt query near field.1
  have hfar := joint_fieldGrams_lt query far field.1
  exact laws.mul_le hweight (laws.similarityIn_amount hfar) (laws.similarityIn_amount hnear)
    (laws.similarityIn_le h hnear hfar)

variable [DecidableLT N]

theorem totalIn_amount (laws : OrderLaws N Amount Weight)
    (hweights : ∀ field ∈ fields, 0 < field.2 → Weight field.2) (query : String) (entity : E) :
    Amount (totalIn fields (ofText query) entity) := by
  refine laws.foldl_amount (fun field hfield => ?_) laws.zero
  obtain ⟨hmem, hpositive⟩ := of_mem_counted hfield
  exact partIn_amount laws (hweights field hmem hpositive) query entity

theorem totalIn_le (laws : OrderLaws N Amount Weight)
    (hweights : ∀ field ∈ fields, 0 < field.2 → Weight field.2)
    (hcloser : CloserIn fields (ofText query) near far) :
    totalIn fields (ofText query) far ≤ totalIn fields (ofText query) near := by
  refine laws.foldl_le (fun field hfield => ?_) laws.zero laws.zero (laws.zero_le laws.zero)
  obtain ⟨hmem, hpositive⟩ := of_mem_counted hfield
  have hweight : Weight field.2 := hweights field hmem hpositive
  exact ⟨partIn_amount laws hweight query far, partIn_amount laws hweight query near,
    partIn_le laws hweight (hcloser field hmem hpositive)⟩

end Ranking
end Noticeboard
