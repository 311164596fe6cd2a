import Mathlib.Algebra.Order.Field.Basic
import Mathlib.Data.Finset.Card
import Mathlib.Data.Rat.Defs
import Noticeboard.Proofs.OwnTrigrams

/-!
# Similarity of sets

A trigram set lists its members by their keys.  Since no two trigrams have the same key, it is a
finite set of trigrams, counted by its size, and there is one list for each finite set.  What two
sets share is the size of their intersection, whichever of them is looked up in the other, and what
they have together is the size of their union, although that is never built.  So the similarity is
that of Jaccard, in doubles as in exact numbers.
-/

namespace Noticeboard

/-! ## Keys -/

theorem Text.toNat_lt_keyBase (c : Char) : c.toNat < 2097152 := by
  have hvalid : c.toNat.isValidChar := c.valid
  unfold Nat.isValidChar at hvalid
  omega

theorem Trigram.key_injective : Function.Injective Trigram.key := by
  rintro ⟨first, second, third⟩ ⟨first', second', third'⟩ hkey
  have hsecond := Text.toNat_lt_keyBase second
  have hsecond' := Text.toNat_lt_keyBase second'
  have hthird := Text.toNat_lt_keyBase third
  have hthird' := Text.toNat_lt_keyBase third'
  simp only [Trigram.key] at hkey
  -- the three codes are the digits of the key
  have hcodes : first.toNat = first'.toNat ∧ second.toNat = second'.toNat ∧
      third.toNat = third'.toNat := by omega
  simpa [Char.toNat_inj] using hcodes

namespace TrigramSet

/-! ## Finite sets -/

/-- The members, without their order. -/
def toFinset (set : TrigramSet) : Finset Trigram :=
  set.members.toFinset

variable {a b : TrigramSet} {g x : Trigram}

theorem mem_toFinset : x ∈ a.toFinset ↔ x ∈ a.members :=
  List.mem_toFinset

theorem contains_iff : a.contains x = true ↔ x ∈ a.toFinset := by
  rw [contains, List.contains_iff_mem, mem_toFinset]

theorem isEmpty_iff : a.isEmpty = true ↔ a.toFinset = ∅ := by
  rw [isEmpty, List.isEmpty_iff, toFinset, List.toFinset_eq_empty_iff]

theorem isEmpty_eq_false_iff : a.isEmpty = false ↔ a.toFinset.Nonempty := by
  rw [← Bool.not_eq_true, isEmpty_iff, Finset.nonempty_iff_ne_empty]

theorem nodup_members (a : TrigramSet) : a.members.Nodup :=
  a.ascending.imp fun hlt => by
    rintro rfl
    exact Nat.lt_irrefl _ hlt

theorem card_toFinset (a : TrigramSet) : a.toFinset.card = a.size :=
  List.toFinset_card_of_nodup a.nodup_members

theorem toFinset_injective : Function.Injective toFinset := by
  rintro ⟨members, hmembers⟩ ⟨members', hmembers'⟩ hsame
  have hperm : members.Perm members' :=
    List.perm_of_nodup_nodup_toFinset_eq (nodup_members ⟨members, hmembers⟩)
      (nodup_members ⟨members', hmembers'⟩) hsame
  have hlist : members = members' := by
    refine hperm.eq_of_pairwise (fun g g' _ _ hlt hlt' => ?_) hmembers hmembers'
    exact absurd hlt' (Nat.lt_asymm hlt)
  subst hlist
  rfl

theorem mem_place {l : List Trigram} : x ∈ place g l ↔ x = g ∨ x ∈ l := by
  induction l with
  | nil => simp [place]
  | cons head rest ih =>
      unfold place
      split
      · simp
      · split
        · rw [List.mem_cons, ih, List.mem_cons, or_left_comm]
        · have hsame : g = head := Trigram.key_injective (by omega)
          simp [hsame]

theorem toFinset_insert (a : TrigramSet) (g : Trigram) :
    (a.insert g).toFinset = Insert.insert g a.toFinset := by
  ext x
  rw [Finset.mem_insert, mem_toFinset, mem_toFinset]
  exact mem_place

theorem toFinset_foldl (set : TrigramSet) (grams : List Trigram) :
    (grams.foldl insert set).toFinset = set.toFinset ∪ grams.toFinset := by
  induction grams generalizing set with
  | nil => rw [List.foldl_nil, List.toFinset_nil, Finset.union_empty]
  | cons g rest ih =>
      rw [List.foldl_cons, ih, toFinset_insert, List.toFinset_cons, Finset.insert_union,
        Finset.union_insert]

theorem toFinset_ofList (grams : List Trigram) : (ofList grams).toFinset = grams.toFinset := by
  rw [ofList, toFinset_foldl]
  exact Finset.empty_union _

/-! ## Counts -/

theorem countP_contains (a b : TrigramSet) :
    a.members.countP b.contains = (a.toFinset ∩ b.toFinset).card := by
  have hfilter : (a.members.filter b.contains).toFinset = a.toFinset ∩ b.toFinset := by
    ext x
    rw [List.mem_toFinset, List.mem_filter, Finset.mem_inter, contains_iff, ← mem_toFinset]
  rw [List.countP_eq_length_filter, ← hfilter,
    List.toFinset_card_of_nodup (a.nodup_members.filter _)]

/-- It does not matter which of the sets is looked up in the other. -/
theorem shared_eq (a b : TrigramSet) : a.shared b = (a.toFinset ∩ b.toFinset).card := by
  unfold shared
  split
  · exact countP_contains a b
  · rw [countP_contains b a, Finset.inter_comm]

theorem shared_comm (a b : TrigramSet) : a.shared b = b.shared a := by
  rw [shared_eq, shared_eq, Finset.inter_comm]

theorem shared_le (a b : TrigramSet) : a.shared b ≤ a.size + b.size := by
  have hleft : (a.toFinset ∩ b.toFinset).card ≤ a.toFinset.card :=
    Finset.card_le_card Finset.inter_subset_left
  rw [card_toFinset, ← shared_eq] at hleft
  omega

theorem joint_eq (a b : TrigramSet) : a.joint b = (a.toFinset ∪ b.toFinset).card := by
  have hcounts := Finset.card_union_add_card_inter a.toFinset b.toFinset
  rw [card_toFinset, card_toFinset, ← shared_eq] at hcounts
  unfold joint
  omega

theorem joint_comm (a b : TrigramSet) : a.joint b = b.joint a := by
  rw [joint_eq, joint_eq, Finset.union_comm]

theorem shared_le_joint (a b : TrigramSet) : a.shared b ≤ a.joint b := by
  rw [shared_eq, joint_eq]
  exact Finset.card_le_card (Finset.inter_subset_left.trans Finset.subset_union_left)

theorem joint_pos (h : a.isEmpty = false) : 0 < a.joint b := by
  rw [joint_eq, Finset.card_pos]
  exact (isEmpty_eq_false_iff.mp h).mono Finset.subset_union_left

theorem shared_eq_zero_of_isEmpty (h : (a.isEmpty || b.isEmpty) = true) : a.shared b = 0 := by
  rw [shared_eq, Finset.card_eq_zero, ← Finset.disjoint_iff_inter_eq_empty]
  rcases Bool.or_eq_true_iff.mp h with hempty | hempty
  · exact (isEmpty_iff.mp hempty) ▸ Finset.disjoint_empty_left _
  · exact (isEmpty_iff.mp hempty) ▸ Finset.disjoint_empty_right _

/-- All that two sets have together is shared exactly if they are the same. -/
theorem shared_eq_joint_iff : a.shared b = a.joint b ↔ a = b := by
  rw [shared_eq, joint_eq]
  constructor
  · intro hcard
    have hsame : a.toFinset ∩ b.toFinset = a.toFinset ∪ b.toFinset :=
      Finset.eq_of_subset_of_card_le (Finset.inter_subset_left.trans Finset.subset_union_left)
        hcard.ge
    exact toFinset_injective (inf_eq_sup.mp hsame)
  · rintro rfl
    rw [Finset.inter_self, Finset.union_self]

/-! ## Similarity in numbers of any kind -/

/-- The double of a count. -/
instance : NatCast Float :=
  ⟨Float.ofNat⟩

/-- The shared part of all trigrams, in doubles or in exact numbers. -/
def similarityIn (N : Type*) [Zero N] [NatCast N] [Div N] (a b : TrigramSet) : N :=
  if a.isEmpty || b.isEmpty then 0 else (a.shared b : N) / (a.joint b : N)

theorem similarityIn_float (a b : TrigramSet) : a.similarityIn Float b = a.similarity b :=
  rfl

section Symmetry

variable {N : Type*} [Zero N] [NatCast N] [Div N]

theorem similarityIn_comm (a b : TrigramSet) : a.similarityIn N b = b.similarityIn N a := by
  rw [similarityIn, similarityIn, Bool.or_comm, shared_comm, joint_comm]

end Symmetry

section Exact

variable {K : Type*} [Field K] [LinearOrder K] [IsStrictOrderedRing K]

omit [LinearOrder K] [IsStrictOrderedRing K] in
/-- An empty set shares nothing, so that it needs no case of its own. -/
theorem similarityIn_eq (a b : TrigramSet) :
    a.similarityIn K b = (a.shared b : K) / (a.joint b : K) := by
  unfold similarityIn
  split
  · rw [shared_eq_zero_of_isEmpty ‹_›, Nat.cast_zero, zero_div]
  · rfl

theorem similarityIn_nonneg (a b : TrigramSet) : 0 ≤ a.similarityIn K b := by
  rw [similarityIn_eq]
  positivity

theorem similarityIn_le_one (a b : TrigramSet) : a.similarityIn K b ≤ 1 := by
  rw [similarityIn_eq]
  exact div_le_one_of_le₀ (Nat.cast_le.mpr (shared_le_joint a b)) (Nat.cast_nonneg _)

theorem similarityIn_eq_zero_iff :
    a.similarityIn K b = 0 ↔ Disjoint a.toFinset b.toFinset := by
  rw [similarityIn_eq, div_eq_zero_iff, Nat.cast_eq_zero, Nat.cast_eq_zero,
    Finset.disjoint_iff_inter_eq_empty, ← Finset.card_eq_zero, ← shared_eq]
  have hle := shared_le_joint a b
  omega

theorem similarityIn_eq_one_iff :
    a.similarityIn K b = 1 ↔ a = b ∧ a.isEmpty = false := by
  by_cases hempty : a.isEmpty = true
  · simp [similarityIn, hempty]
  · rw [Bool.not_eq_true] at hempty
    have hsome : (a.joint b : K) ≠ 0 := Nat.cast_ne_zero.mpr (joint_pos hempty).ne'
    rw [similarityIn_eq, div_eq_one_iff_eq hsome, Nat.cast_inj, shared_eq_joint_iff]
    simp [hempty]

end Exact

/-! ## Jaccard similarity -/

/-- The similarity of two sets is what their intersection is of their union.  The numbers on the way
to it have 64 bits, and nothing is divided by zero. -/
structure HasJaccard (a b : TrigramSet) : Prop where
  sizes : a.size = a.toFinset.card ∧ b.size = b.toFinset.card ∧ a.size + b.size < 2 ^ 64
  shared : a.shared b = (a.toFinset ∩ b.toFinset).card ∧
    b.shared a = (a.toFinset ∩ b.toFinset).card
  no_underflow : a.shared b ≤ a.size + b.size
  joint : a.joint b = (a.toFinset ∪ b.toFinset).card
  one_le_joint : a.isEmpty = false → b.isEmpty = false → 1 ≤ a.joint b
  doubles : a.similarity b = a.similarityIn Float b
  symmetric : a.similarity b = b.similarity a
  exact : a.similarityIn ℚ b =
    ((a.toFinset ∩ b.toFinset).card : ℚ) / ((a.toFinset ∪ b.toFinset).card : ℚ)
  nonneg : 0 ≤ a.similarityIn ℚ b
  le_one : a.similarityIn ℚ b ≤ 1
  eq_zero_iff : a.similarityIn ℚ b = 0 ↔ Disjoint a.toFinset b.toFinset
  eq_one_iff : a.similarityIn ℚ b = 1 ↔ a = b ∧ a.isEmpty = false

theorem texts_haveJaccard (first second : String) :
    (ofText first).HasJaccard (ofText second) where
  sizes := by
    have hfirst := size_lt (ofText first)
    have hsecond := size_lt (ofText second)
    exact ⟨(card_toFinset _).symm, (card_toFinset _).symm, by omega⟩
  shared := ⟨shared_eq _ _, (shared_comm _ _).trans (shared_eq _ _)⟩
  no_underflow := shared_le _ _
  joint := joint_eq _ _
  one_le_joint := fun hfirst _ => joint_pos hfirst
  doubles := (similarityIn_float _ _).symm
  symmetric := similarityIn_comm (N := Float) _ _
  exact := by rw [similarityIn_eq, shared_eq, joint_eq]
  nonneg := similarityIn_nonneg _ _
  le_one := similarityIn_le_one _ _
  eq_zero_iff := similarityIn_eq_zero_iff
  eq_one_iff := similarityIn_eq_one_iff

example : (ofText "electric").similarityIn ℚ (ofText "electronics") = 2 / 5 := by decide +kernel

end TrigramSet
end Noticeboard
