import Mathlib.Data.List.Nodup
import Noticeboard.Proofs.Changes

/-!
# Keys and references

The tables declare keys and references to one another.  The empty tables satisfy these, and so do
the tables after every operation, since each write checks the keys and references it could break
and a deletion takes along what refers to the deleted rows.
-/

namespace Noticeboard.Store

variable {τ : Type} {session : Session τ} {db after : Database τ}

theorem nodup_map_concat {α β : Type} {f : α → β} {l : List α} {a : α} (h : (l.map f).Nodup)
    (hnew : ∀ b ∈ l, f b ≠ f a) : ((l ++ [a]).map f).Nodup := by
  simpa [List.nodup_append, h] using hnew

theorem nodup_map_filter {α β : Type} {f : α → β} {l : List α} {p : α → Bool}
    (h : (l.map f).Nodup) : ((l.filter p).map f).Nodup :=
  h.sublist (List.filter_sublist.map f)

/-! ## What the writes leave -/

theorem hasCategory_iff {id : String} :
    db.hasCategory id = true ↔ ∃ row ∈ db.categories, row.id = id := by
  simp [Database.hasCategory]

theorem hasAdvertisement_iff {id : String} :
    db.hasAdvertisement id = true ↔ ∃ row ∈ db.advertisements, row.id = id := by
  simp [Database.hasAdvertisement]

@[simp] theorem changeCategory_ids (id : String) {change : CategoryRow τ → CategoryRow τ}
    (hchange : ∀ row, (change row).id = row.id) :
    (changeCategory db id change).categories.map CategoryRow.id =
      db.categories.map CategoryRow.id := by
  simp only [changeCategory, List.map_map]
  apply List.map_congr_left
  intro row _
  by_cases hrow : row.id = id <;> simp [hrow, hchange]

@[simp] theorem changeAdvertisement_ids (id : String)
    {change : AdvertisementRow τ → AdvertisementRow τ}
    (hchange : ∀ row, (change row).id = row.id) :
    (Statement.changeAdvertisement db id change).advertisements.map AdvertisementRow.id =
      db.advertisements.map AdvertisementRow.id := by
  simp only [Statement.changeAdvertisement, List.map_map]
  apply List.map_congr_left
  intro row _
  by_cases hrow : row.id = id <;> simp [hrow, hchange]

@[simp] theorem hasCategory_changeCategory (id other : String)
    {change : CategoryRow τ → CategoryRow τ} (hchange : ∀ row, (change row).id = row.id) :
    (changeCategory db id change).hasCategory other = db.hasCategory other := by
  rw [Bool.eq_iff_iff, hasCategory_iff, hasCategory_iff, ← List.mem_map, ← List.mem_map,
    changeCategory_ids id hchange]

@[simp] theorem reactions_addReaction_self (kind : ReactionKind) (row : ReactionRow τ) :
    (db.addReaction kind row).reactions kind = db.reactions kind ++ [row] := by
  cases kind <;> rfl

theorem reactions_addReaction_of_ne {kind other : ReactionKind} (hkind : other ≠ kind)
    (row : ReactionRow τ) : (db.addReaction kind row).reactions other = db.reactions other := by
  cases kind <;> cases other <;> first | rfl | contradiction

@[simp] theorem reactions_dropAdvertisements (gone : String → Bool) (kind : ReactionKind) :
    (db.dropAdvertisements gone).reactions kind =
      (db.reactions kind).filter fun row => !gone row.advertisementId := by
  cases kind <;> rfl

theorem hasAdvertisement_dropAdvertisements {gone : String → Bool} {id : String}
    (hkept : gone id = false) (hpresent : db.hasAdvertisement id = true) :
    (db.dropAdvertisements gone).hasAdvertisement id = true := by
  obtain ⟨row, hrow, rfl⟩ := hasAdvertisement_iff.mp hpresent
  apply hasAdvertisement_iff.mpr
  exact ⟨row, List.mem_filter.mpr ⟨hrow, by simp [hkept]⟩, rfl⟩

theorem hasAdvertisement_of_find {id : String} {row : AdvertisementRow τ}
    (hrow : db.advertisement? id = some row) : db.hasAdvertisement id = true := by
  apply hasAdvertisement_iff.mpr
  exact ⟨row, List.mem_of_find?_eq_some hrow, key_eq_of_find? hrow⟩

theorem advertisement?_of_hasAdvertisement {id : String} (h : db.hasAdvertisement id = true) :
    ∃ row, db.advertisement? id = some row := by
  apply Option.isSome_iff_exists.mp
  simpa [Database.advertisement?, List.find?_isSome] using hasAdvertisement_iff.mp h

theorem category?_of_hasCategory {id : String} (h : db.hasCategory id = true) :
    ∃ row, db.category? id = some row := by
  apply Option.isSome_iff_exists.mp
  simpa [Database.category?, List.find?_isSome] using hasCategory_iff.mp h

theorem isIn_of_mem {row : AdvertisementRow τ} (hrow : row ∈ db.advertisements) :
    db.isIn row.categoryId row.id = true := by
  simp only [Database.isIn, List.any_eq_true]
  exact ⟨row, hrow, by simp⟩

/-! ## Where advertisements come from -/

theorem hasAdvertisement_of_dropAdvertisements {gone : String → Bool} {id : String}
    (h : (db.dropAdvertisements gone).hasAdvertisement id = true) :
    db.hasAdvertisement id = true := by
  obtain ⟨row, hrow, rfl⟩ := hasAdvertisement_iff.mp h
  exact hasAdvertisement_iff.mpr ⟨row, (List.mem_filter.mp hrow).1, rfl⟩

theorem Revision.hasAdvertisement {id : String} (h : Revision session db after)
    (hafter : after.hasAdvertisement id = true) :
    db.hasAdvertisement id = true ∨ id = session.ids.advertisement := by
  cases h with
  | addCategory => exact .inl hafter
  | changeCategory => exact .inl hafter
  | dropCategory => exact .inl (hasAdvertisement_of_dropAdvertisements hafter)
  | addAdvertisement hid =>
      simp only [Database.hasAdvertisement, List.any_append, List.any_cons, List.any_nil,
        Bool.or_false, Bool.or_eq_true, beq_iff_eq] at hafter ⊢
      exact hafter.imp_right fun hnew => hnew.symm.trans hid
  | changeAdvertisement => exact .inl (by simpa using hafter)
  | setActive => exact .inl (by simpa using hafter)
  | dropAdvertisement => exact .inl (hasAdvertisement_of_dropAdvertisements hafter)
  | addModerator => exact .inl hafter

theorem Engagement.hasAdvertisement {id : String} (h : Engagement session db after) :
    after.hasAdvertisement id = db.hasAdvertisement id := by
  cases h with
  | addComment => exact hasAdvertisement_changeAdvertisement _ _ _ _ fun _ => rfl
  | removeComment => exact hasAdvertisement_changeAdvertisement _ _ _ _ fun _ => rfl
  | react => simp [setScore]

/-- An advertisement that was not there before has the id that the session had for it. -/
theorem Changed.hasAdvertisement {id : String} (h : Changed session db after)
    (hafter : after.hasAdvertisement id = true) :
    db.hasAdvertisement id = true ∨ id = session.ids.advertisement := by
  rcases h with hrevisions | hlast
  · induction hrevisions with
    | refl => exact .inl hafter
    | tail _ hlast ih => exact (hlast.hasAdvertisement hafter).elim ih .inr
  · exact .inl (hlast.hasAdvertisement ▸ hafter)

/-! ## Consistent tables -/

/-- The keys and references that the tables declare. -/
structure Database.Consistent (db : Database τ) : Prop where
  categoryIds : (db.categories.map CategoryRow.id).Nodup
  categoryNames : (db.categories.map CategoryRow.name).Nodup
  advertisementIds : (db.advertisements.map AdvertisementRow.id).Nodup
  moderatorKeys : db.moderators.Nodup
  commentIds : (db.comments.map CommentRow.id).Nodup
  reactionIds : ∀ kind, ((db.reactions kind).map ReactionRow.id).Nodup
  reactionKeys : ∀ kind,
    ((db.reactions kind).map fun row => (row.userId, row.advertisementId)).Nodup
  advertisementReferences : ∀ row ∈ db.advertisements, db.hasCategory row.categoryId = true
  moderatorReferences : ∀ row ∈ db.moderators, db.hasAdvertisement row.advertisementId = true
  commentReferences : ∀ row ∈ db.comments, db.hasAdvertisement row.advertisementId = true
  reactionReferences : ∀ kind, ∀ row ∈ db.reactions kind,
    db.hasAdvertisement row.advertisementId = true

namespace Database.Consistent

theorem empty : (Database.empty : Database τ).Consistent := by
  have hnone (kind : ReactionKind) : (Database.empty : Database τ).reactions kind = [] := by
    cases kind <;> rfl
  constructor
  case reactionIds | reactionKeys | reactionReferences => simp [hnone]
  all_goals simp [Database.empty]

theorem addCategory (h : db.Consistent) {row : CategoryRow τ}
    (hnew : db.hasCategory row.id = false)
    (hfree : ∀ other ∈ db.categories, other.name ≠ row.name) :
    ({ db with categories := db.categories ++ [row] } : Database τ).Consistent :=
  { h with
    categoryIds := nodup_map_concat h.categoryIds (by simpa [Database.hasCategory] using hnew)
    categoryNames := nodup_map_concat h.categoryNames hfree
    advertisementReferences := fun other hother => by
      have hpresent := h.advertisementReferences other hother
      simp only [Database.hasCategory, List.any_append, Bool.or_eq_true] at hpresent ⊢
      exact .inl hpresent }

theorem changeCategory (h : db.Consistent) {id name : String}
    {change : CategoryRow τ → CategoryRow τ} (hchange : ∀ row, (change row).id = row.id)
    (hname : ∀ row, (change row).name = name)
    (hfree : ∀ other ∈ db.categories, other.name = name → other.id = id) :
    (Store.changeCategory db id change).Consistent :=
  { h with
    categoryIds := by simpa [hchange] using h.categoryIds
    categoryNames := by
      simp only [Store.changeCategory, List.map_map, List.nodup_iff_pairwise_ne,
        List.pairwise_map]
      have hnames := List.pairwise_map.mp h.categoryNames
      have hids := List.pairwise_map.mp h.categoryIds
      refine (hnames.and hids).imp_of_mem ?_
      rintro a b ha hb ⟨hnames, hids⟩
      by_cases haid : a.id = id <;> by_cases hbid : b.id = id
      · exact absurd (haid.trans hbid.symm) hids
      · simpa [haid, hbid, hname] using fun heq => hbid (hfree b hb heq.symm)
      · simpa [haid, hbid, hname] using fun heq => haid (hfree a ha heq)
      · simpa [haid, hbid] using hnames
    advertisementReferences := fun other hother => by
      simpa [hchange] using h.advertisementReferences other hother }

theorem addAdvertisement (h : db.Consistent) {row : AdvertisementRow τ}
    (hnew : db.hasAdvertisement row.id = false)
    (hcategory : db.hasCategory row.categoryId = true) :
    ({ db with advertisements := db.advertisements ++ [row] } : Database τ).Consistent :=
  have hkept {id : String} (hpresent : db.hasAdvertisement id = true) :
      ({ db with advertisements := db.advertisements ++ [row] } :
        Database τ).hasAdvertisement id = true := by
    simp only [Database.hasAdvertisement, List.any_append, Bool.or_eq_true] at hpresent ⊢
    exact .inl hpresent
  { h with
    advertisementIds :=
      nodup_map_concat h.advertisementIds (by simpa [Database.hasAdvertisement] using hnew)
    advertisementReferences := fun other hother => by
      rcases List.mem_append.mp hother with hold | hrow
      · exact h.advertisementReferences other hold
      · simp only [List.mem_singleton] at hrow
        subst hrow
        exact hcategory
    moderatorReferences := fun other hother => hkept (h.moderatorReferences other hother)
    commentReferences := fun other hother => hkept (h.commentReferences other hother)
    reactionReferences := fun kind other hother =>
      hkept (h.reactionReferences kind other hother) }

theorem changeAdvertisement (h : db.Consistent) (id : String)
    {change : AdvertisementRow τ → AdvertisementRow τ}
    (hchange : ∀ row, (change row).id = row.id)
    (hcategory : ∀ row ∈ db.advertisements, db.hasCategory (change row).categoryId = true) :
    (Statement.changeAdvertisement db id change).Consistent :=
  { h with
    advertisementIds := by simpa [hchange] using h.advertisementIds
    advertisementReferences := fun other hother => by
      obtain ⟨row, hrow, rfl⟩ := List.mem_map.mp hother
      split
      · exact hcategory row hrow
      · exact h.advertisementReferences row hrow
    moderatorReferences := fun other hother => by
      simpa [hchange] using h.moderatorReferences other hother
    commentReferences := fun other hother => by
      simpa [hchange] using h.commentReferences other hother
    reactionReferences := fun kind other hother => by
      simpa [hchange] using h.reactionReferences kind other hother }

theorem setScore (h : db.Consistent) (id : String) (score : Score) :
    (Store.setScore db id score).Consistent :=
  h.changeAdvertisement id (fun _ => rfl) h.advertisementReferences

theorem dropAdvertisements (h : db.Consistent) (gone : String → Bool) :
    (db.dropAdvertisements gone).Consistent where
  categoryIds := h.categoryIds
  categoryNames := h.categoryNames
  advertisementIds := nodup_map_filter h.advertisementIds
  moderatorKeys := h.moderatorKeys.filter _
  commentIds := nodup_map_filter h.commentIds
  reactionIds kind := by
    rw [reactions_dropAdvertisements]
    exact nodup_map_filter (h.reactionIds kind)
  reactionKeys kind := by
    rw [reactions_dropAdvertisements]
    exact nodup_map_filter (h.reactionKeys kind)
  advertisementReferences row hrow := h.advertisementReferences row (List.mem_filter.mp hrow).1
  moderatorReferences row hrow := by
    obtain ⟨hold, hkept⟩ := List.mem_filter.mp hrow
    exact hasAdvertisement_dropAdvertisements (by simpa using hkept)
      (h.moderatorReferences row hold)
  commentReferences row hrow := by
    obtain ⟨hold, hkept⟩ := List.mem_filter.mp hrow
    exact hasAdvertisement_dropAdvertisements (by simpa using hkept) (h.commentReferences row hold)
  reactionReferences kind row hrow := by
    rw [reactions_dropAdvertisements] at hrow
    obtain ⟨hold, hkept⟩ := List.mem_filter.mp hrow
    exact hasAdvertisement_dropAdvertisements (by simpa using hkept)
      (h.reactionReferences kind row hold)

theorem dropCategory (h : db.Consistent) (id : String) : (db.dropCategory id).Consistent :=
  have hrest := h.dropAdvertisements (db.isIn id)
  { hrest with
    categoryIds := nodup_map_filter hrest.categoryIds
    categoryNames := nodup_map_filter hrest.categoryNames
    advertisementReferences := fun row hrow => by
      obtain ⟨hold, hkept⟩ := List.mem_filter.mp hrow
      obtain ⟨category, hcategory, hid⟩ :=
        hasCategory_iff.mp (h.advertisementReferences row hold)
      apply hasCategory_iff.mpr
      refine ⟨category, List.mem_filter.mpr ⟨hcategory, ?_⟩, hid⟩
      simp only [bne_iff_ne, ne_eq]
      rintro rfl
      rw [hid, isIn_of_mem hold] at hkept
      contradiction }

theorem addModerator (h : db.Consistent) {row : ModeratorRow} (hnew : row ∉ db.moderators)
    (hadvertisement : db.hasAdvertisement row.advertisementId = true) :
    ({ db with moderators := db.moderators ++ [row] } : Database τ).Consistent :=
  { h with
    moderatorKeys := by simpa using h.moderatorKeys.concat hnew
    moderatorReferences :=
      List.forall_mem_append.mpr ⟨h.moderatorReferences, List.forall_mem_singleton.mpr hadvertisement⟩ }

theorem addComment (h : db.Consistent) {row : CommentRow τ}
    (hnew : ∀ other ∈ db.comments, other.id ≠ row.id)
    (hadvertisement : db.hasAdvertisement row.advertisementId = true) :
    ({ db with comments := db.comments ++ [row] } : Database τ).Consistent :=
  { h with
    commentIds := nodup_map_concat h.commentIds hnew
    commentReferences :=
      List.forall_mem_append.mpr
        ⟨h.commentReferences, List.forall_mem_singleton.mpr hadvertisement⟩ }

theorem removeComment (h : db.Consistent) (id : String) :
    ({ db with comments := db.comments.filter fun row => row.id != id } :
      Database τ).Consistent :=
  { h with
    commentIds := nodup_map_filter h.commentIds
    commentReferences := fun row hrow => h.commentReferences row (List.mem_filter.mp hrow).1 }

theorem addReaction (h : db.Consistent) {kind : ReactionKind} {row : ReactionRow τ}
    (hnew : ∀ other ∈ db.reactions kind, other.id ≠ row.id)
    (honce : ∀ other ∈ db.reactions kind,
      other.userId = row.userId → other.advertisementId ≠ row.advertisementId)
    (hadvertisement : db.hasAdvertisement row.advertisementId = true) :
    (db.addReaction kind row).Consistent := by
  have hids (other : ReactionKind) :
      (((db.addReaction kind row).reactions other).map ReactionRow.id).Nodup := by
    by_cases hkind : other = kind
    · subst other
      rw [reactions_addReaction_self]
      exact nodup_map_concat (h.reactionIds kind) hnew
    · rw [reactions_addReaction_of_ne hkind]
      exact h.reactionIds other
  have hkeys (other : ReactionKind) :
      (((db.addReaction kind row).reactions other).map fun row =>
        (row.userId, row.advertisementId)).Nodup := by
    by_cases hkind : other = kind
    · subst other
      rw [reactions_addReaction_self]
      refine nodup_map_concat (h.reactionKeys kind) fun earlier hearlier heq => ?_
      simp only [Prod.mk.injEq] at heq
      exact honce earlier hearlier heq.1 heq.2
    · rw [reactions_addReaction_of_ne hkind]
      exact h.reactionKeys other
  have hreferences (other : ReactionKind) (added : ReactionRow τ)
      (hadded : added ∈ (db.addReaction kind row).reactions other) :
      (db.addReaction kind row).hasAdvertisement added.advertisementId = true := by
    rw [hasAdvertisement_addReaction]
    by_cases hkind : other = kind
    · subst other
      rw [reactions_addReaction_self] at hadded
      rcases List.mem_append.mp hadded with hold | hnow
      · exact h.reactionReferences kind added hold
      · rw [List.mem_singleton.mp hnow]
        exact hadvertisement
    · rw [reactions_addReaction_of_ne hkind] at hadded
      exact h.reactionReferences other added hadded
  cases kind <;>
    exact { h with reactionIds := hids, reactionKeys := hkeys, reactionReferences := hreferences }

theorem revision (h : db.Consistent) (hrevision : Revision session db after) :
    after.Consistent := by
  cases hrevision with
  | addCategory hid hname hcreated hupdated hnew hfree => exact h.addCategory hnew hfree
  | changeCategory hname hfree =>
      exact h.changeCategory (fun _ => rfl) (fun _ => rfl) hfree
  | dropCategory id => exact h.dropCategory id
  | addAdvertisement hid hcheck hscore hactive hcreated hupdated hnew hcategory =>
      exact h.addAdvertisement hnew hcategory
  | changeAdvertisement hcheck hcategory =>
      exact h.changeAdvertisement _ (fun _ => rfl) fun _ _ => hcategory
  | setActive id active =>
      exact h.changeAdvertisement id (fun _ => rfl) h.advertisementReferences
  | dropAdvertisement id => exact h.dropAdvertisements _
  | addModerator hnew hadvertisement => exact h.addModerator hnew hadvertisement

theorem engagement (h : db.Consistent) (hengagement : Engagement session db after) :
    after.Consistent := by
  cases hengagement with
  | addComment hid hcontent hcreated hnew hadvertisement hscore =>
      exact (h.addComment hnew (hasAdvertisement_of_find hadvertisement)).setScore _ _
  | removeComment hrow hadvertisement hscore => exact (h.removeComment _).setScore _ _
  | react hid hnew honce hadvertisement hscore =>
      exact (h.addReaction hnew honce (hasAdvertisement_of_find hadvertisement)).setScore _ _

theorem changed (h : db.Consistent) (hchanged : Changed session db after) :
    after.Consistent :=
  hchanged.keeps (fun hmid => hmid.revision) (fun hdb => hdb.engagement) h

end Database.Consistent

/-- Ids are unique, so the row of an id is the one that is found by it. -/
theorem advertisement?_of_mem {row : AdvertisementRow τ} (h : db.Consistent)
    (hrow : row ∈ db.advertisements) : db.advertisement? row.id = some row := by
  obtain ⟨found, hfound⟩ :=
    advertisement?_of_hasAdvertisement (hasAdvertisement_iff.mpr ⟨row, hrow, rfl⟩)
  have hid : found.id = row.id := key_eq_of_find? hfound
  rw [hfound, List.inj_on_of_nodup_map h.advertisementIds (List.mem_of_find?_eq_some hfound)
    hrow hid]

end Noticeboard.Store
