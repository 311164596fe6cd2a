import Mathlib.Data.List.TakeWhile
import Noticeboard.Proofs.Run

/-!
# Integrity of the tables

The keys and references are watched over by the tables themselves.  That names are normalized, that
titles and comments are not blank and that prices are not negative is up to the checks of the store,
which every way to write such a value has to pass.  A patch is checked with the values it leaves in
place.  Both together hold after every run from empty tables.
-/

namespace Noticeboard

open Store

variable {τ : Type}

/-! ## What the checks let through -/

theorem trim_isEmpty_iff (text : String) :
    (Text.trim text).isEmpty = true ↔ Text.isBlankText text = true := by
  have hstart : Text.trimStart text.toList = [] ↔ Text.isBlankText text = true := by
    simp [Text.trimStart, Text.isBlankText, List.dropWhile_eq_nil_iff]
  rw [← hstart, Text.trim, String.isEmpty_iff, String.ofList_eq_empty_iff]
  constructor
  · intro hnone
    -- what is left begins with a character that is not blank, which no trimming at the end removes
    by_contra hsome
    have hhead := List.head_dropWhile_not Text.isBlank hsome
    have hblank : ∀ c ∈ (Text.trimStart text.toList).reverse, Text.isBlank c = true := by
      simpa [Text.trimEnd, List.dropWhile_eq_nil_iff] using hnone
    have hfirst := hblank _ (List.mem_reverse.mpr (List.head_mem hsome))
    exact absurd (hhead.symm.trans hfirst) Bool.false_ne_true
  · intro hnone
    rw [hnone]
    rfl

theorem checkAdvertisement_eq_ok_iff {title : String} {priceCents : Int64} :
    checkAdvertisement title priceCents = .ok () ↔
      Text.isBlankText title = false ∧ 0 ≤ priceCents := by
  have hblank := trim_isEmpty_iff title
  unfold checkAdvertisement
  cases htitle : Text.isBlankText title with
  | true => simp [hblank.mpr htitle]
  | false =>
      have htrim : (Text.trim title).isEmpty = false := by simpa [htitle] using hblank
      simp [htrim]

theorem checkComment_eq_ok_iff {content : String} :
    checkComment content = .ok () ↔ Text.isBlankText content = false := by
  have hblank := trim_isEmpty_iff content
  unfold checkComment
  cases hcontent : Text.isBlankText content with
  | true => simp [hblank.mpr hcontent]
  | false =>
      have htrim : (Text.trim content).isEmpty = false := by simpa [hcontent] using hblank
      simp [htrim]

theorem ne_empty_of_normalize {given name : String} (h : normalizeCategoryName given = .ok name) :
    name ≠ "" := by
  unfold normalizeCategoryName at h
  generalize Text.lower (Text.trim given) = normalized at h
  rintro rfl
  cases hempty : normalized.isEmpty with
  | true => simp [hempty] at h
  | false =>
      simp only [hempty, Bool.false_eq_true, if_false, Except.ok.injEq] at h
      simp [h] at hempty

namespace Store

variable {session : Session τ} {db after : Database τ}

/-- Every value in the tables has passed the check that is made when it is written. -/
structure Database.Checked (db : Database τ) : Prop where
  categories : ∀ row ∈ db.categories, ∃ given, normalizeCategoryName given = .ok row.name
  advertisements : ∀ row ∈ db.advertisements,
    checkAdvertisement row.title row.priceCents = .ok ()
  comments : ∀ row ∈ db.comments, checkComment row.content = .ok ()

namespace Database.Checked

theorem empty : (Database.empty : Database τ).Checked := by
  constructor <;> simp [Database.empty]

theorem changeCategory (h : db.Checked) {id name : String}
    {change : CategoryRow τ → CategoryRow τ} (hchange : ∀ row, (change row).name = name)
    (hname : (∃ given, normalizeCategoryName given = .ok name) ∨
      ∃ row ∈ db.categories, row.id = id ∧ row.name = name) :
    (Store.changeCategory db id change).Checked :=
  { h with
    categories := fun row hrow => by
      obtain ⟨old, hold, rfl⟩ := List.mem_map.mp hrow
      split
      · rw [hchange]
        rcases hname with hgiven | ⟨kept, hkept, -, rfl⟩
        · exact hgiven
        · exact h.categories kept hkept
      · exact h.categories old hold }

theorem changeAdvertisement (h : db.Checked) (id : String)
    {change : AdvertisementRow τ → AdvertisementRow τ}
    (hcheck : ∀ row ∈ db.advertisements,
      checkAdvertisement (change row).title (change row).priceCents = .ok ()) :
    (Statement.changeAdvertisement db id change).Checked :=
  { h with
    advertisements := fun row hrow => by
      obtain ⟨old, hold, rfl⟩ := List.mem_map.mp hrow
      split
      · exact hcheck old hold
      · exact h.advertisements old hold }

theorem setScore (h : db.Checked) (id : String) (score : Score) :
    (Store.setScore db id score).Checked :=
  h.changeAdvertisement id h.advertisements

theorem dropAdvertisements (h : db.Checked) (gone : String → Bool) :
    (db.dropAdvertisements gone).Checked where
  categories := h.categories
  advertisements row hrow := h.advertisements row (List.mem_filter.mp hrow).1
  comments row hrow := h.comments row (List.mem_filter.mp hrow).1

theorem dropCategory (h : db.Checked) (id : String) : (db.dropCategory id).Checked :=
  { h.dropAdvertisements (db.isIn id) with
    categories := fun row hrow => h.categories row (List.mem_filter.mp hrow).1 }

theorem revision (h : db.Checked) (hrevision : Revision session db after) : after.Checked := by
  cases hrevision with
  | addCategory hid hname =>
      exact { h with
        categories :=
          List.forall_mem_append.mpr ⟨h.categories, List.forall_mem_singleton.mpr ⟨_, hname⟩⟩ }
  | changeCategory hname => exact h.changeCategory (fun _ => rfl) hname
  | dropCategory id => exact h.dropCategory id
  | addAdvertisement hid hcheck =>
      exact { h with
        advertisements :=
          List.forall_mem_append.mpr ⟨h.advertisements, List.forall_mem_singleton.mpr hcheck⟩ }
  | changeAdvertisement hcheck => exact h.changeAdvertisement _ fun _ _ => hcheck
  | setActive id active => exact h.changeAdvertisement id h.advertisements
  | dropAdvertisement id => exact h.dropAdvertisements _
  | addModerator => exact { h with }

theorem engagement (h : db.Checked) (hengagement : Engagement session db after) :
    after.Checked := by
  cases hengagement with
  | @addComment row advertisement score hid hcontent =>
      have hadded : ({ db with comments := db.comments ++ [row] } : Database τ).Checked :=
        { h with
          comments :=
            List.forall_mem_append.mpr ⟨h.comments, List.forall_mem_singleton.mpr hcontent⟩ }
      exact hadded.setScore _ _
  | @removeComment id =>
      have hrest : ({ db with comments := db.comments.filter fun row => row.id != id } :
          Database τ).Checked :=
        { h with comments := fun row hrow => h.comments row (List.mem_filter.mp hrow).1 }
      exact hrest.setScore _ _
  | @react kind row =>
      have hadded : (db.addReaction kind row).Checked := by
        cases kind <;> exact { h with }
      exact hadded.setScore _ _

theorem changed (h : db.Checked) (hchanged : Changed session db after) : after.Checked :=
  hchanged.keeps (fun hmid => hmid.revision) (fun hdb => hdb.engagement) h

end Database.Checked

/-! ## Intact tables -/

/-- What users of the tables may rely on, row by row. -/
structure Database.Intact (db : Database τ) : Prop where
  categoryOfAdvertisement : ∀ row ∈ db.advertisements,
    ∃ category ∈ db.categories, category.id = row.categoryId
  advertisementOfModerator : ∀ row ∈ db.moderators,
    ∃ advertisement ∈ db.advertisements, advertisement.id = row.advertisementId
  advertisementOfComment : ∀ row ∈ db.comments,
    ∃ advertisement ∈ db.advertisements, advertisement.id = row.advertisementId
  advertisementOfLike : ∀ row ∈ db.likes,
    ∃ advertisement ∈ db.advertisements, advertisement.id = row.advertisementId
  advertisementOfSave : ∀ row ∈ db.saves,
    ∃ advertisement ∈ db.advertisements, advertisement.id = row.advertisementId
  namesDiffer : (db.categories.map CategoryRow.name).Nodup
  nameGiven : ∀ row ∈ db.categories, row.name ≠ ""
  nameNormalized : ∀ row ∈ db.categories, ∃ given, normalizeCategoryName given = .ok row.name
  likedOnce : ∀ userId id,
    (db.likes.countP fun row => row.userId == userId && row.advertisementId == id) ≤ 1
  savedOnce : ∀ userId id,
    (db.saves.countP fun row => row.userId == userId && row.advertisementId == id) ≤ 1
  moderatorOnce : ∀ id userId,
    (db.moderators.countP fun row => row.advertisementId == id && row.userId == userId) ≤ 1
  titleGiven : ∀ row ∈ db.advertisements, Text.isBlankText row.title = false
  priceNotNegative : ∀ row ∈ db.advertisements, 0 ≤ row.priceCents.toInt
  contentGiven : ∀ row ∈ db.comments, Text.isBlankText row.content = false

/-- A pair of keys that no two rows share is that of one row at most. -/
theorem countP_pair_le_one {α : Type} {first second : α → String} {l : List α}
    (h : (l.map fun a => (first a, second a)).Nodup) (x y : String) :
    (l.countP fun a => first a == x && second a == y) ≤ 1 := by
  have hcount := List.nodup_iff_count_le_one.mp h (x, y)
  rw [List.count_eq_countP, List.countP_map] at hcount
  exact hcount

theorem Database.Consistent.intact (h : db.Consistent) (hchecked : db.Checked) : db.Intact where
  categoryOfAdvertisement row hrow := hasCategory_iff.mp (h.advertisementReferences row hrow)
  advertisementOfModerator row hrow := hasAdvertisement_iff.mp (h.moderatorReferences row hrow)
  advertisementOfComment row hrow := hasAdvertisement_iff.mp (h.commentReferences row hrow)
  advertisementOfLike row hrow := hasAdvertisement_iff.mp (h.reactionReferences .like row hrow)
  advertisementOfSave row hrow := hasAdvertisement_iff.mp (h.reactionReferences .save row hrow)
  namesDiffer := h.categoryNames
  nameGiven row hrow := by
    obtain ⟨given, hgiven⟩ := hchecked.categories row hrow
    exact ne_empty_of_normalize hgiven
  nameNormalized := hchecked.categories
  likedOnce := countP_pair_le_one (h.reactionKeys .like)
  savedOnce := countP_pair_le_one (h.reactionKeys .save)
  moderatorOnce := by
    apply countP_pair_le_one
    apply h.moderatorKeys.map
    rintro ⟨a, u⟩ ⟨b, v⟩ hsame
    obtain ⟨rfl, rfl⟩ := Prod.mk.inj hsame
    rfl
  titleGiven row hrow := (checkAdvertisement_eq_ok_iff.mp (hchecked.advertisements row hrow)).1
  priceNotNegative row hrow :=
    Int64.le_iff_toInt_le.mp (checkAdvertisement_eq_ok_iff.mp (hchecked.advertisements row hrow)).2
  contentGiven row hrow := checkComment_eq_ok_iff.mp (hchecked.comments row hrow)

end Store

theorem Board.run_checked {board : Board τ} {start : Database τ} (hstart : start.Checked)
    (turns : List Turn) : (board.run start turns).Checked :=
  run_keeps hstart fun _ _ _ _ h hchanged => h.changed hchanged

/-- Whatever is called, and whether it succeeds or not, a board that began with empty tables has
intact ones. -/
theorem Board.run_intact (board : Board τ) (turns : List Turn) :
    (board.run .empty turns).Intact := by
  have hchecked : (board.run .empty turns).Checked :=
    run_keeps .empty fun _ _ _ _ h hchanged => h.changed hchanged
  exact (run_consistent .empty turns).intact hchecked

end Noticeboard
