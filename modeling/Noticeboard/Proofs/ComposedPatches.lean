import Noticeboard.Proofs.PatchedRows

/-!
# Patches one after another

Two patches of a record come to one patch, in which the later of them has the last word about every
field it gives.  Whenever both updates succeed, the update with that one patch succeeds as well, and
the tables differ in the time of the last update only.
-/

namespace Noticeboard

open Store

variable {τ : Type}

/-! ## Patches put together -/

/-- The later edit counts, unless it keeps the field. -/
def Edit.andThen {α : Type} (first second : Edit α) : Edit α :=
  match second with
  | .keep => first
  | .clear => .clear
  | .set value => .set value

theorem Edit.apply_andThen {α : Type} (first second : Edit α) (old : Option α) :
    (first.andThen second).apply old = second.apply (first.apply old) := by
  cases second <;> rfl

/-- Each field as the second patch has it, or else as the first one has it. -/
def AdvertisementPatch.andThen (first second : AdvertisementPatch) : AdvertisementPatch where
  title := second.title.or first.title
  description := first.description.andThen second.description
  priceCents := second.priceCents.or first.priceCents
  categoryId := second.categoryId.or first.categoryId

def CategoryPatch.andThen (first second : CategoryPatch) : CategoryPatch where
  name := second.name.or first.name
  description := first.description.andThen second.description

/-- The tables with another time of the last update in one row. -/
def Store.Database.restampedAdvertisement (db : Database τ) (id : String) (stamp : τ) :
    Database τ :=
  Statement.changeAdvertisement db id fun row => { row with updatedAt := stamp }

def Store.Database.restampedCategory (db : Database τ) (id : String) (stamp : τ) : Database τ :=
  changeCategory db id fun row => { row with updatedAt := stamp }

/-! ## Advertisements -/

namespace AdvertisementPatch

variable {first second : AdvertisementPatch} {backend : Backend τ} {db : Database τ} {id : String}
  {row : AdvertisementRow τ}

theorem applied_andThen (early late : τ) (row : AdvertisementRow τ) :
    (first.andThen second).applied late row = second.applied late (first.applied early row) := by
  simp only [applied, andThen, Option.getD_or, Edit.apply_andThen]

theorem Fits.andThen {stamp : τ} (hfirst : first.Fits backend db row)
    (hsecond : second.Fits backend (Statement.changeAdvertisement db id (first.applied stamp))
      (first.applied stamp row)) :
    (first.andThen second).Fits backend db row where
  readable := hfirst.readable
  checked := by
    have hchecked := hsecond.checked
    simpa only [applied, AdvertisementPatch.andThen, Option.getD_or] using hchecked
  placed := by
    intro categoryId hgiven
    -- the categories are the same before and after the first update
    rcases Option.or_eq_some_iff.mp hgiven with hlate | ⟨-, hearly⟩
    · exact hsecond.placed categoryId hlate
    · exact hfirst.placed categoryId hearly

end AdvertisementPatch

section

variable {first second : AdvertisementPatch} {s₁ s₂ s₃ : Session τ} {db : Database τ}
  {id : String}

theorem nodup_patchedAdvertisements (patch : AdvertisementPatch) (stamp : τ)
    (hids : (db.advertisements.map AdvertisementRow.id).Nodup) :
    ((Statement.changeAdvertisement db id (patch.applied stamp)).advertisements.map
      AdvertisementRow.id).Nodup := by
  rw [changeAdvertisement_ids]
  · exact hids
  · exact fun _ => rfl

theorem advertisement?_patched {row : AdvertisementRow τ} (patch : AdvertisementPatch) (stamp : τ)
    (hrow : db.advertisement? id = some row) :
    (Statement.changeAdvertisement db id (patch.applied stamp)).advertisement? id =
      some (patch.applied stamp row) :=
  advertisement?_changed hrow fun _ => rfl

theorem readJoined_restamped {backend : Backend τ} {row : AdvertisementRow τ}
    {shown : Advertisement} {stamp : τ} {read : Time.Instant}
    (hread : readJoined backend db row = some (.ok shown))
    (hstamp : backend.readStamp "updated_at" stamp = .ok read) :
    readJoined backend db { row with updatedAt := stamp } =
      some (.ok { shown with updatedAt := read }) := by
  obtain ⟨category, n, created, updated, hcategory, hscore, hcreated, -, rfl⟩ :=
    readJoined_eq_ok_iff.mp hread
  exact readJoined_eq_ok_iff.mpr
    ⟨category, n, created, read, hcategory, hscore, hcreated, hstamp, rfl⟩

theorem getAdvertisement_restamped {shown : Advertisement} {stamp : τ} {read : Time.Instant}
    {session session' : Session τ} (hbackend : session'.backend = session.backend)
    (hread : (getAdvertisement id session db).answer = .ok shown)
    (hstamp : session.backend.readStamp "updated_at" stamp = .ok read) :
    (getAdvertisement id session' (db.restampedAdvertisement id stamp)).answer =
      .ok { shown with updatedAt := read } := by
  obtain ⟨row, hrow, hjoined⟩ := getAdvertisement_eq_ok_iff.mp hread
  refine getAdvertisement_eq_ok_iff.mpr
    ⟨{ row with updatedAt := stamp }, advertisement?_changed hrow fun _ => rfl, ?_⟩
  rw [hbackend]
  exact readJoined_restamped hjoined hstamp

theorem updateAdvertisement_andThen {mid after : Database τ} {a₁ a₂ : Advertisement}
    (hids : (db.advertisements.map AdvertisementRow.id).Nodup)
    (hbackend : s₂.backend = s₁.backend ∧ s₃.backend = s₁.backend)
    (htimely : s₃.backend.Timely s₃.now)
    (hfirst : (updateAdvertisement id first s₁ db).Yields a₁ mid)
    (hsecond : (updateAdvertisement id second s₂ mid).Yields a₂ after) :
    ∃ answer, (updateAdvertisement id (first.andThen second) s₃ db).Yields answer
        (after.restampedAdvertisement id s₃.stamp) ∧
      { answer with updatedAt := a₂.updatedAt } = a₂ := by
  obtain ⟨row, hrow, hfits₁, rfl, -⟩ := (AdvertisementPatch.update_yields_iff hids).mp hfirst
  obtain ⟨row', hrow', hfits₂, rfl, hanswer⟩ :=
    (AdvertisementPatch.update_yields_iff (nodup_patchedAdvertisements _ _ hids)).mp hsecond
  obtain rfl := Option.some.inj ((advertisement?_patched _ _ hrow).symm.trans hrow')
  obtain ⟨read, hread⟩ := htimely.readStamp "updated_at"
  have hstamp : s₂.backend.readStamp "updated_at" s₃.stamp = .ok read := by
    rwa [hbackend.1, ← hbackend.2]
  refine ⟨{ a₂ with updatedAt := read },
    (AdvertisementPatch.update_yields_iff hids).mpr ⟨row, hrow, ?_, ?_, ?_⟩, rfl⟩
  · rw [hbackend.1] at hfits₂
    rw [hbackend.2]
    exact hfits₁.andThen hfits₂
  · rw [Database.restampedAdvertisement, changeAdvertisement_twice, changeAdvertisement_twice]
    · congr 1
      funext other
      rw [AdvertisementPatch.applied_andThen s₁.stamp]
      rfl
    · exact fun _ => rfl
    · exact fun _ => rfl
  · exact getAdvertisement_restamped (hbackend.2.trans hbackend.1.symm) hanswer hstamp

end

/-! ## Categories -/

namespace CategoryPatch

variable {first second : CategoryPatch} {db : Database τ} {id : String} {row : CategoryRow τ}

theorem rename_andThen (old : String) :
    (first.andThen second).rename old = second.rename (first.rename old) := by
  simp only [rename, andThen, Option.map_or, Option.getD_or]

theorem describe_andThen (old : Option String) :
    (first.andThen second).description.apply old =
      second.description.apply (first.description.apply old) :=
  Edit.apply_andThen _ _ _

theorem applied_andThen (early late : τ) (row : CategoryRow τ) :
    (first.andThen second).applied late row = second.applied late (first.applied early row) := by
  simp only [applied, rename_andThen, describe_andThen]

theorem Fits.andThen {stamp : τ} {early late triggers : Triggers} (hid : row.id = id)
    (hfirst : first.Fits early db row)
    (hsecond : second.Fits late (changeCategory db id (first.applied stamp))
      (first.applied stamp row)) (hpermitted : triggers.permit .updateCategory = .ok ()) :
    (first.andThen second).Fits triggers db row where
  named := by
    intro given hgiven
    rcases Option.or_eq_some_iff.mp hgiven with hlate | ⟨-, hearly⟩
    · exact hsecond.named given hlate
    · exact hfirst.named given hearly
  free := by
    intro other hother hname
    by_cases hsame : other.id = id
    · exact hsame.trans hid.symm
    · refine hsecond.free other ?_ (hname.trans (rename_andThen row.name))
      exact List.mem_map.mpr ⟨other, hother, if_neg hsame⟩
  permitted := hpermitted

end CategoryPatch

section

variable {first second : CategoryPatch} {s₁ s₂ s₃ : Session τ} {db mid after : Database τ}
  {id : String} {a₁ a₂ : Category}

theorem readCategory_restamped {backend : Backend τ} {row : CategoryRow τ} {shown : Category}
    {stamp : τ} {read : Time.Instant} (hread : backend.readCategory row = .ok shown)
    (hstamp : backend.readStamp "updated_at" stamp = .ok read) :
    backend.readCategory { row with updatedAt := stamp } =
      .ok { shown with updatedAt := read } := by
  obtain ⟨created, updated, hcreated, -, rfl⟩ := readCategory_eq_ok_iff.mp hread
  exact readCategory_eq_ok_iff.mpr ⟨created, read, hcreated, hstamp, rfl⟩

theorem changeCategory_andThen (early middle late : τ) :
    changeCategory db id ((first.andThen second).applied late) =
      (changeCategory (changeCategory db id (first.applied early)) id
        (second.applied middle)).restampedCategory id late := by
  rw [Database.restampedCategory, changeCategory_twice, changeCategory_twice]
  · congr 1
    funext other
    rw [CategoryPatch.applied_andThen early]
    rfl
  · exact fun _ => rfl
  · exact fun _ => rfl

theorem nodup_patchedCategories (patch : CategoryPatch) (stamp : τ)
    (hids : (db.categories.map CategoryRow.id).Nodup) :
    ((changeCategory db id (patch.applied stamp)).categories.map CategoryRow.id).Nodup := by
  rw [changeCategory_ids]
  · exact hids
  · exact fun _ => rfl

theorem category?_patched {row : CategoryRow τ} (patch : CategoryPatch) (stamp : τ)
    (hrow : db.category? id = some row) :
    (changeCategory db id (patch.applied stamp)).category? id = some (patch.applied stamp row) :=
  category?_changed hrow fun _ => rfl

theorem mergeCategory_andThen (hids : (db.categories.map CategoryRow.id).Nodup)
    (hbackend : s₂.backend = s₁.backend ∧ s₃.backend = s₁.backend)
    (hpermitted : s₃.triggers.permit .updateCategory = .ok ())
    (hfirst : (mergeCategory id first s₁ db).Yields a₁ mid)
    (hsecond : (mergeCategory id second s₂ mid).Yields a₂ after) :
    ∃ answer, (mergeCategory id (first.andThen second) s₃ db).Yields answer
        (after.restampedCategory id s₃.stamp) ∧
      { answer with updatedAt := a₂.updatedAt } = a₂ := by
  obtain ⟨row, existing, hrow, hread, hfits₁, rfl, -⟩ :=
    (CategoryPatch.merge_yields_iff hids).mp hfirst
  obtain ⟨row', existing', hrow', hread', hfits₂, rfl, rfl⟩ :=
    (CategoryPatch.merge_yields_iff (nodup_patchedCategories _ _ hids)).mp hsecond
  obtain rfl := Option.some.inj ((category?_patched _ _ hrow).symm.trans hrow')
  have hid : row.id = id := key_eq_of_find? hrow
  refine ⟨_, (CategoryPatch.merge_yields_iff hids).mpr ⟨row, existing, hrow, ?_,
    hfits₁.andThen hid hfits₂ hpermitted, (changeCategory_andThen _ _ _).symm, rfl⟩, ?_⟩
  · rwa [hbackend.2]
  · rw [hbackend.1] at hread'
    obtain ⟨created, updated, hcreated, -, rfl⟩ := readCategory_eq_ok_iff.mp hread
    obtain ⟨created', updated', hcreated', -, rfl⟩ := readCategory_eq_ok_iff.mp hread'
    obtain rfl := Except.ok.inj (hcreated.symm.trans hcreated')
    simp only [CategoryPatch.rename_andThen, CategoryPatch.describe_andThen, CategoryPatch.applied]

theorem patchCategory_andThen (hids : (db.categories.map CategoryRow.id).Nodup)
    (hbackend : s₂.backend = s₁.backend ∧ s₃.backend = s₁.backend)
    (hpermitted : s₃.triggers.permit .updateCategory = .ok ())
    (htimely : s₃.backend.Timely s₃.now)
    (hfirst : (patchCategory id first s₁ db).Yields a₁ mid)
    (hsecond : (patchCategory id second s₂ mid).Yields a₂ after) :
    ∃ answer, (patchCategory id (first.andThen second) s₃ db).Yields answer
        (after.restampedCategory id s₃.stamp) ∧
      { answer with updatedAt := a₂.updatedAt } = a₂ := by
  obtain ⟨row, hrow, hfits₁, rfl, -⟩ := (CategoryPatch.patch_yields_iff hids).mp hfirst
  obtain ⟨row', hrow', hfits₂, rfl, hread⟩ :=
    (CategoryPatch.patch_yields_iff (nodup_patchedCategories _ _ hids)).mp hsecond
  obtain rfl := Option.some.inj ((category?_patched _ _ hrow).symm.trans hrow')
  have hid : row.id = id := key_eq_of_find? hrow
  obtain ⟨read, hstamp⟩ := htimely.readStamp "updated_at"
  refine ⟨{ a₂ with updatedAt := read }, (CategoryPatch.patch_yields_iff hids).mpr ⟨row, hrow,
    hfits₁.andThen hid hfits₂ hpermitted, (changeCategory_andThen _ _ _).symm, ?_⟩, rfl⟩
  rw [CategoryPatch.applied_andThen s₁.stamp]
  rw [hbackend.1, ← hbackend.2] at hread
  exact readCategory_restamped hread hstamp

theorem updateCategory_eq (patch : CategoryPatch) (session : Session τ) :
    updateCategory id patch session =
      (if session.backend.patchesInPlace then patchCategory id patch
        else mergeCategory id patch) session := by
  rfl

theorem updateCategory_andThen (hids : (db.categories.map CategoryRow.id).Nodup)
    (hbackend : s₂.backend = s₁.backend ∧ s₃.backend = s₁.backend)
    (hpermitted : s₃.triggers.permit .updateCategory = .ok ())
    (htimely : s₃.backend.Timely s₃.now)
    (hfirst : (updateCategory id first s₁ db).Yields a₁ mid)
    (hsecond : (updateCategory id second s₂ mid).Yields a₂ after) :
    ∃ answer, (updateCategory id (first.andThen second) s₃ db).Yields answer
        (after.restampedCategory id s₃.stamp) ∧
      { answer with updatedAt := a₂.updatedAt } = a₂ := by
  rw [updateCategory_eq] at hfirst hsecond ⊢
  rw [hbackend.1] at hsecond
  rw [hbackend.2]
  split at hfirst
  next hinPlace =>
    rw [if_pos hinPlace] at hsecond ⊢
    exact patchCategory_andThen hids hbackend hpermitted htimely hfirst hsecond
  next hmerges =>
    rw [if_neg hmerges] at hsecond ⊢
    exact mergeCategory_andThen hids hbackend hpermitted hfirst hsecond

end

/-! ## What else an update touches -/

/-- A row of a table gives way to another; the rest of the table stays. -/
inductive Replaces {ρ : Type} (old new : ρ) : List ρ → List ρ → Prop where
  | mk (before behind : List ρ) :
      Replaces old new (before ++ old :: behind) (before ++ new :: behind)

theorem replaces_of_key {ρ : Type} {key : ρ → String} {rows : List ρ} {row : ρ} (change : ρ → ρ)
    (hkeys : (rows.map key).Nodup) (hrow : row ∈ rows) :
    Replaces row (change row) rows
      (rows.map fun other => if key other = key row then change other else other) := by
  obtain ⟨before, behind, rfl⟩ := List.append_of_mem hrow
  simp only [List.map_append, List.map_cons, List.nodup_append, List.nodup_cons, List.mem_map,
    List.mem_cons] at hkeys
  obtain ⟨-, ⟨hbehind, -⟩, hapart⟩ := hkeys
  have hbefore (other) (hother : other ∈ before) : key other ≠ key row :=
    hapart (key other) ⟨other, hother, rfl⟩ (key row) (.inl rfl)
  have hkept (part : List ρ) (hpart : ∀ other ∈ part, key other ≠ key row) :
      (part.map fun other => if key other = key row then change other else other) = part := by
    rw [List.map_congr_left fun other hother => if_neg (hpart other hother), List.map_id']
  rw [List.map_append, List.map_cons, if_pos rfl, hkept before hbefore, hkept behind]
  · exact .mk before behind
  · exact fun other hother hsame => hbehind ⟨other, hother, hsame⟩

/-- The tables after an update differ in the row of this advertisement, and there in what the patch
gives and in the time. -/
def Store.Database.PatchesAdvertisement (db after : Database τ) (id : String)
    (patch : AdvertisementPatch) (stamp : τ) : Prop :=
  ∃ row, row.id = id ∧ after = { db with advertisements := after.advertisements } ∧
    Replaces row { row with
      title := patch.title.getD row.title
      description := patch.description.apply row.description
      priceCents := patch.priceCents.getD row.priceCents
      categoryId := patch.categoryId.getD row.categoryId
      updatedAt := stamp } db.advertisements after.advertisements

/-- The same for a category, whose name is stored in its normal form. -/
def Store.Database.PatchesCategory (db after : Database τ) (id : String) (patch : CategoryPatch)
    (stamp : τ) : Prop :=
  ∃ row, row.id = id ∧ after = { db with categories := after.categories } ∧
    Replaces row { row with
      name := (patch.name.map storedName).getD row.name
      description := patch.description.apply row.description
      updatedAt := stamp } db.categories after.categories

section

variable {session : Session τ} {db after : Database τ} {id : String}

theorem updateAdvertisement_patches {patch : AdvertisementPatch} {answer : Advertisement}
    (hids : (db.advertisements.map AdvertisementRow.id).Nodup)
    (h : (updateAdvertisement id patch session db).Yields answer after) :
    db.PatchesAdvertisement after id patch session.stamp := by
  obtain ⟨row, hrow, -, rfl, -⟩ := (AdvertisementPatch.update_yields_iff hids).mp h
  obtain rfl : row.id = id := key_eq_of_find? hrow
  exact ⟨row, rfl, rfl, replaces_of_key (patch.applied session.stamp) hids
    (List.mem_of_find?_eq_some hrow)⟩

theorem updateCategory_changes {patch : CategoryPatch} {answer : Category}
    (hids : (db.categories.map CategoryRow.id).Nodup)
    (h : (updateCategory id patch session db).Yields answer after) :
    ∃ row, db.category? id = some row ∧
      after = changeCategory db id (patch.applied session.stamp) := by
  rw [updateCategory_eq] at h
  split at h
  · obtain ⟨row, hrow, -, hafter, -⟩ := (CategoryPatch.patch_yields_iff hids).mp h
    exact ⟨row, hrow, hafter⟩
  · obtain ⟨row, -, hrow, -, -, hafter, -⟩ := (CategoryPatch.merge_yields_iff hids).mp h
    exact ⟨row, hrow, hafter⟩

theorem updateCategory_patches {patch : CategoryPatch} {answer : Category}
    (hids : (db.categories.map CategoryRow.id).Nodup)
    (h : (updateCategory id patch session db).Yields answer after) :
    db.PatchesCategory after id patch session.stamp := by
  obtain ⟨row, hrow, rfl⟩ := updateCategory_changes hids h
  obtain rfl : row.id = id := key_eq_of_find? hrow
  exact ⟨row, rfl, rfl, replaces_of_key (patch.applied session.stamp) hids
    (List.mem_of_find?_eq_some hrow)⟩

end

/-! ## Updates of a board -/

namespace Board

variable {board : Board τ} {start db : Database τ}

/-- Updates of advertisements on these tables touch what they are given, and two of them come to
one.  The one update may come at any time that the database can keep. -/
structure ComposesAdvertisements (board : Board τ) (db : Database τ) : Prop where
  touches : ∀ (id : String) (patch : AdvertisementPatch) (turn : Turn) (answer : Advertisement)
    (after : Database τ),
    (updateAdvertisement id patch (board.session turn) db).Yields answer after →
    db.PatchesAdvertisement after id patch (board.session turn).stamp
  composes : ∀ (id : String) (first second : AdvertisementPatch) (early late once : Turn)
    (a₁ a₂ : Advertisement) (mid after : Database τ),
    (updateAdvertisement id first (board.session early) db).Yields a₁ mid →
    (updateAdvertisement id second (board.session late) mid).Yields a₂ after →
    board.backend.Timely once.now →
    ∃ answer, (updateAdvertisement id (first.andThen second) (board.session once) db).Yields answer
        (after.restampedAdvertisement id (board.session once).stamp) ∧
      { answer with updatedAt := a₂.updatedAt } = a₂

/-- The same for categories, where a trigger may refuse the one update. -/
structure ComposesCategories (board : Board τ) (db : Database τ) : Prop where
  touches : ∀ (id : String) (patch : CategoryPatch) (turn : Turn) (answer : Category)
    (after : Database τ),
    (updateCategory id patch (board.session turn) db).Yields answer after →
    db.PatchesCategory after id patch (board.session turn).stamp
  composes : ∀ (id : String) (first second : CategoryPatch) (early late once : Turn)
    (a₁ a₂ : Category) (mid after : Database τ),
    (updateCategory id first (board.session early) db).Yields a₁ mid →
    (updateCategory id second (board.session late) mid).Yields a₂ after →
    board.backend.Timely once.now → once.triggers.permit .updateCategory = .ok () →
    ∃ answer, (updateCategory id (first.andThen second) (board.session once) db).Yields answer
        (after.restampedCategory id (board.session once).stamp) ∧
      { answer with updatedAt := a₂.updatedAt } = a₂

/-- Whatever a run has made of consistent tables, two updates of a record come to one. -/
theorem updates_compose (hstart : start.Consistent) (turns : List Turn) :
    board.ComposesAdvertisements (board.run start turns) ∧
      board.ComposesCategories (board.run start turns) := by
  have hdb : (board.run start turns).Consistent := run_consistent hstart turns
  refine ⟨⟨?_, ?_⟩, ⟨?_, ?_⟩⟩
  · exact fun _ _ _ _ _ h => updateAdvertisement_patches hdb.advertisementIds h
  · intro id first second early late once a₁ a₂ mid after hfirst hsecond htimely
    refine updateAdvertisement_andThen hdb.advertisementIds ?_ htimely hfirst hsecond
    exact ⟨rfl, rfl⟩
  · exact fun _ _ _ _ _ h => updateCategory_patches hdb.categoryIds h
  · intro id first second early late once a₁ a₂ mid after hfirst hsecond htimely hpermitted
    refine updateCategory_andThen hdb.categoryIds ?_ hpermitted htimely hfirst hsecond
    exact ⟨rfl, rfl⟩

/-- The bike of the sample board with another title, description and price. -/
def soldBike (description : Option String) (priceCents : Int64) : Advertisement where
  id := "a1"
  title := "City bike"
  description
  creatorId := "ann"
  priceCents
  categoryId := "c1"
  categoryName := "bikes"
  score := 3
  isActive := false
  createdAt := sampleNow
  updatedAt := sampleNow

/-- A title and a description, then a price and no description, at once on the sample board; and
the same for the name and the description of a category. -/
theorem updates_compose_sampleBoard :
    let db := sampleBoard.run .empty sampleHistory
    let session := sampleBoard.session (sampleTurn "4" (.store .listCategories))
    (∃ answer after, (updateAdvertisement "a1" ⟨some "City bike", .clear, some 20000, none⟩
        session db).Yields answer after ∧
      { answer with updatedAt := sampleNow } = soldBike none 20000) ∧
    ∃ answer after, (updateCategory "c1" ⟨some " Cycles ", .set "Two wheels."⟩
        session db).Yields answer after ∧
      { answer with updatedAt := sampleNow } =
        ⟨"c1", "cycles", some "Two wheels.", sampleNow, sampleNow⟩ := by
  intro db session
  obtain ⟨hadvertisements, hcategories⟩ :=
    @updates_compose _ sampleBoard .empty .empty sampleHistory
  let turn := sampleTurn "4" (.store .listCategories)
  constructor
  · let first : AdvertisementPatch := ⟨some "City bike", .set "Almost new.", none, none⟩
    let second : AdvertisementPatch := ⟨none, .clear, some 20000, none⟩
    let mid := (updateAdvertisement "a1" first session db).database
    have hfirst : (updateAdvertisement "a1" first session db).answer.toOption =
        some (soldBike (some "Almost new.") 25000) := by decide +kernel
    have hsecond : (updateAdvertisement "a1" second session mid).answer.toOption =
        some (soldBike none 20000) := by decide +kernel
    obtain ⟨answer, hyields, hsame⟩ := hadvertisements.composes "a1" first second turn turn turn
      _ _ mid _ ⟨ok_of_toOption hfirst, rfl⟩ (Outcome.yields_of_answer (ok_of_toOption hsecond))
      (.server _)
    exact ⟨answer, _, hyields, hsame⟩
  · let first : CategoryPatch := ⟨some " Cycles ", .keep⟩
    let second : CategoryPatch := ⟨none, .set "Two wheels."⟩
    let mid := (updateCategory "c1" first session db).database
    have hfirst : (updateCategory "c1" first session db).answer.toOption =
        some ⟨"c1", "cycles", none, sampleNow, sampleNow⟩ := by decide +kernel
    have hsecond : (updateCategory "c1" second session mid).answer.toOption =
        some ⟨"c1", "cycles", some "Two wheels.", sampleNow, sampleNow⟩ := by decide +kernel
    obtain ⟨answer, hyields, hsame⟩ := hcategories.composes "c1" first second turn turn turn
      _ _ mid _ ⟨ok_of_toOption hfirst, rfl⟩ (Outcome.yields_of_answer (ok_of_toOption hsecond))
      (.server _) rfl
    exact ⟨answer, _, hyields, hsame⟩

end Board
end Noticeboard
