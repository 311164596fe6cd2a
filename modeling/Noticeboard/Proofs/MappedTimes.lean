import Noticeboard.Proofs.Statements

/-!
# Writes do not look at times

Whatever stands for the times in the tables, a write finds the same rows, faults alike, and leaves
the same rows.  So a statement commutes with any change of the times.
-/

namespace Noticeboard.Store

variable {σ τ α : Type}

/-! ## Changing the times -/

def CategoryRow.mapTimes (f : σ → τ) (row : CategoryRow σ) : CategoryRow τ :=
  { row with createdAt := f row.createdAt, updatedAt := f row.updatedAt }

def AdvertisementRow.mapTimes (f : σ → τ) (row : AdvertisementRow σ) : AdvertisementRow τ :=
  { row with createdAt := f row.createdAt, updatedAt := f row.updatedAt }

def CommentRow.mapTimes (f : σ → τ) (row : CommentRow σ) : CommentRow τ :=
  { row with createdAt := f row.createdAt }

def ReactionRow.mapTimes (f : σ → τ) (row : ReactionRow σ) : ReactionRow τ :=
  { row with createdAt := f row.createdAt }

def Database.mapTimes (f : σ → τ) (db : Database σ) : Database τ where
  categories := db.categories.map (CategoryRow.mapTimes f)
  advertisements := db.advertisements.map (AdvertisementRow.mapTimes f)
  moderators := db.moderators
  comments := db.comments.map (CommentRow.mapTimes f)
  likes := db.likes.map (ReactionRow.mapTimes f)
  saves := db.saves.map (ReactionRow.mapTimes f)

@[simp] theorem AdvertisementRow.mapTimes_categoryId (f : σ → τ) (row : AdvertisementRow σ) :
    (row.mapTimes f).categoryId = row.categoryId :=
  rfl

@[simp] theorem ReactionRow.mapTimes_id (f : σ → τ) (row : ReactionRow σ) :
    (row.mapTimes f).id = row.id :=
  rfl

@[simp] theorem ReactionRow.mapTimes_userId (f : σ → τ) (row : ReactionRow σ) :
    (row.mapTimes f).userId = row.userId :=
  rfl

@[simp] theorem ReactionRow.mapTimes_advertisementId (f : σ → τ) (row : ReactionRow σ) :
    (row.mapTimes f).advertisementId = row.advertisementId :=
  rfl

section

variable (f : σ → τ) (db : Database σ) (id : String)

@[simp] theorem category?_mapTimes :
    (db.mapTimes f).category? id = (db.category? id).map (CategoryRow.mapTimes f) := by
  simp only [Database.category?, Database.mapTimes, List.find?_map]
  rfl

@[simp] theorem advertisement?_mapTimes :
    (db.mapTimes f).advertisement? id =
      (db.advertisement? id).map (AdvertisementRow.mapTimes f) := by
  simp only [Database.advertisement?, Database.mapTimes, List.find?_map]
  rfl

@[simp] theorem comment?_mapTimes :
    (db.mapTimes f).comment? id = (db.comment? id).map (CommentRow.mapTimes f) := by
  simp only [Database.comment?, Database.mapTimes, List.find?_map]
  rfl

@[simp] theorem hasCategory_mapTimes : (db.mapTimes f).hasCategory id = db.hasCategory id := by
  simp only [Database.hasCategory, Database.mapTimes, List.any_map]
  rfl

@[simp] theorem hasAdvertisement_mapTimes :
    (db.mapTimes f).hasAdvertisement id = db.hasAdvertisement id := by
  simp only [Database.hasAdvertisement, Database.mapTimes, List.any_map]
  rfl

@[simp] theorem reactions_mapTimes (kind : ReactionKind) :
    (db.mapTimes f).reactions kind = (db.reactions kind).map (ReactionRow.mapTimes f) := by
  cases kind <;> rfl

@[simp] theorem addReaction_mapTimes (kind : ReactionKind) (row : ReactionRow σ) :
    (db.mapTimes f).addReaction kind (row.mapTimes f) = (db.addReaction kind row).mapTimes f := by
  cases kind <;> simp [Database.addReaction, Database.mapTimes]

@[simp] theorem isIn_mapTimes : (db.mapTimes f).isIn id = db.isIn id := by
  funext other
  simp only [Database.isIn, Database.mapTimes, List.any_map]
  rfl

@[simp] theorem dropAdvertisements_mapTimes (gone : String → Bool) :
    (db.mapTimes f).dropAdvertisements gone = (db.dropAdvertisements gone).mapTimes f := by
  simp only [Database.dropAdvertisements, Database.mapTimes, List.filter_map]
  rfl

@[simp] theorem dropCategory_mapTimes :
    (db.mapTimes f).dropCategory id = (db.dropCategory id).mapTimes f := by
  simp only [Database.dropCategory, isIn_mapTimes, dropAdvertisements_mapTimes]
  simp only [Database.mapTimes, List.filter_map]
  rfl

theorem changeCategory_mapTimes {change : CategoryRow σ → CategoryRow σ}
    {change' : CategoryRow τ → CategoryRow τ}
    (hchange : ∀ row, change' (row.mapTimes f) = (change row).mapTimes f) :
    changeCategory (db.mapTimes f) id change' = (changeCategory db id change).mapTimes f := by
  simp only [changeCategory, Database.mapTimes, List.map_map]
  congr 1
  apply List.map_congr_left
  intro row _
  show (if row.id = id then change' (row.mapTimes f) else row.mapTimes f) =
    (if row.id = id then change row else row).mapTimes f
  rw [hchange]
  split
  · rfl
  · rfl

theorem changeAdvertisement_mapTimes {change : AdvertisementRow σ → AdvertisementRow σ}
    {change' : AdvertisementRow τ → AdvertisementRow τ}
    (hchange : ∀ row, change' (row.mapTimes f) = (change row).mapTimes f) :
    Statement.changeAdvertisement (db.mapTimes f) id change' =
      (Statement.changeAdvertisement db id change).mapTimes f := by
  simp only [Statement.changeAdvertisement, Database.mapTimes, List.map_map]
  congr 1
  apply List.map_congr_left
  intro row _
  show (if row.id = id then change' (row.mapTimes f) else row.mapTimes f) =
    (if row.id = id then change row else row).mapTimes f
  rw [hchange]
  split
  · rfl
  · rfl

end

/-! ## Statements -/

namespace Statement

variable {f : σ → τ} {triggers : Triggers} {db : Database σ}

theorem insertCategory_mapTimes (row : CategoryRow σ) :
    insertCategory (row.mapTimes f) triggers (db.mapTimes f) =
      mapTables (Database.mapTimes f) (insertCategory row triggers db) := by
  have hnames (name : String) : (db.mapTimes f).categories.any (fun other => other.name == name) =
      db.categories.any (fun other => other.name == name) := by
    simp only [Database.mapTimes, List.any_map]
    rfl
  simp only [insertCategory, mapTables_bind, mapTables_ite, mapTables_pure,
    hasCategory_mapTimes, hnames]
  simp only [Database.mapTimes, List.map_append]
  rfl

theorem updateCategory_mapTimes (id name : String) (description : Option String) (updatedAt : σ) :
    updateCategory id name description (f updatedAt) triggers (db.mapTimes f) =
      mapTables (Database.mapTimes f)
        (updateCategory id name description updatedAt triggers db) := by
  have hnames : (db.mapTimes f).categories.any (fun other => other.name == name && other.id != id) =
      db.categories.any (fun other => other.name == name && other.id != id) := by
    simp only [Database.mapTimes, List.any_map]
    rfl
  have hchange : changeCategory (db.mapTimes f) id
      (fun row => { row with name, description, updatedAt := f updatedAt }) =
        (changeCategory db id fun row => { row with name, description, updatedAt }).mapTimes f :=
    changeCategory_mapTimes f db id fun _ => rfl
  simp only [updateCategory, mapTables_bind, mapTables_ite, mapTables_pure,
    hasCategory_mapTimes, hnames]
  unfold changeCategory at hchange
  simp only [hchange]

theorem permitDrop_mapTimes (gone : String → Bool) :
    permitDrop triggers (db.mapTimes f) gone = permitDrop triggers db gone := by
  simp only [permitDrop, Database.mapTimes, List.any_map]
  rfl

theorem deleteCategory_mapTimes (id : String) :
    deleteCategory id triggers (db.mapTimes f) =
      mapTables (Database.mapTimes f) (deleteCategory id triggers db) := by
  simp only [deleteCategory, mapTables_bind, mapTables_ite, mapTables_pure, hasCategory_mapTimes,
    isIn_mapTimes, permitDrop_mapTimes, dropCategory_mapTimes]

theorem insertAdvertisement_mapTimes (row : AdvertisementRow σ) :
    insertAdvertisement (row.mapTimes f) triggers (db.mapTimes f) =
      mapTables (Database.mapTimes f) (insertAdvertisement row triggers db) := by
  simp only [insertAdvertisement, mapTables_bind, mapTables_ite, mapTables_pure,
    hasCategory_mapTimes, hasAdvertisement_mapTimes, AdvertisementRow.mapTimes_categoryId,
    deleteCategory_mapTimes, bind_mapTables]
  simp only [Database.mapTimes, List.map_append]
  rfl

theorem updateAdvertisement_mapTimes (id title : String) (description : Option String)
    (priceCents : Int64) (categoryId : String) (updatedAt : σ) :
    updateAdvertisement id title description priceCents categoryId (f updatedAt) triggers
        (db.mapTimes f) =
      mapTables (Database.mapTimes f)
        (updateAdvertisement id title description priceCents categoryId updatedAt triggers db) := by
  have hchange : changeAdvertisement (db.mapTimes f) id
      (fun row =>
        { row with title, description, priceCents, categoryId, updatedAt := f updatedAt }) =
        (changeAdvertisement db id fun row =>
          { row with title, description, priceCents, categoryId, updatedAt }).mapTimes f :=
    changeAdvertisement_mapTimes f db id fun _ => rfl
  simp only [updateAdvertisement, mapTables_bind, mapTables_ite, mapTables_pure,
    hasCategory_mapTimes, hasAdvertisement_mapTimes, hchange]

theorem setActive_mapTimes (id : String) (active : Bool) (updatedAt : σ) :
    setActive id active (f updatedAt) triggers (db.mapTimes f) =
      mapTables (Database.mapTimes f) (setActive id active updatedAt triggers db) := by
  have hchange : changeAdvertisement (db.mapTimes f) id
      (fun row => { row with isActive := active, updatedAt := f updatedAt }) =
        (changeAdvertisement db id fun row =>
          { row with isActive := active, updatedAt }).mapTimes f :=
    changeAdvertisement_mapTimes f db id fun _ => rfl
  simp only [setActive, mapTables_ite, hasAdvertisement_mapTimes, hchange]
  rfl

theorem deleteAdvertisement_mapTimes (id : String) :
    deleteAdvertisement id triggers (db.mapTimes f) =
      mapTables (Database.mapTimes f) (deleteAdvertisement id triggers db) := by
  simp only [deleteAdvertisement, mapTables_bind, mapTables_ite, mapTables_pure,
    hasAdvertisement_mapTimes, permitDrop_mapTimes, dropAdvertisements_mapTimes]

theorem insertModerator_mapTimes (row : ModeratorRow) :
    insertModerator row triggers (db.mapTimes f) =
      mapTables (Database.mapTimes f) (insertModerator row triggers db) := by
  simp only [insertModerator, mapTables_bind, mapTables_ite, mapTables_pure,
    hasAdvertisement_mapTimes]
  rfl

theorem insertComment_mapTimes (row : CommentRow σ) :
    insertComment (row.mapTimes f) triggers (db.mapTimes f) =
      mapTables (Database.mapTimes f) (insertComment row triggers db) := by
  simp only [insertComment, mapTables_bind, mapTables_ite, mapTables_pure,
    hasAdvertisement_mapTimes]
  simp only [Database.mapTimes, List.map_append, List.any_map]
  rfl

theorem deleteComment_mapTimes (id : String) :
    deleteComment id triggers (db.mapTimes f) =
      mapTables (Database.mapTimes f) (deleteComment id triggers db) := by
  unfold deleteComment
  rw [comment?_mapTimes]
  cases db.comment? id with
  | none => rfl
  | some row =>
      simp only [Option.map_some, mapTables_bind, mapTables_pure]
      simp only [Database.mapTimes, List.filter_map]
      rfl

theorem insertReaction_mapTimes (kind : ReactionKind) (row : ReactionRow σ) :
    insertReaction kind (row.mapTimes f) triggers (db.mapTimes f) =
      mapTables (Database.mapTimes f) (insertReaction kind row triggers db) := by
  have hids : (List.map (ReactionRow.mapTimes f) (db.reactions kind)).any
      (fun other => other.id == row.id) =
        (db.reactions kind).any (fun other => other.id == row.id) := by
    rw [List.any_map]
    rfl
  have hkeys : (List.map (ReactionRow.mapTimes f) (db.reactions kind)).any (fun other =>
      other.userId == row.userId && other.advertisementId == row.advertisementId) =
        (db.reactions kind).any (fun other =>
          other.userId == row.userId && other.advertisementId == row.advertisementId) := by
    rw [List.any_map]
    rfl
  simp only [insertReaction, mapTables_bind, mapTables_ite, mapTables_pure,
    hasAdvertisement_mapTimes, reactions_mapTimes, addReaction_mapTimes, ReactionRow.mapTimes_id,
    ReactionRow.mapTimes_userId, ReactionRow.mapTimes_advertisementId, hids, hkeys,
    deleteAdvertisement_mapTimes, bind_mapTables]

theorem addScore_mapTimes (add : Score → Except DatabaseFault Score) (id : String) :
    addScore add id triggers (db.mapTimes f) =
      mapTables (Database.mapTimes f) (addScore add id triggers db) := by
  have hchange (score : Score) : changeAdvertisement (db.mapTimes f) id
      (fun row => { row with score }) =
        (changeAdvertisement db id fun row => { row with score }).mapTimes f :=
    changeAdvertisement_mapTimes f db id fun _ => rfl
  unfold addScore
  rw [advertisement?_mapTimes]
  cases db.advertisement? id with
  | none => rfl
  | some row =>
      simp only [Option.map_some, mapTables_bind, mapTables_pure, hchange]
      rfl

end Statement
end Noticeboard.Store
