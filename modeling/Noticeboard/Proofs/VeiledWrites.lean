import Noticeboard.Proofs.Veil

/-!
# Writes under a veil

A viewer who writes to one of two databases that differ in hidden advertisements only, and to the
other, is answered the same and leaves such databases again.  Most writes do not look at
advertisements beyond their ids; those that change one change the same row in both, and points may
be taken from a hidden row as long as its scores keep within the limits.
-/

namespace Noticeboard

open Store (Session Database Backend Action Outcome AdvertisementRow ReactionKind Statement)

namespace Service

variable {τ α β : Type} {backend : Backend τ} {viewer : Option Actor} {session : Session τ}
  {db other : Database τ} {rows : List (AdvertisementRow τ)}

/-! ## Tables after a write -/

section Tables

variable {after : Database τ} {row row' : AdvertisementRow τ}
  (hrows : List.Forall₂ (Veiled backend db viewer) db.advertisements rows)

include hrows

omit hrows in
theorem veils_of_rows (hrows : List.Forall₂ (Veiled backend db viewer) after.advertisements rows)
    (hmoderators : ∀ moderator ∈ after.moderators, moderator ∈ db.moderators) :
    Veils backend viewer (after.withAdvertisements rows) after :=
  ⟨rows, rfl, hrows.imp fun _ _ h => h.of_moderators fun _ => hmoderators _⟩

/-- A write that leaves advertisements and moderators alone. -/
theorem veiled_aside (hadvertisements : after.advertisements = db.advertisements)
    (hmoderators : after.moderators = db.moderators) :
    List.Forall₂ (Veiled backend after viewer) after.advertisements rows := by
  rw [hadvertisements]
  apply hrows.imp
  intro row row' h
  apply h.of_moderators
  intro userId hlisted
  rwa [← hmoderators]

theorem veils_aside (hadvertisements : after.advertisements = db.advertisements)
    (hmoderators : after.moderators = db.moderators) :
    Veils backend viewer (after.withAdvertisements rows) after :=
  ⟨rows, rfl, veiled_aside hrows hadvertisements hmoderators⟩

theorem veils_concat (row : AdvertisementRow τ) :
    Veils backend viewer
      (({ db with advertisements := db.advertisements ++ [row] } :
        Database τ).withAdvertisements (rows ++ [row]))
      { db with advertisements := db.advertisements ++ [row] } :=
  veils_of_rows (List.rel_append hrows (.cons .same .nil)) fun _ h => h

theorem veils_dropAdvertisements (gone : String → Bool) :
    Veils backend viewer ((db.withAdvertisements rows).dropAdvertisements gone)
      (db.dropAdvertisements gone) := by
  have hkept : List.Forall₂ (Veiled backend db viewer) (db.dropAdvertisements gone).advertisements
      (rows.filter fun row => !gone row.id) := by
    apply List.rel_filter _ hrows
    intro row row' h
    show (!gone row.id) = true ↔ (!gone row'.id) = true
    rw [h.id]
  apply veils_of_rows hkept
  intro moderator hmoderator
  exact (List.mem_filter.mp hmoderator).1

/-- A write to one advertisement, which may be hidden. -/
theorem veils_changeAdvertisement {id : String}
    {change change' : AdvertisementRow τ → AdvertisementRow τ}
    (hids : (db.advertisements.map AdvertisementRow.id).Nodup)
    (hrow : db.advertisement? id = some row)
    (hrow' : (db.withAdvertisements rows).advertisement? id = some row')
    (hchanged : Veiled backend db viewer (change row) (change' row')) :
    Veils backend viewer (Statement.changeAdvertisement (db.withAdvertisements rows) id change')
      (Statement.changeAdvertisement db id change) := by
  have hids' : (rows.map AdvertisementRow.id).Nodup := by
    rwa [map_eq_of_forall₂ hrows fun _ _ h => h.id]
  have hid : row.id = id := Store.key_eq_of_find? hrow
  have hid' : row'.id = id := Store.key_eq_of_find? hrow'
  refine ⟨rows.map fun other => if other.id = id then change' other else other, rfl, ?_⟩
  show List.Forall₂ _ (db.advertisements.map _) _
  rw [List.forall₂_map_left_iff, List.forall₂_map_right_iff]
  apply (forall₂_mem hrows).imp
  rintro a b ⟨ha, hb, hveiled⟩
  by_cases haid : a.id = id
  · obtain rfl : a = row := List.inj_on_of_nodup_map hids ha (List.mem_of_find?_eq_some hrow)
      (haid.trans hid.symm)
    have hbid : b.id = id := hveiled.id.trans haid
    obtain rfl : b = row' := List.inj_on_of_nodup_map hids' hb (List.mem_of_find?_eq_some hrow')
      (hbid.trans hid'.symm)
    rw [if_pos haid, if_pos hbid]
    exact hchanged.of_moderators fun _ hlisted => hlisted
  · have hbid : ¬ b.id = id := by rwa [hveiled.id]
    rw [if_neg haid, if_neg hbid]
    exact hveiled.of_moderators fun _ hlisted => hlisted

omit hrows in
theorem advertisement?_changeAdvertisement {id sought : String}
    {change : AdvertisementRow τ → AdvertisementRow τ} (hchange : ∀ row, (change row).id = row.id) :
    (Statement.changeAdvertisement db id change).advertisement? sought =
      (db.advertisement? sought).map fun row => if row.id = id then change row else row := by
  unfold Database.advertisement? Statement.changeAdvertisement
  rw [List.find?_map]
  congr 2
  funext row
  show ((if row.id = id then change row else row).id == sought) = (row.id == sought)
  split
  · rw [hchange]
  · rfl

/-- A new moderator of an advertisement that was in sight before. -/
theorem veils_addModerator {id userId : String}
    (hids : (db.advertisements.map AdvertisementRow.id).Nodup)
    (hrow : db.advertisement? id = some row) (hsight : InSight db viewer row) :
    Veils backend viewer
      (({ db with moderators := db.moderators ++ [⟨id, userId⟩] } :
        Database τ).withAdvertisements rows)
      { db with moderators := db.moderators ++ [⟨id, userId⟩] } := by
  have hid : row.id = id := Store.key_eq_of_find? hrow
  refine ⟨rows, rfl, (forall₂_mem hrows).imp ?_⟩
  rintro a b ⟨ha, -, hveiled⟩
  by_cases haid : a.id = id
  · obtain rfl : a = row := List.inj_on_of_nodup_map hids ha (List.mem_of_find?_eq_some hrow)
      (haid.trans hid.symm)
    rw [hveiled.eq_of_inSight hsight]
    exact .same
  · apply hveiled.of_moderators
    intro user hlisted
    rcases List.mem_append.mp hlisted with hold | hnew
    · exact hold
    · have hsame : a.id = id :=
        congrArg Store.ModeratorRow.advertisementId (List.mem_singleton.mp hnew)
      exact absurd hsame haid

end Tables

/-! ## Statements

What a statement makes of the tables with other advertisements. -/

section Statements

variable {triggers : Store.Triggers} {id : String}
  (hrows : List.Forall₂ (Veiled backend db viewer) db.advertisements rows)

theorem insertCategory_with (row : Store.CategoryRow τ) :
    Statement.insertCategory row triggers (db.withAdvertisements rows) =
      Store.mapTables (·.withAdvertisements rows) (Statement.insertCategory row triggers db) := by
  simp only [Statement.insertCategory, Store.mapTables_bind, Store.mapTables_ite,
    Store.mapTables_pure]
  rfl

theorem deleteComment_with :
    Statement.deleteComment id triggers (db.withAdvertisements rows) =
      Store.mapTables (·.withAdvertisements rows) (Statement.deleteComment id triggers db) := by
  have hfound : (db.withAdvertisements rows).comment? id = db.comment? id := rfl
  unfold Statement.deleteComment
  rw [hfound]
  cases db.comment? id with
  | none => rfl
  | some row =>
      simp only [Store.mapTables_bind, Store.mapTables_pure]
      rfl

include hrows

theorem insertAdvertisement_with (row : AdvertisementRow τ) :
    Statement.insertAdvertisement row [] (db.withAdvertisements rows) =
      Store.mapTables (·.withAdvertisements (rows ++ [row]))
        (Statement.insertAdvertisement row [] db) := by
  simp only [Statement.insertAdvertisement, Store.mapTables_bind, Store.mapTables_ite,
    Store.mapTables_pure, hasAdvertisement_veiled hrows]
  rfl

theorem insertModerator_with (row : Store.ModeratorRow) :
    Statement.insertModerator row triggers (db.withAdvertisements rows) =
      Store.mapTables (·.withAdvertisements rows) (Statement.insertModerator row triggers db) := by
  simp only [Statement.insertModerator, Store.mapTables_bind, Store.mapTables_ite,
    Store.mapTables_pure, hasAdvertisement_veiled hrows]
  rfl

theorem insertComment_with (row : Store.CommentRow τ) :
    Statement.insertComment row triggers (db.withAdvertisements rows) =
      Store.mapTables (·.withAdvertisements rows) (Statement.insertComment row triggers db) := by
  simp only [Statement.insertComment, Store.mapTables_bind, Store.mapTables_ite,
    Store.mapTables_pure, hasAdvertisement_veiled hrows]
  rfl

theorem insertReaction_with (kind : ReactionKind) (row : Store.ReactionRow τ) :
    Statement.insertReaction kind row [] (db.withAdvertisements rows) =
      Store.mapTables (·.withAdvertisements rows) (Statement.insertReaction kind row [] db) := by
  simp only [Statement.insertReaction, Store.mapTables_bind, Store.mapTables_ite,
    Store.mapTables_pure, hasAdvertisement_veiled hrows]
  cases kind <;> rfl

theorem updateAdvertisement_with (hpresent : db.hasAdvertisement id = true) (title : String)
    (description : Option String) (priceCents : Int64) (categoryId : String) (updatedAt : τ) :
    Statement.updateAdvertisement id title description priceCents categoryId updatedAt triggers
        (db.withAdvertisements rows) =
      Store.mapTables
        (·.withAdvertisements (rows.map fun row =>
          if row.id = id then { row with title, description, priceCents, categoryId, updatedAt }
          else row))
        (Statement.updateAdvertisement id title description priceCents categoryId updatedAt
          triggers db) := by
  simp only [Statement.updateAdvertisement, hasAdvertisement_veiled hrows, hpresent, if_true,
    Store.mapTables_bind, Store.mapTables_ite, Store.mapTables_pure]
  rfl

theorem deleteAdvertisement_with (hpresent : db.hasAdvertisement id = true) :
    Statement.deleteAdvertisement id triggers (db.withAdvertisements rows) =
      Store.mapTables (·.withAdvertisements (rows.filter fun row => !(row.id == id)))
        (Statement.deleteAdvertisement id triggers db) := by
  simp only [Statement.deleteAdvertisement, hasAdvertisement_veiled hrows, hpresent, if_true,
    Store.mapTables_bind, Store.mapTables_pure]
  rfl

end Statements

/-! ## Outcomes -/

/-- The answers are the same, be they failures or not, and the veil is kept. -/
def Blurs (backend : Backend τ) (viewer : Option Actor) (first second : Outcome τ α) : Prop :=
  first.Pairs second (fun a b after after' => a = b ∧ Veils backend viewer after after')
    fun f g after after' => f = g ∧ Veils backend viewer after after'

theorem Blurs.answer {first second : Outcome τ α} (h : Blurs backend viewer first second) :
    first.answer = second.answer := by
  rcases Outcome.Pairs.cases h with
    ⟨_, _, hfirst, hsecond, rfl, -⟩ | ⟨_, _, hfirst, hsecond, rfl, -⟩
  · rw [hfirst, hsecond]
  · rw [hfirst, hsecond]

theorem Blurs.database {first second : Outcome τ α} (h : Blurs backend viewer first second) :
    Veils backend viewer first.database second.database := by
  rcases Outcome.Pairs.cases h with ⟨_, _, -, -, -, hveils⟩ | ⟨_, _, -, -, -, hveils⟩
  · exact hveils
  · exact hveils

section Rules

variable {action : Action τ β} {next : β → Action τ α}

theorem reads_blur (h : action.Reads) (hveils : Veils backend viewer other db)
    (hanswer : (action session other).answer = (action session db).answer) :
    Blurs backend viewer (action session other) (action session db) := by
  apply h.pairs h
  rw [hanswer]
  exact Store.paired_self (fun _ _ => ⟨rfl, hveils⟩) fun _ _ => ⟨rfl, hveils⟩

theorem reads_bind_blur (h : action.Reads) (hveils : Veils backend viewer other db)
    (hanswer : (action session other).answer = (action session db).answer)
    (hnext : ∀ b, (action session db).answer = .ok b →
      Blurs backend viewer (next b session other) (next b session db)) :
    Blurs backend viewer ((action >>= next) session other) ((action >>= next) session db) := by
  apply Action.pairs_bind
  apply h.pairs h
  rw [hanswer]
  exact Store.paired_self hnext fun _ _ => ⟨rfl, hveils⟩

theorem bind_blur (h : Blurs backend viewer (action session other) (action session db))
    (hnext : ∀ b after after', Veils backend viewer after after' →
      Blurs backend viewer (next b session after) (next b session after')) :
    Blurs backend viewer ((action >>= next) session other) ((action >>= next) session db) := by
  apply Action.pairs_bind
  apply h.mono
  · rintro b _ after after' ⟨rfl, hveils⟩
    exact hnext b after after' hveils
  · exact fun _ _ _ _ hbad => hbad

theorem ofExcept_bind_blur {result : Except Failure β} (hveils : Veils backend viewer other db)
    (hnext : ∀ b, result = .ok b →
      Blurs backend viewer (next b session other) (next b session db)) :
    Blurs backend viewer ((Action.ofExcept result >>= next) session other)
      ((Action.ofExcept result >>= next) session db) :=
  reads_bind_blur (fun _ _ => rfl) hveils rfl hnext

theorem session_bind_blur {next : Session τ → Action τ α}
    (hnext : Blurs backend viewer (next session session other) (next session session db)) :
    Blurs backend viewer ((Action.session >>= next) session other)
      ((Action.session >>= next) session db) :=
  Action.pairs_bind (Action.pairs_session hnext)

theorem execute_bind_blur {statement : Statement τ β}
    {explain : DatabaseFault → Failure} {f : Database τ → Database τ}
    (hveils : Veils backend viewer other db)
    (hmap : statement session.triggers other =
      Store.mapTables f (statement session.triggers db))
    (hnext : ∀ b after, statement session.triggers db = .ok (b, after) →
      Blurs backend viewer (next b session (f after)) (next b session after)) :
    Blurs backend viewer ((Action.execute statement explain >>= next) session other)
      ((Action.execute statement explain >>= next) session db) := by
  apply Action.pairs_bind
  apply Action.pairs_execute
  exact Store.paired_mapTables hmap hnext fun _ _ => ⟨rfl, hveils⟩

theorem execute_blur {statement : Statement τ α}
    {explain : DatabaseFault → Failure} {f : Database τ → Database τ}
    (hveils : Veils backend viewer other db)
    (hmap : statement session.triggers other =
      Store.mapTables f (statement session.triggers db))
    (hafter : ∀ a after, statement session.triggers db = .ok (a, after) →
      Veils backend viewer (f after) after) :
    Blurs backend viewer (Action.execute statement explain session other)
      (Action.execute statement explain session db) := by
  apply Action.pairs_execute
  exact Store.paired_mapTables hmap (fun a after hrun => ⟨rfl, hafter a after hrun⟩)
    fun _ _ => ⟨rfl, hveils⟩

theorem transaction_blur {action : Action τ α} (hveils : Veils backend viewer other db)
    (h : Blurs backend viewer (action session other) (action session db)) :
    Blurs backend viewer (Action.transaction action session other)
      (Action.transaction action session db) := by
  apply Action.pairs_transaction
  apply h.mono
  · exact fun _ _ _ _ hgood => hgood
  · exact fun _ _ _ _ hbad => ⟨hbad.1, hveils⟩

theorem pure_blur (hveils : Veils backend viewer other db) (a : α) :
    Blurs backend viewer ((pure a : Action τ α) session other)
      ((pure a : Action τ α) session db) :=
  Action.pairs_pure ⟨rfl, hveils⟩

theorem fail_blur (hveils : Veils backend viewer other db) (failure : Failure) :
    Blurs backend viewer ((Action.fail failure : Action τ α) session other)
      ((Action.fail failure : Action τ α) session db) :=
  Action.pairs_fail ⟨rfl, hveils⟩

theorem fail_bind_blur (hveils : Veils backend viewer other db) (failure : Failure) :
    Blurs backend viewer ((Action.fail failure >>= next) session other)
      ((Action.fail failure >>= next) session db) :=
  Action.pairs_bind (Action.pairs_fail ⟨rfl, hveils⟩)

theorem expectRow_blur (hveils : Veils backend viewer other db) {failure : Failure}
    {found : Bool} :
    Blurs backend viewer (Action.expectRow failure found session other)
      (Action.expectRow failure found session db) :=
  Action.pairs_expectRow (fun _ => ⟨rfl, hveils⟩) fun _ => ⟨rfl, hveils⟩

end Rules

end Service

namespace Store

open Service

variable {τ : Type}

/-! ## Operations -/

section Operations

variable {backend : Backend τ} {viewer : Option Actor} {session : Session τ} {db : Database τ}
  {rows : List (AdvertisementRow τ)} {row : AdvertisementRow τ} {id : String}
  (hrows : List.Forall₂ (Veiled backend db viewer) db.advertisements rows)

include hrows

theorem insertCategory_blur (draft : CategoryDraft) :
    Blurs backend viewer (Store.insertCategory draft session (db.withAdvertisements rows))
      (Store.insertCategory draft session db) := by
  have hveils := veils_with hrows
  unfold Store.insertCategory
  apply ofExcept_bind_blur hveils
  intro name _
  apply session_bind_blur
  apply execute_bind_blur hveils (insertCategory_with _)
  intro _ after hwrite
  obtain ⟨-, -, -, rfl⟩ := Statement.insertCategory_eq_ok_iff.mp hwrite
  apply pure_blur
  exact veils_aside hrows rfl rfl

theorem insertAdvertisement_blur (hcalm : session.triggers = []) (creatorId : String)
    (category : Category) (draft : AdvertisementDraft) :
    Blurs backend viewer
      (Store.insertAdvertisement creatorId category draft session (db.withAdvertisements rows))
      (Store.insertAdvertisement creatorId category draft session db) := by
  have hveils := veils_with hrows
  unfold Store.insertAdvertisement
  apply session_bind_blur
  apply execute_bind_blur hveils
  · rw [hcalm]
    exact insertAdvertisement_with hrows _
  · intro _ after hwrite
    obtain ⟨-, -, -, -, -, rfl⟩ := Statement.insertAdvertisement_eq_ok_iff.mp hwrite
    apply pure_blur
    exact veils_concat hrows _

theorem createAdvertisement_blur (hcalm : session.triggers = []) (creatorId : String)
    (placed : PlacedDraft) :
    Blurs backend viewer
      (Store.createAdvertisement creatorId placed session (db.withAdvertisements rows))
      (Store.createAdvertisement creatorId placed session db) := by
  have hveils := veils_with hrows
  unfold Store.createAdvertisement
  apply ofExcept_bind_blur hveils
  intro _ _
  apply reads_bind_blur (Store.getCategory_reads _) hveils rfl
  exact fun category _ => insertAdvertisement_blur hrows hcalm creatorId category placed.draft

theorem createAdvertisementWithCategory_blur (hcalm : session.triggers = []) (creatorId : String)
    (category : CategoryDraft) (draft : AdvertisementDraft) :
    Blurs backend viewer
      (Store.createAdvertisementWithCategory creatorId category draft session
        (db.withAdvertisements rows))
      (Store.createAdvertisementWithCategory creatorId category draft session db) := by
  have hveils := veils_with hrows
  unfold Store.createAdvertisementWithCategory
  apply ofExcept_bind_blur hveils
  intro _ _
  apply transaction_blur hveils
  apply bind_blur (insertCategory_blur hrows category)
  rintro created _ between ⟨kept, rfl, hkept⟩
  exact insertAdvertisement_blur hkept hcalm creatorId created draft

/-- The write of an advertisement in sight, and the read that follows it. -/
theorem writeAdvertisement_blur (hids : (db.advertisements.map AdvertisementRow.id).Nodup)
    (hrow : db.advertisement? id = some row)
    (hrow' : (db.withAdvertisements rows).advertisement? id = some row) (title : String)
    (description : Option String) (priceCents : Int64) (categoryId : String) :
    Blurs backend viewer
      ((do
        let session ← Action.session
        let _ ← Action.execute (Statement.updateAdvertisement id title description priceCents
          categoryId (session.backend.stamp session.now)) .database
        Store.getAdvertisement id) session (db.withAdvertisements rows))
      ((do
        let session ← Action.session
        let _ ← Action.execute (Statement.updateAdvertisement id title description priceCents
          categoryId (session.backend.stamp session.now)) .database
        Store.getAdvertisement id) session db) := by
  have hveils := veils_with hrows
  have hpresent : db.hasAdvertisement id = true := Store.hasAdvertisement_of_find hrow
  apply session_bind_blur
  apply execute_bind_blur hveils (updateAdvertisement_with hrows hpresent _ _ _ _ _)
  intro found after hwrite
  rcases Statement.updateAdvertisement_eq_ok_iff.mp hwrite with
    ⟨-, -, -, -, rfl⟩ | ⟨habsent, -⟩
  · apply reads_blur (Store.getAdvertisement_reads id)
      (veils_changeAdvertisement hrows hids hrow hrow' .same)
    apply getAdvertisement_same
    · rfl
    · rw [advertisement?_changeAdvertisement, advertisement?_changeAdvertisement, hrow, hrow']
      all_goals exact fun _ => rfl
  · rw [hpresent] at habsent
    contradiction

theorem updateAdvertisement_blur (hids : (db.advertisements.map AdvertisementRow.id).Nodup)
    (hrow : db.advertisement? id = some row)
    (hrow' : (db.withAdvertisements rows).advertisement? id = some row)
    (patch : AdvertisementPatch) :
    Blurs backend viewer
      (Store.updateAdvertisement id patch session (db.withAdvertisements rows))
      (Store.updateAdvertisement id patch session db) := by
  have hveils := veils_with hrows
  unfold Store.updateAdvertisement
  apply reads_bind_blur (Store.getAdvertisement_reads id) hveils
    (getAdvertisement_same rfl (hrow'.trans hrow.symm))
  intro existing _
  apply ofExcept_bind_blur hveils
  intro _ _
  cases patch.categoryId with
  | none =>
      apply Action.pairs_bind
      apply Action.pairs_pure
      exact writeAdvertisement_blur hrows hids hrow hrow' _ _ _ existing.categoryId
  | some categoryId =>
      apply reads_bind_blur (Store.getCategory_reads _) hveils rfl
      intro category _
      apply Action.pairs_bind
      apply Action.pairs_pure
      exact writeAdvertisement_blur hrows hids hrow hrow' _ _ _ category.id

theorem deleteAdvertisement_blur (hpresent : db.hasAdvertisement id = true) :
    Blurs backend viewer (Store.deleteAdvertisement id session (db.withAdvertisements rows))
      (Store.deleteAdvertisement id session db) := by
  have hveils := veils_with hrows
  unfold Store.deleteAdvertisement
  apply execute_bind_blur hveils (deleteAdvertisement_with hrows hpresent)
  intro found after hwrite
  apply expectRow_blur
  rcases Statement.deleteAdvertisement_eq_ok_iff.mp hwrite with ⟨-, -, -, rfl⟩ | ⟨habsent, -⟩
  · exact veils_dropAdvertisements hrows (· == id)
  · rw [hpresent] at habsent
    contradiction

theorem addModerator_blur (hids : (db.advertisements.map AdvertisementRow.id).Nodup)
    (hrow : db.advertisement? id = some row) (hsight : InSight db viewer row) (userId : String) :
    Blurs backend viewer (Store.addModerator id userId session (db.withAdvertisements rows))
      (Store.addModerator id userId session db) := by
  have hveils := veils_with hrows
  unfold Store.addModerator
  apply execute_blur hveils (insertModerator_with hrows _)
  intro _ after hwrite
  obtain ⟨-, ⟨-, rfl⟩ | ⟨-, -, rfl⟩⟩ := Statement.insertModerator_eq_ok_iff.mp hwrite
  · exact hveils
  · exact veils_addModerator hrows hids hrow hsight

/-! ## Points -/

omit hrows in
/-- Points for one row under the veil: the same row, or two that can bear them. -/
theorem addScore_veiled {delta : Int64} {row' : AdvertisementRow τ}
    (hbackend : session.backend.Supplied) (hveiled : Veiled backend db viewer row row')
    (hpoints : row' = row ∨
      (∃ n : Int64, row'.score = .whole n ∧ Decimal.isInt64 (n.toInt + delta.toInt) = true) ∧
        ∃ n : Int64, row.score = .whole n ∧ Decimal.isInt64 (n.toInt + delta.toInt) = true) :
    Store.Paired
      (fun score' score =>
        Veiled backend db viewer { row with score } { row' with score := score' })
      (fun fault' fault => fault' = fault)
      (session.backend.addScore row'.score delta) (session.backend.addScore row.score delta) := by
  cases hveiled with
  | same => exact Store.paired_self (fun _ _ => .same) fun _ _ => rfl
  | hidden hid hcreator hactive hsight hread hread' =>
      rcases hpoints with rfl | ⟨⟨n', hscore', hfits'⟩, n, hscore, hfits⟩
      · exact Store.paired_self (fun _ _ => .same) fun _ _ => rfl
      · rw [hscore, hscore', hbackend.addScore_eq hfits, hbackend.addScore_eq hfits']
        apply Store.paired_ok
        refine .hidden hid hcreator hactive hsight ?_ ?_
        · exact ⟨⟨_, rfl⟩, hread.createdAt, hread.updatedAt⟩
        · exact ⟨⟨_, rfl⟩, hread'.createdAt, hread'.updatedAt⟩

/-- Points reach the same row in both databases, or rows whose scores can bear them. -/
def Borne (weights : ScoreWeights) (rows : List (AdvertisementRow τ)) (db : Database τ)
    (event : ScoreEvent) : Prop :=
  (db.withAdvertisements rows).advertisement? event.advertisementId =
      db.advertisement? event.advertisementId ∨
    (db.withAdvertisements rows).Bears weights event ∧ db.Bears weights event

theorem increment_blur (hbackend : session.backend.Supplied) {event : ScoreEvent}
    (hids : (db.advertisements.map AdvertisementRow.id).Nodup)
    (hpoints : Borne session.weights rows db event) :
    Blurs backend viewer
      (Store.increment event.advertisementId (session.weights.delta event.kind) session
        (db.withAdvertisements rows))
      (Store.increment event.advertisementId (session.weights.delta event.kind) session db) := by
  have hveils := veils_with hrows
  unfold Store.increment
  apply session_bind_blur
  apply Action.pairs_bind
  apply Action.pairs_execute
  unfold Statement.addScore
  rcases advertisement?_veiled hrows event.advertisementId with
    ⟨hnone, hnone'⟩ | ⟨row, row', hrow, hrow', hveiled⟩
  · rw [hnone, hnone']
    exact Store.paired_ok (expectRow_blur hveils)
  · have hscores := addScore_veiled hbackend hveiled <|
      hpoints.imp (fun hsame => Option.some.inj (hrow'.symm.trans (hsame.trans hrow)))
        fun hbears => ⟨hbears.1 row' hrow', hbears.2 row hrow⟩
    rw [hrow, hrow']
    dsimp only
    cases session.triggers.permit .addScore with
    | error fault => exact Store.paired_error ⟨rfl, hveils⟩
    | ok _ =>
        rcases hscores.cases with
          ⟨score', score, hadd', hadd, hchanged⟩ | ⟨fault', fault, hadd', hadd, hfault⟩
        · rw [hadd, hadd']
          apply Store.paired_ok
          apply expectRow_blur
          exact veils_changeAdvertisement hrows hids hrow hrow' hchanged
        · rw [hadd, hadd', hfault]
          exact Store.paired_error ⟨rfl, hveils⟩

theorem applyEvent_blur (hbackend : session.backend.Supplied) {event : ScoreEvent}
    (hids : (db.advertisements.map AdvertisementRow.id).Nodup)
    (hpoints : Borne session.weights rows db event) :
    Blurs backend viewer (Store.applyEvent event session (db.withAdvertisements rows))
      (Store.applyEvent event session db) := by
  unfold Store.applyEvent
  apply session_bind_blur
  apply bind_blur
  · exact Action.pairs_reporting (increment_blur hrows hbackend hids hpoints)
  · exact fun _ _ _ hveils => pure_blur hveils _

/-- Points that are moved after a write to another table. -/
theorem applyEvent_aside_blur (hbackend : session.backend.Supplied) {after : Database τ}
    {event : ScoreEvent} (hids : (db.advertisements.map AdvertisementRow.id).Nodup)
    (hadvertisements : after.advertisements = db.advertisements)
    (hmoderators : after.moderators = db.moderators)
    (hpoints : Borne session.weights rows after event) :
    Blurs backend viewer (Store.applyEvent event session (after.withAdvertisements rows))
      (Store.applyEvent event session after) := by
  apply applyEvent_blur (veiled_aside hrows hadvertisements hmoderators) hbackend _ hpoints
  rwa [hadvertisements]

theorem addComment_blur (hbackend : session.backend.Supplied)
    (hids : (db.advertisements.map AdvertisementRow.id).Nodup) {draft : CommentDraft}
    (hsame : (db.withAdvertisements rows).advertisement? draft.advertisementId =
      db.advertisement? draft.advertisementId) :
    Blurs backend viewer (Store.addComment draft session (db.withAdvertisements rows))
      (Store.addComment draft session db) := by
  have hveils := veils_with hrows
  unfold Store.addComment
  apply ofExcept_bind_blur hveils
  intro _ _
  apply session_bind_blur
  apply transaction_blur hveils
  apply execute_bind_blur hveils (insertComment_with hrows _)
  intro _ after hwrite
  obtain ⟨-, -, -, rfl⟩ := Statement.insertComment_eq_ok_iff.mp hwrite
  apply bind_blur
  · exact applyEvent_aside_blur hrows hbackend hids rfl rfl (.inl hsame)
  · exact fun _ _ _ hveils => pure_blur hveils _

theorem react_blur (hcalm : session.triggers = []) (hbackend : session.backend.Supplied)
    (hids : (db.advertisements.map AdvertisementRow.id).Nodup) (kind : ReactionKind)
    (userId : String)
    (hsame : (db.withAdvertisements rows).advertisement? id = db.advertisement? id) :
    Blurs backend viewer (Store.react kind userId id session (db.withAdvertisements rows))
      (Store.react kind userId id session db) := by
  have hveils := veils_with hrows
  unfold Store.react
  apply session_bind_blur
  apply transaction_blur hveils
  apply execute_bind_blur hveils
  · rw [hcalm]
    exact insertReaction_with hrows kind _
  · intro _ after hwrite
    rw [hcalm] at hwrite
    obtain ⟨-, -, -, -, ⟨⟨-, hdrop⟩, -⟩ | ⟨-, rfl⟩⟩ := Statement.insertReaction_eq_ok_iff.mp hwrite
    · exact absurd hdrop List.not_mem_nil
    · apply bind_blur
      · cases kind
        · exact applyEvent_aside_blur hrows hbackend hids rfl rfl (.inl hsame)
        · exact applyEvent_aside_blur hrows hbackend hids rfl rfl (.inl hsame)
      · exact fun _ _ _ hveils => pure_blur hveils _

/-- Whoever may delete a comment at a hidden advertisement takes its points away unseen. -/
theorem deleteComment_blur (hbackend : session.backend.Supplied)
    (hids : (db.advertisements.map AdvertisementRow.id).Nodup)
    (hpoints : ∀ advertisementId mid,
      Statement.deleteComment id session.triggers db = .ok (some advertisementId, mid) →
        Borne session.weights rows mid ⟨.commentRemoved, advertisementId⟩) :
    Blurs backend viewer (Store.deleteComment id session (db.withAdvertisements rows))
      (Store.deleteComment id session db) := by
  have hveils := veils_with hrows
  unfold Store.deleteComment
  apply transaction_blur hveils
  apply execute_bind_blur hveils deleteComment_with
  intro found after hwrite
  cases found with
  | some advertisementId =>
      have hkept : after.advertisements = db.advertisements ∧
          after.moderators = db.moderators := by
        rcases Statement.deleteComment_eq_ok_iff.mp hwrite with ⟨_, -, -, -, rfl⟩ | ⟨-, -, rfl⟩
        · exact ⟨rfl, rfl⟩
        · exact ⟨rfl, rfl⟩
      apply bind_blur
      · exact applyEvent_aside_blur hrows hbackend hids hkept.1 hkept.2
          (hpoints advertisementId after hwrite)
      · exact fun _ _ _ hveils => pure_blur hveils _
  | none =>
      apply fail_blur
      rcases Statement.deleteComment_eq_ok_iff.mp hwrite with ⟨_, -, -, hsome, -⟩ | ⟨-, -, rfl⟩
      · contradiction
      · exact hveils

end Operations

end Store
end Noticeboard
