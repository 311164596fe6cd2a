import Mathlib.Data.List.Forall2
import Noticeboard.Proofs.Pairs
import Noticeboard.Proofs.ScoreLimits

/-!
# What is hidden from a viewer

An advertisement is hidden from a viewer while it is inactive and not the viewer's to manage.  Two
databases agree for the viewer if they differ at most in what hidden advertisements hold besides
their ids, creators and activity.  Then the viewer is shown the same records of both, and finds that
a hidden advertisement of one is hidden in the other, provided that hidden rows can be read at all.
-/

namespace Noticeboard

/-! ## Lists that correspond row by row -/

section Lists

variable {α : Type} {R : α → α → Prop} {l l' : List α}

theorem forall₂_mem (h : List.Forall₂ R l l') :
    List.Forall₂ (fun a b => a ∈ l ∧ b ∈ l' ∧ R a b) l l' := by
  induction h with
  | nil => exact .nil
  | cons hab _ ih =>
      refine .cons ⟨List.mem_cons_self, List.mem_cons_self, hab⟩ (ih.imp ?_)
      rintro a b ⟨ha, hb, hrest⟩
      exact ⟨List.mem_cons_of_mem _ ha, List.mem_cons_of_mem _ hb, hrest⟩

theorem map_eq_of_forall₂ {β : Type} {f : α → β} (h : List.Forall₂ R l l')
    (hf : ∀ a b, R a b → f b = f a) : l'.map f = l.map f := by
  induction h with
  | nil => rfl
  | cons hab _ ih => rw [List.map_cons, List.map_cons, hf _ _ hab, ih]

theorem find?_of_forall₂ {p : α → Bool} (h : List.Forall₂ R l l')
    (hp : ∀ a b, R a b → p b = p a) :
    (l.find? p = none ∧ l'.find? p = none) ∨
      ∃ a b, l.find? p = some a ∧ l'.find? p = some b ∧ R a b := by
  induction h with
  | nil => exact .inl ⟨rfl, rfl⟩
  | @cons a b _ _ hab _ ih =>
      rw [List.find?_cons, List.find?_cons, hp a b hab]
      cases p a with
      | true => exact .inr ⟨a, b, rfl, rfl, hab⟩
      | false => exact ih

theorem filter_eq_of_forall₂ {p : α → Bool} (h : List.Forall₂ R l l')
    (hp : ∀ a b, R a b → p b = p a) (hsame : ∀ a b, R a b → p a = true → b = a) :
    l'.filter p = l.filter p := by
  induction h with
  | nil => rfl
  | @cons a b _ _ hab _ ih =>
      rw [List.filter_cons, List.filter_cons, hp a b hab, ih]
      by_cases ha : p a = true
      · rw [if_pos ha, if_pos ha, hsame a b hab ha]
      · rw [if_neg ha, if_neg ha]

end Lists

/-! ## Hidden rows -/

namespace Store

variable {τ : Type}

/-- The tables with other advertisements. -/
def Database.withAdvertisements (db : Database τ) (rows : List (AdvertisementRow τ)) :
    Database τ :=
  { db with advertisements := rows }

def Backend.Parses (backend : Backend τ) (stamp : τ) : Prop :=
  ∀ column, ∃ read, backend.readStamp column stamp = .ok read

structure AdvertisementRow.Readable (backend : Backend τ) (row : AdvertisementRow τ) : Prop where
  score : ∃ n : Int64, row.score = .whole n
  createdAt : backend.Parses row.createdAt
  updatedAt : backend.Parses row.updatedAt

/-- Tables that keep to their keys and references, and whose rows can all be read. -/
structure Database.WellFormed (backend : Backend τ) (db : Database τ) : Prop where
  consistent : db.Consistent
  times : db.AllTimes backend.Parses
  scores : db.ScoresWhole

theorem Database.WellFormed.readable {backend : Backend τ} {db : Database τ}
    (h : db.WellFormed backend) : ∀ row ∈ db.advertisements, row.Readable backend := by
  intro row hrow
  obtain ⟨hcreated, hupdated⟩ := h.times.advertisements row hrow
  exact ⟨h.scores row hrow, hcreated, hupdated⟩

end Store

namespace Service

open Store (Session Database Backend Action Outcome AdvertisementRow)

variable {τ α : Type}

/-- Whether an advertisement is shown to a viewer, who may be no actor at all. -/
def InSight (db : Database τ) (viewer : Option Actor) (row : AdvertisementRow τ) : Prop :=
  row.isActive = true ∨ ∃ actor, viewer = some actor ∧ Manages db actor row

/-- Two rows that the viewer cannot tell apart. -/
structure AlikeFor (db : Database τ) (viewer : Option Actor) (row other : AdvertisementRow τ) :
    Prop where
  id : other.id = row.id
  creatorId : other.creatorId = row.creatorId
  isActive : other.isActive = row.isActive
  shown : InSight db viewer row → other = row

/-- Two databases that agree on everything but what hidden advertisements hold. -/
structure AgreeFor (viewer : Option Actor) (db other : Database τ) : Prop where
  categories : other.categories = db.categories
  advertisements : List.Forall₂ (AlikeFor db viewer) db.advertisements other.advertisements
  moderators : other.moderators = db.moderators
  comments : other.comments = db.comments
  likes : other.likes = db.likes
  saves : other.saves = db.saves

/-- Rows that are the same, or that are hidden and can be read. -/
inductive Veiled (backend : Backend τ) (db : Database τ) (viewer : Option Actor)
    (row : AdvertisementRow τ) : AdvertisementRow τ → Prop where
  | same : Veiled backend db viewer row row
  | hidden {other : AdvertisementRow τ} (hid : other.id = row.id)
      (hcreator : other.creatorId = row.creatorId) (hactive : other.isActive = row.isActive)
      (hsight : ¬ InSight db viewer row) (hread : row.Readable backend)
      (hread' : other.Readable backend) : Veiled backend db viewer row other

/-- The second database is the first one with other hidden advertisements. -/
def Veils (backend : Backend τ) (viewer : Option Actor) (other db : Database τ) : Prop :=
  ∃ rows, other = db.withAdvertisements rows ∧
    List.Forall₂ (Veiled backend db viewer) db.advertisements rows

variable {backend : Backend τ} {viewer : Option Actor} {db other after : Database τ}
  {row row' : AdvertisementRow τ} {rows : List (AdvertisementRow τ)}

theorem veils_with (h : List.Forall₂ (Veiled backend db viewer) db.advertisements rows) :
    Veils backend viewer (db.withAdvertisements rows) db :=
  ⟨rows, rfl, h⟩

theorem Veiled.id (h : Veiled backend db viewer row row') : row'.id = row.id := by
  cases h with
  | same => rfl
  | hidden hid => exact hid

theorem Veiled.eq_of_inSight (h : Veiled backend db viewer row row')
    (hsight : InSight db viewer row) : row' = row := by
  cases h with
  | same => rfl
  | hidden hid hcreator hactive hhidden => exact absurd hsight hhidden

theorem Veiled.alike (h : Veiled backend db viewer row row') : AlikeFor db viewer row row' := by
  cases h with
  | same => exact ⟨rfl, rfl, rfl, fun _ => rfl⟩
  | hidden hid hcreator hactive hsight =>
      exact ⟨hid, hcreator, hactive, fun hshown => absurd hshown hsight⟩

/-- Without a new moderator an advertisement does not come into sight. -/
theorem Veiled.of_moderators (h : Veiled backend db viewer row row')
    (hmoderators : ∀ userId, ⟨row.id, userId⟩ ∈ after.moderators →
      ⟨row.id, userId⟩ ∈ db.moderators) : Veiled backend after viewer row row' := by
  cases h with
  | same => exact .same
  | hidden hid hcreator hactive hsight hread hread' =>
      refine .hidden hid hcreator hactive ?_ hread hread'
      rintro (hshown | ⟨actor, hviewer, howns | hlisted⟩)
      · exact hsight (.inl hshown)
      · exact hsight (.inr ⟨actor, hviewer, .inl howns⟩)
      · exact hsight (.inr ⟨actor, hviewer, .inr (hmoderators _ hlisted)⟩)

theorem Veils.agree (h : Veils backend viewer other db) : AgreeFor viewer db other := by
  obtain ⟨rows, rfl, hrows⟩ := h
  exact ⟨rfl, hrows.imp fun _ _ => Veiled.alike, rfl, rfl, rfl, rfl⟩

/-- Agreement is enough, if everything hidden can be read. -/
theorem AgreeFor.veils (h : AgreeFor viewer db other)
    (hread : ∀ row ∈ db.advertisements, row.Readable backend)
    (hread' : ∀ row ∈ other.advertisements, row.Readable backend) :
    Veils backend viewer other db := by
  refine ⟨other.advertisements, ?_, ?_⟩
  · cases other
    obtain ⟨rfl, -, rfl, rfl, rfl, rfl⟩ := h
    rfl
  · apply (forall₂_mem h.advertisements).imp
    rintro row row' ⟨hrow, hrow', halike⟩
    by_cases hsight : InSight db viewer row
    · rw [halike.shown hsight]
      exact .same
    · exact .hidden halike.id halike.creatorId halike.isActive hsight (hread row hrow)
        (hread' row' hrow')

/-! ## Reads -/

section Reads

variable {session : Session τ} {id : String}

theorem advertisement?_veiled
    (hrows : List.Forall₂ (Veiled backend db viewer) db.advertisements rows) (id : String) :
    (db.advertisement? id = none ∧ (db.withAdvertisements rows).advertisement? id = none) ∨
      ∃ row row', db.advertisement? id = some row ∧
        (db.withAdvertisements rows).advertisement? id = some row' ∧
        Veiled backend db viewer row row' :=
  find?_of_forall₂ hrows fun _ _ h => by rw [h.id]

theorem hasAdvertisement_veiled
    (hrows : List.Forall₂ (Veiled backend db viewer) db.advertisements rows) (id : String) :
    (db.withAdvertisements rows).hasAdvertisement id = db.hasAdvertisement id := by
  have hids : rows.map AdvertisementRow.id = db.advertisements.map AdvertisementRow.id :=
    map_eq_of_forall₂ hrows fun _ _ h => h.id
  have hany (l : List (AdvertisementRow τ)) :
      l.any (fun row => row.id == id) = (l.map AdvertisementRow.id).any (· == id) := by
    rw [List.any_map]
    rfl
  show rows.any _ = db.advertisements.any _
  rw [hany, hany, hids]

/-- A row that is the same in both databases is read alike. -/
theorem getAdvertisement_same (hcategories : other.categories = db.categories)
    (hsame : other.advertisement? id = db.advertisement? id) :
    (Store.getAdvertisement id session other).answer =
      (Store.getAdvertisement id session db).answer := by
  have hjoined : Store.readJoined session.backend other = Store.readJoined session.backend db := by
    funext row
    rw [Store.readJoined, Store.readJoined, Database.category?, Database.category?, hcategories]
  simp only [Store.getAdvertisement, Action.query, hsame, hjoined]

theorem activeAdvertisements_veiled
    (hrows : List.Forall₂ (Veiled backend db viewer) db.advertisements rows) :
    (Store.activeAdvertisements session (db.withAdvertisements rows)).answer =
      (Store.activeAdvertisements session db).answer := by
  have hactive : (db.withAdvertisements rows).advertisements.filter (fun row => row.isActive) =
      db.advertisements.filter fun row => row.isActive := by
    apply filter_eq_of_forall₂ hrows
    · exact fun _ _ h => h.alike.isActive
    · exact fun _ _ h hactive => h.eq_of_inSight (.inl hactive)
  simp only [Store.activeAdvertisements, Action.query, hactive]
  rfl

/-- A hidden row is read in either database, as an inactive advertisement. -/
theorem getAdvertisement_readable {row : AdvertisementRow τ} (hdb : db.Consistent)
    (hrow : db.advertisement? id = some row) (hread : row.Readable session.backend) :
    ∃ advertisement, (Store.getAdvertisement id session db).answer = .ok advertisement ∧
      row.ShownBy advertisement := by
  obtain ⟨n, hscore⟩ := hread.score
  obtain ⟨created, hcreated⟩ := hread.createdAt "created_at"
  obtain ⟨updated, hupdated⟩ := hread.updatedAt "updated_at"
  obtain ⟨category, hcategory⟩ := Store.category?_of_hasCategory
    (hdb.advertisementReferences row (List.mem_of_find?_eq_some hrow))
  have hanswer : (Store.getAdvertisement id session db).answer =
      .ok ⟨row.id, row.title, row.description, row.creatorId, row.priceCents, row.categoryId,
        category.name, n, row.isActive, created, updated⟩ := by
    simp [Store.getAdvertisement, Action.query, hrow, Store.readJoined, hcategory,
      Backend.readAdvertisement, hscore, Store.Score.read, hcreated, hupdated, bind, Except.bind,
      pure, Except.pure]
  exact ⟨_, hanswer, ⟨rfl, rfl, rfl, hscore⟩⟩

end Reads

/-! ## What the viewer is shown -/

section Visible

variable {session : Session τ} {id : String}

/-- The same record twice, of a row in sight. -/
def ShownAlike (db : Database τ) (viewer : Option Actor) (id : String)
    (shown shown' : Advertisement) : Prop :=
  shown = shown' ∧
    ∃ row, db.advertisement? id = some row ∧ row.ShownBy shown ∧ InSight db viewer row

/-- What is found under an id can be read, and is out of the viewer's sight. -/
def ReadsHidden (session : Session τ) (viewer : Option Actor) (id : String) (db : Database τ) :
    Prop :=
  ∃ row shown, (Store.getAdvertisement id session db).answer = .ok shown ∧ row.ShownBy shown ∧
    ¬ InSight db viewer row

theorem ReadsHidden.foreign {actor : Actor} (h : ReadsHidden session (some actor) id db) :
    ∃ shown, (Store.getAdvertisement id session db).answer = .ok shown ∧
      shown.creatorId ≠ actor.userId := by
  obtain ⟨row, shown, hread, hshown, hsight⟩ := h
  refine ⟨shown, hread, fun howns => hsight (.inr ⟨actor, rfl, .inl (.inr ?_)⟩)⟩
  rw [← hshown.creatorId, howns]

/-- Under one id both databases have the same row, or rows that are hidden. -/
theorem same_or_hidden (hdb : db.Consistent) (hother : (db.withAdvertisements rows).Consistent)
    (hrows : List.Forall₂ (Veiled session.backend db viewer) db.advertisements rows)
    (id : String) :
    (db.withAdvertisements rows).advertisement? id = db.advertisement? id ∨
      ReadsHidden session viewer id db ∧
        ReadsHidden session viewer id (db.withAdvertisements rows) := by
  rcases advertisement?_veiled hrows id with ⟨hnone, hnone'⟩ | ⟨row, row', hrow, hrow', hveiled⟩
  · exact .inl (hnone'.trans hnone.symm)
  · cases hveiled with
    | same => exact .inl (hrow'.trans hrow.symm)
    | hidden hid hcreator hactive hsight hread hread' =>
        have hsight' : ¬ InSight (db.withAdvertisements rows) viewer row' := by
          unfold InSight Manages Owns at hsight ⊢
          rwa [hid, hcreator, hactive]
        obtain ⟨shown, hshown, hshows⟩ := getAdvertisement_readable hdb hrow hread
        obtain ⟨shown', hshown', hshows'⟩ := getAdvertisement_readable hother hrow' hread'
        right
        exact ⟨⟨row, shown, hshown, hshows, hsight⟩, ⟨row', shown', hshown', hshows', hsight'⟩⟩

/-- A row that is the same in both databases is shown alike. -/
theorem visible_same
    (hsame : (db.withAdvertisements rows).advertisement? id = db.advertisement? id) :
    Store.Paired (ShownAlike db viewer id) (fun failure failure' => failure = failure')
      (visibleAdvertisement viewer id session (db.withAdvertisements rows)).answer
      (visibleAdvertisement viewer id session db).answer := by
  have hanswer : (Store.getAdvertisement id session (db.withAdvertisements rows)).answer =
      (Store.getAdvertisement id session db).answer := getAdvertisement_same rfl hsame
  apply Outcome.Pairs.paired
  unfold visibleAdvertisement
  apply Action.pairs_ite
  · intro _
    apply Action.pairs_bind
    exact Action.pairs_fail rfl
  · intro _
    apply Action.pairs_bind
    apply (Store.getAdvertisement_reads id).pairs (Store.getAdvertisement_reads id)
    rw [hanswer]
    apply Store.paired_self _ fun _ _ => rfl
    intro shown hread
    obtain ⟨row, hrow, hshown⟩ := Store.getAdvertisement_eq_ok hread
    apply Action.pairs_ite
    · intro hactive
      exact Action.pairs_pure ⟨rfl, row, hrow, hshown, .inl (hshown.isActive ▸ hactive)⟩
    · intro _
      cases viewer with
      | none =>
          apply Action.pairs_bind
          apply Action.pairs_pure
          apply Action.pairs_ite
          · exact fun hfalse => absurd hfalse Bool.false_ne_true
          · exact fun _ => Action.pairs_fail rfl
      | some actor =>
          apply Action.pairs_bind
          apply (canManage_reads actor shown).pairs (canManage_reads actor shown)
          rw [canManage_answer hshown, canManage_answer hshown]
          apply Store.paired_ok
          apply Action.pairs_ite
          · intro hmanages
            have hsight : InSight db (some actor) row :=
              .inr ⟨actor, rfl, of_decide_eq_true hmanages⟩
            exact Action.pairs_pure ⟨rfl, row, hrow, hshown, hsight⟩
          · exact fun _ => Action.pairs_fail rfl

/-- An advertisement out of sight is refused, whatever else it holds. -/
theorem visible_hidden (hgiven : (Text.trim id).isEmpty = false)
    (hhidden : ReadsHidden session viewer id db) :
    (visibleAdvertisement viewer id session db).answer = .error (.hiddenAdvertisement id) := by
  obtain ⟨row, shown, hread, hshown, hsight⟩ := hhidden
  have hinactive : shown.isActive = false := by
    rw [hshown.isActive]
    exact Bool.eq_false_iff.mpr fun hactive => hsight (.inl hactive)
  rw [Outcome.answer_eq_error_iff_meets]
  cases viewer with
  | none =>
      simp [visibleAdvertisement, (Store.getAdvertisement_reads _).meets_iff, hgiven, hread,
        hinactive]
  | some actor =>
      have hforeign : ¬ Manages db actor row := fun hmanages => hsight (.inr ⟨actor, rfl, hmanages⟩)
      simp [visibleAdvertisement, (Store.getAdvertisement_reads _).meets_iff,
        (canManage_reads _ _).meets_iff, hgiven, hread, hinactive, canManage_answer hshown,
        hforeign]

theorem visible_blank (hblank : (Text.trim id).isEmpty = true) :
    (visibleAdvertisement viewer id session db).answer = .error .missingAdvertisementId := by
  rw [Outcome.answer_eq_error_iff_meets]
  simp [visibleAdvertisement, hblank]

/-- The viewer is shown the same row of both databases, or is told the same of both. -/
theorem visible_paired (hdb : db.Consistent) (hother : (db.withAdvertisements rows).Consistent)
    (hrows : List.Forall₂ (Veiled session.backend db viewer) db.advertisements rows) :
    Store.Paired (ShownAlike db viewer id) (fun failure failure' => failure = failure')
      (visibleAdvertisement viewer id session (db.withAdvertisements rows)).answer
      (visibleAdvertisement viewer id session db).answer := by
  rcases same_or_hidden hdb hother hrows id with hsame | ⟨hhidden, hhidden'⟩
  · exact visible_same hsame
  · by_cases hblank : (Text.trim id).isEmpty = true
    · rw [visible_blank hblank, visible_blank hblank]
      exact Store.paired_error rfl
    · have hgiven : (Text.trim id).isEmpty = false := Bool.eq_false_iff.mpr hblank
      rw [visible_hidden hgiven hhidden', visible_hidden hgiven hhidden]
      exact Store.paired_error rfl

end Visible

end Service
end Noticeboard
