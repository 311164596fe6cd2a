import Noticeboard.Proofs.Backends
import Noticeboard.Proofs.Consistency

/-!
# Rows that can be read

A row can be read if its times are stamps of the database and its score is a whole number.  The
store writes no other times, and only a sum of points that leaves the 64-bit integers can make a
score anything else.
-/

namespace Noticeboard.Store

variable {τ : Type} {backend : Backend τ} {session : Session τ} {db after : Database τ}

/-! ## Times -/

/-- All times that the tables hold are of one sort. -/
structure Database.AllTimes (P : τ → Prop) (db : Database τ) : Prop where
  categories : ∀ row ∈ db.categories, P row.createdAt ∧ P row.updatedAt
  advertisements : ∀ row ∈ db.advertisements, P row.createdAt ∧ P row.updatedAt
  comments : ∀ row ∈ db.comments, P row.createdAt
  reactions : ∀ kind, ∀ row ∈ db.reactions kind, P row.createdAt

namespace Database.AllTimes

variable {P : τ → Prop}

theorem empty : (Database.empty : Database τ).AllTimes P := by
  constructor
  case reactions => rintro (_ | _) <;> simp [Database.reactions, Database.empty]
  all_goals simp [Database.empty]

theorem changeAdvertisement (h : db.AllTimes P) (id : String)
    {change : AdvertisementRow τ → AdvertisementRow τ}
    (hcreated : ∀ row, (change row).createdAt = row.createdAt)
    (hupdated : ∀ row ∈ db.advertisements, P (change row).updatedAt) :
    (Statement.changeAdvertisement db id change).AllTimes P :=
  { h with
    advertisements := fun row hrow => by
      obtain ⟨old, hold, rfl⟩ := List.mem_map.mp hrow
      split
      · exact ⟨hcreated old ▸ (h.advertisements old hold).1, hupdated old hold⟩
      · exact h.advertisements old hold
    reactions := h.reactions }

theorem setScore (h : db.AllTimes P) (id : String) (score : Score) :
    (Store.setScore db id score).AllTimes P :=
  h.changeAdvertisement id (fun _ => rfl) fun row hrow => (h.advertisements row hrow).2

theorem dropAdvertisements (h : db.AllTimes P) (gone : String → Bool) :
    (db.dropAdvertisements gone).AllTimes P where
  categories := h.categories
  advertisements row hrow := h.advertisements row (List.mem_filter.mp hrow).1
  comments row hrow := h.comments row (List.mem_filter.mp hrow).1
  reactions kind row hrow := by
    rw [reactions_dropAdvertisements] at hrow
    exact h.reactions kind row (List.mem_filter.mp hrow).1

theorem addReaction (h : db.AllTimes P) {kind : ReactionKind} {row : ReactionRow τ}
    (hcreated : P row.createdAt) : (db.addReaction kind row).AllTimes P := by
  have hreactions (other : ReactionKind) :
      ∀ added ∈ (db.addReaction kind row).reactions other, P added.createdAt := by
    by_cases hkind : other = kind
    · subst other
      rw [reactions_addReaction_self]
      exact List.forall_mem_append.mpr
        ⟨h.reactions kind, List.forall_mem_singleton.mpr hcreated⟩
    · rw [reactions_addReaction_of_ne hkind]
      exact h.reactions other
  cases kind <;> exact { h with reactions := hreactions }

theorem revision (h : db.AllTimes P) (hstamp : P session.stamp)
    (hrevision : Revision session db after) : after.AllTimes P := by
  cases hrevision with
  | addCategory hid hname hcreated hupdated =>
      exact { h with
        categories := List.forall_mem_append.mpr ⟨h.categories, List.forall_mem_singleton.mpr
          ⟨hcreated ▸ hstamp, hupdated ▸ hstamp⟩⟩
        reactions := h.reactions }
  | changeCategory hname hfree =>
      refine { h with categories := fun row hrow => ?_, reactions := h.reactions }
      obtain ⟨old, hold, rfl⟩ := List.mem_map.mp hrow
      split
      · exact ⟨(h.categories old hold).1, hstamp⟩
      · exact h.categories old hold
  | dropCategory id =>
      have hrest := h.dropAdvertisements (db.isIn id)
      exact { hrest with
        categories := fun row hrow => h.categories row (List.mem_filter.mp hrow).1
        reactions := hrest.reactions }
  | addAdvertisement hid hcheck hscore hactive hcreated hupdated =>
      exact { h with
        advertisements := List.forall_mem_append.mpr ⟨h.advertisements,
          List.forall_mem_singleton.mpr ⟨hcreated ▸ hstamp, hupdated ▸ hstamp⟩⟩
        reactions := h.reactions }
  | changeAdvertisement => exact h.changeAdvertisement _ (fun _ => rfl) fun _ _ => hstamp
  | setActive => exact h.changeAdvertisement _ (fun _ => rfl) fun _ _ => hstamp
  | dropAdvertisement id => exact h.dropAdvertisements _
  | addModerator => exact { h with reactions := h.reactions }

theorem engagement (h : db.AllTimes P) (hstamp : P session.stamp)
    (hengagement : Engagement session db after) : after.AllTimes P := by
  cases hengagement with
  | @addComment row advertisement score hid hcontent hcreated =>
      have hadded : ({ db with comments := db.comments ++ [row] } : Database τ).AllTimes P :=
        { h with
          comments := List.forall_mem_append.mpr
            ⟨h.comments, List.forall_mem_singleton.mpr (hcreated ▸ hstamp)⟩
          reactions := h.reactions }
      exact hadded.setScore _ _
  | @removeComment id =>
      have hrest : ({ db with comments := db.comments.filter fun row => row.id != id } :
          Database τ).AllTimes P :=
        { h with
          comments := fun row hrow => h.comments row (List.mem_filter.mp hrow).1
          reactions := h.reactions }
      exact hrest.setScore _ _
  | react hid hnew honce hadvertisement hscore hcreated =>
      exact (h.addReaction (hcreated ▸ hstamp)).setScore _ _

theorem changed (h : db.AllTimes P) (hstamp : P session.stamp)
    (hchanged : Changed session db after) : after.AllTimes P :=
  hchanged.keeps (fun hmid => hmid.revision hstamp) (fun hdb => hdb.engagement hstamp) h

end Database.AllTimes

/-- All times were stored by the database itself. -/
abbrev Database.Stamped (backend : Backend τ) (db : Database τ) : Prop :=
  db.AllTimes backend.Stamps

/-! ## Whole scores -/

/-- Every score is a 64-bit integer. -/
def Database.ScoresWhole (db : Database τ) : Prop :=
  ∀ row ∈ db.advertisements, ∃ n : Int64, row.score = .whole n

/-- Only points can take a score out of the integers. -/
theorem Database.ScoresWhole.revision (h : db.ScoresWhole)
    (hrevision : Revision session db after) : after.ScoresWhole := by
  have hchange {id : String} {change : AdvertisementRow τ → AdvertisementRow τ}
      (hscore : ∀ row, (change row).score = row.score) :
      (Statement.changeAdvertisement db id change).ScoresWhole := by
    intro row hrow
    obtain ⟨old, hold, rfl⟩ := List.mem_map.mp hrow
    split
    · exact hscore old ▸ h old hold
    · exact h old hold
  cases hrevision with
  | addCategory => exact h
  | changeCategory => exact h
  | dropCategory => exact fun row hrow => h row (List.mem_filter.mp hrow).1
  | addAdvertisement hid hcheck hscore =>
      exact List.forall_mem_append.mpr ⟨h, List.forall_mem_singleton.mpr ⟨0, hscore⟩⟩
  | changeAdvertisement => exact hchange fun _ => rfl
  | setActive => exact hchange fun _ => rfl
  | dropAdvertisement => exact fun row hrow => h row (List.mem_filter.mp hrow).1
  | addModerator => exact h

/-- A sum of points is a 64-bit integer, or it is refused. -/
def Backend.SumsWhole (backend : Backend τ) : Prop :=
  ∀ (n delta : Int64) (score : Score), backend.addScore (.whole n) delta = .ok score →
    ∃ sum : Int64, score = .whole sum

theorem Backend.sumsWhole_server : Backend.server.SumsWhole := by
  intro n delta score hscore
  simp only [Backend.server, Score.addChecked] at hscore
  split at hscore
  · exact ⟨_, (Except.ok.inj hscore).symm⟩
  · contradiction

theorem Database.ScoresWhole.engagement (h : db.ScoresWhole)
    (hsums : session.backend.SumsWhole) (hengagement : Engagement session db after) :
    after.ScoresWhole := by
  have hset {rows : Database τ} {id : String} {advertisement : AdvertisementRow τ} {delta : Int64}
      {score : Score} (hsame : rows.advertisements = db.advertisements)
      (hadvertisement : db.advertisement? id = some advertisement)
      (hscore : session.backend.addScore advertisement.score delta = .ok score) :
      (setScore rows id score).ScoresWhole := by
    obtain ⟨n, hwhole⟩ := h advertisement (List.mem_of_find?_eq_some hadvertisement)
    rw [hwhole] at hscore
    intro row hrow
    obtain ⟨old, hold, rfl⟩ := List.mem_map.mp hrow
    split
    · exact hsums n delta score hscore
    · exact h old (hsame ▸ hold)
  cases hengagement with
  | addComment _ _ _ _ hadvertisement hscore => exact hset rfl hadvertisement hscore
  | removeComment _ hadvertisement hscore => exact hset rfl hadvertisement hscore
  | @react kind row advertisement score _ _ _ hadvertisement hscore _ =>
      exact hset (by cases kind <;> rfl) hadvertisement hscore

/-! ## Reading -/

/-- Tables in which nothing but a score can keep a row from being read. -/
structure Database.Orderly (backend : Backend τ) (db : Database τ) : Prop where
  consistent : db.Consistent
  stamped : db.Stamped backend

theorem Database.Orderly.changed (h : db.Orderly session.backend)
    (htimely : session.backend.Timely session.now) (hchanged : Changed session db after) :
    after.Orderly session.backend where
  consistent := h.consistent.changed hchanged
  stamped := h.stamped.changed ⟨session.now, htimely, rfl⟩ hchanged

/-- The score of an advertisement has left the 64-bit integers. -/
def Database.OffScale (db : Database τ) (id : String) : Prop :=
  ∃ row x, db.advertisement? id = some row ∧ row.score = .real x

instance (db : Database τ) (id : String) : Decidable (db.OffScale id) :=
  match hrow : db.advertisement? id with
  | none => isFalse fun ⟨_, _, hsome, _⟩ => by simp [hrow] at hsome
  | some row =>
      match hscore : row.score with
      | .real x => isTrue ⟨row, x, hrow, hscore⟩
      | .whole n => isFalse fun ⟨found, x, hfound, hreal⟩ => by
          obtain rfl : row = found := Option.some.inj (hrow.symm.trans hfound)
          rw [hscore] at hreal
          contradiction

theorem Database.ScoresWhole.not_offScale (h : db.ScoresWhole) (id : String) :
    ¬ db.OffScale id := by
  rintro ⟨row, x, hrow, hscore⟩
  obtain ⟨n, hwhole⟩ := h row (List.mem_of_find?_eq_some hrow)
  rw [hscore] at hwhole
  contradiction

/-- A record has what a row has. -/
structure AdvertisementRow.ShownBy (row : AdvertisementRow τ) (advertisement : Advertisement) :
    Prop where
  id : advertisement.id = row.id
  creatorId : advertisement.creatorId = row.creatorId
  isActive : advertisement.isActive = row.isActive
  score : row.score = .whole advertisement.score

theorem readAdvertisement_ok {row : AdvertisementRow τ} {n : Int64} (categoryName : String)
    (hscore : row.score = .whole n) (hcreated : backend.Stamps row.createdAt)
    (hupdated : backend.Stamps row.updatedAt) :
    ∃ advertisement, backend.readAdvertisement row categoryName = .ok advertisement := by
  obtain ⟨created, hcreated⟩ := hcreated.readStamp "created_at"
  obtain ⟨updated, hupdated⟩ := hupdated.readStamp "updated_at"
  simp [Backend.readAdvertisement, hscore, Score.read, hcreated, hupdated, bind, Except.bind,
    pure, Except.pure]

theorem readCategory_ok {row : CategoryRow τ} (h : db.Stamped backend)
    (hrow : row ∈ db.categories) : ∃ category, backend.readCategory row = .ok category := by
  obtain ⟨hcreated, hupdated⟩ := h.categories row hrow
  obtain ⟨created, hcreated⟩ := hcreated.readStamp "created_at"
  obtain ⟨updated, hupdated⟩ := hupdated.readStamp "updated_at"
  simp [Backend.readCategory, hcreated, hupdated, bind, Except.bind, pure, Except.pure]

theorem Database.Orderly.readJoined {row : AdvertisementRow τ} {n : Int64}
    (h : db.Orderly backend) (hrow : row ∈ db.advertisements) (hscore : row.score = .whole n) :
    ∃ advertisement, Store.readJoined backend db row = some (.ok advertisement) := by
  obtain ⟨hcreated, hupdated⟩ := h.stamped.advertisements row hrow
  obtain ⟨category, hcategory⟩ :=
    category?_of_hasCategory (h.consistent.advertisementReferences row hrow)
  obtain ⟨advertisement, hread⟩ := readAdvertisement_ok category.name hscore hcreated hupdated
  exact ⟨advertisement, by simp [Store.readJoined, hcategory, hread]⟩

/-- An advertisement that is there can be read, if its score can. -/
theorem getAdvertisement_ok {row : AdvertisementRow τ} {id : String}
    (h : db.Orderly session.backend) (hrow : db.advertisement? id = some row)
    (hscale : ¬ db.OffScale id) :
    ∃ advertisement, (getAdvertisement id session db).answer = .ok advertisement := by
  obtain ⟨n, hscore⟩ : ∃ n : Int64, row.score = .whole n := by
    cases hscore : row.score with
    | whole n => exact ⟨n, rfl⟩
    | real x => exact absurd ⟨row, x, hrow, hscore⟩ hscale
  obtain ⟨advertisement, hread⟩ := h.readJoined (List.mem_of_find?_eq_some hrow) hscore
  refine ⟨advertisement, ?_⟩
  simp [getAdvertisement, Action.query, hrow, hread]

theorem getComment_ok {row : CommentRow τ} {id : String} (h : db.Orderly session.backend)
    (hrow : db.comment? id = some row) :
    ∃ comment, (getComment id session db).answer = .ok comment := by
  obtain ⟨created, hcreated⟩ :=
    (h.stamped.comments row (List.mem_of_find?_eq_some hrow)).readStamp "created_at"
  simp [getComment, Action.query, hrow, Backend.readComment, hcreated, bind, Except.bind, pure,
    Except.pure]

theorem read_eq_ok {score : Score} {n : Int64} (hread : score.read = .ok n) : score = .whole n := by
  cases score with
  | whole m => exact congrArg Score.whole (Except.ok.inj hread)
  | real => simp [Score.read] at hread

/-- A record that was read is that of a row. -/
theorem getAdvertisement_eq_ok {id : String} {advertisement : Advertisement}
    (hread : (getAdvertisement id session db).answer = .ok advertisement) :
    ∃ row, db.advertisement? id = some row ∧ row.ShownBy advertisement := by
  simp only [getAdvertisement, Action.query] at hread
  split at hread
  next read hjoined =>
    obtain ⟨row, hrow, hcategory⟩ := Option.bind_eq_some_iff.mp hjoined
    simp only [readJoined, Option.map_eq_some_iff] at hcategory
    obtain ⟨category, -, rfl⟩ := hcategory
    simp only [Backend.readAdvertisement, bind_eq_ok, pure_eq_ok] at hread
    obtain ⟨score, hscore, _, -, _, -, rfl⟩ := hread
    exact ⟨row, hrow, rfl, rfl, rfl, read_eq_ok hscore⟩
  next => simp at hread

theorem AdvertisementRow.ShownBy.not_offScale {row : AdvertisementRow τ} {id : String}
    {advertisement : Advertisement} (h : row.ShownBy advertisement)
    (hrow : db.advertisement? id = some row) : ¬ db.OffScale id := by
  rintro ⟨found, x, hfound, hscore⟩
  obtain rfl : row = found := Option.some.inj (hrow.symm.trans hfound)
  have hsame : Score.real x = .whole advertisement.score := hscore.symm.trans h.score
  contradiction

theorem getComment_eq_ok {id : String} {comment : Comment}
    (hread : (getComment id session db).answer = .ok comment) :
    ∃ row, db.comment? id = some row ∧ comment.userId = row.userId ∧
      comment.advertisementId = row.advertisementId := by
  simp only [getComment, Action.query] at hread
  split at hread
  next row hrow =>
    simp only [Backend.readComment, bind_eq_ok, pure_eq_ok] at hread
    obtain ⟨_, -, rfl⟩ := hread
    exact ⟨row, hrow, rfl, rfl⟩
  next => simp at hread

end Noticeboard.Store
