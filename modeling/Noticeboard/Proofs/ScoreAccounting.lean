import Mathlib.Data.List.Infix
import Mathlib.Tactic.Ring
import Noticeboard.Proofs.Readable
import Noticeboard.Proofs.Run

/-!
# Score accounting

The score of an advertisement is never computed from its comments, likes and saves, yet it follows
them: what a score has beyond the points of the rows at its advertisement is the same after a run as
before it, and nothing for an advertisement of the run itself.

The invariant is `Accounted`.  Revisions keep it because they move no score and take the rows of a
dropped advertisement with it, engagements because they move row and score together.
-/

namespace Noticeboard

open Store

variable {τ : Type}

namespace Store.Database

def commentsAt (db : Database τ) (id : String) : Nat :=
  db.comments.countP fun row => row.advertisementId == id

def reactionsAt (db : Database τ) (kind : ReactionKind) (id : String) : Nat :=
  (db.reactions kind).countP fun row => row.advertisementId == id

end Store.Database

/-- The points of all comments, likes and saves at an advertisement. -/
def ScoreWeights.points (weights : ScoreWeights) (db : Database τ) (id : String) : Int :=
  weights.comment.toInt * db.commentsAt id + weights.like.toInt * db.reactionsAt .like id +
    weights.save.toInt * db.reactionsAt .save id

/-- Every score is the points of the rows at its advertisement on top of a base. -/
def Accounted (weights : ScoreWeights) (base : String → Int) (db : Database τ) : Prop :=
  ∀ row ∈ db.advertisements, ∃ n : Int64,
    row.score = .whole n ∧ n.toInt = base row.id + weights.points db row.id

/-! ## Points after a write -/

section Points

variable {weights : ScoreWeights} {db mid : Database τ} {id : String}

theorem points_setScore (other : String) (score : Score) :
    weights.points (setScore db other score) id = weights.points db id :=
  rfl

theorem points_addComment (row : CommentRow τ) :
    weights.points { db with comments := db.comments ++ [row] } id =
      weights.points db id +
        if row.advertisementId = id then (weights.delta .commentAdded).toInt else 0 := by
  have hcount : ({ db with comments := db.comments ++ [row] } : Database τ).commentsAt id =
      db.commentsAt id + if row.advertisementId = id then 1 else 0 := by
    by_cases hrow : row.advertisementId = id <;> simp [Database.commentsAt, hrow]
  have hreactions (kind : ReactionKind) :
      ({ db with comments := db.comments ++ [row] } : Database τ).reactionsAt kind id =
        db.reactionsAt kind id := by
    cases kind <;> rfl
  simp only [ScoreWeights.points, hcount, hreactions]
  split
  · simp only [ScoreWeights.delta]
    push_cast
    ring
  · simp

theorem points_addReaction (kind : ReactionKind) (row : ReactionRow τ) :
    weights.points (db.addReaction kind row) id =
      weights.points db id +
        if row.advertisementId = id then (weights.delta kind.event).toInt else 0 := by
  have hcomments : (db.addReaction kind row).commentsAt id = db.commentsAt id := by
    cases kind <;> rfl
  have hcount (other : ReactionKind) : (db.addReaction kind row).reactionsAt other id =
      db.reactionsAt other id +
        if other = kind ∧ row.advertisementId = id then 1 else 0 := by
    by_cases hother : other = kind
    · subst other
      by_cases hrow : row.advertisementId = id <;> simp [Database.reactionsAt, hrow]
    · simp [Database.reactionsAt, reactions_addReaction_of_ne hother, hother]
  simp only [ScoreWeights.points, hcomments, hcount]
  by_cases hrow : row.advertisementId = id
  · cases kind with
    | like =>
        simp only [hrow, ReactionKind.event, ScoreWeights.delta]
        push_cast
        simp
        ring
    | save =>
        simp only [hrow, ReactionKind.event, ScoreWeights.delta]
        push_cast
        simp
        ring
  · simp [hrow]

/-- Removing the one element of a key lowers a count by that element. -/
theorem countP_filter_add_of_find {α : Type} {key : α → String} {p : α → Bool} {wanted : String}
    {found : α} {l : List α} (hkeys : (l.map key).Nodup)
    (hfound : l.find? (fun a => key a == wanted) = some found) :
    (l.filter fun a => key a != wanted).countP p + (if p found then 1 else 0) = l.countP p := by
  induction l with
  | nil => simp at hfound
  | cons a rest ih =>
      simp only [List.map_cons, List.nodup_cons] at hkeys
      by_cases ha : key a = wanted
      · simp only [List.find?_cons, ha, beq_self_eq_true, Option.some.injEq] at hfound
        subst hfound
        have hrest : (rest.filter fun b => key b != wanted) = rest := by
          apply List.filter_eq_self.mpr
          intro b hb
          simp only [bne_iff_ne, ne_eq]
          intro hbkey
          exact hkeys.1 (List.mem_map.mpr ⟨b, hb, hbkey.trans ha.symm⟩)
        simp [ha, hrest, List.countP_cons]
      · have hskip : (key a == wanted) = false := by simpa using ha
        rw [List.find?_cons, hskip] at hfound
        have hcount := ih hkeys.2 hfound
        simp only [List.filter_cons, bne, hskip, Bool.not_false, if_true, List.countP_cons] at hcount ⊢
        omega

theorem delta_commentRemoved (hneg : Decimal.isInt64 (-weights.comment.toInt) = true) :
    (weights.delta .commentRemoved).toInt = -weights.comment.toInt := by
  simp only [ScoreWeights.delta]
  rw [← toInt_ofInt_of_isInt64 hneg, Int64.ofInt_neg, Int64.ofInt_toInt]

theorem points_removeComment {commentId : String} {row : CommentRow τ}
    (hneg : Decimal.isInt64 (-weights.comment.toInt) = true)
    (hkeys : (db.comments.map CommentRow.id).Nodup) (hrow : db.comment? commentId = some row) :
    weights.points { db with comments := db.comments.filter fun row => row.id != commentId } id =
      weights.points db id +
        if row.advertisementId = id then (weights.delta .commentRemoved).toInt else 0 := by
  have hcount : ({ db with comments := db.comments.filter fun row => row.id != commentId } :
      Database τ).commentsAt id + (if row.advertisementId = id then 1 else 0) =
        db.commentsAt id := by
    simpa [Database.commentsAt] using
      countP_filter_add_of_find (p := fun row => row.advertisementId == id) hkeys hrow
  have hreactions (kind : ReactionKind) :
      ({ db with comments := db.comments.filter fun row => row.id != commentId } :
        Database τ).reactionsAt kind id = db.reactionsAt kind id := by
    cases kind <;> rfl
  rw [delta_commentRemoved hneg]
  simp only [ScoreWeights.points, hreactions, ← hcount]
  split
  · push_cast
    ring
  · simp

/-- Rows that a deletion spares keep their points. -/
theorem points_dropAdvertisements {gone : String → Bool} (hkept : gone id = false) :
    weights.points (db.dropAdvertisements gone) id = weights.points db id := by
  have hspared (other : String) : (other == id && !gone other) = (other == id) := by
    by_cases hother : other = id
    · simp [hother, hkept]
    · simp [hother]
  have hcomments : (db.dropAdvertisements gone).commentsAt id = db.commentsAt id := by
    simp [Database.commentsAt, Database.dropAdvertisements, List.countP_filter, hspared]
  have hreactions (kind : ReactionKind) :
      (db.dropAdvertisements gone).reactionsAt kind id = db.reactionsAt kind id := by
    simp [Database.reactionsAt, List.countP_filter, hspared]
  simp [ScoreWeights.points, hcomments, hreactions]

/-- No row refers to an advertisement that is not there. -/
theorem points_of_absent (h : db.Consistent) (habsent : db.hasAdvertisement id = false) :
    weights.points db id = 0 := by
  have hother {other : String} (hpresent : db.hasAdvertisement other = true) : other ≠ id := by
    rintro rfl
    rw [habsent] at hpresent
    contradiction
  have hcomments : db.commentsAt id = 0 := by
    simpa [Database.commentsAt, List.countP_eq_zero] using fun row hrow =>
      hother (h.commentReferences row hrow)
  have hreactions (kind : ReactionKind) : db.reactionsAt kind id = 0 := by
    simpa [Database.reactionsAt, List.countP_eq_zero] using fun row hrow =>
      hother (h.reactionReferences kind row hrow)
  simp [ScoreWeights.points, hcomments, hreactions]

end Points

/-! ## The invariant -/

namespace Accounted

variable {session : Session τ} {weights : ScoreWeights} {base : String → Int}
  {db mid after : Database τ} {id : String}

/-- Rows whose points are unchanged stay accounted for. -/
theorem of_same_points (h : Accounted weights base db)
    (hrows : ∀ row ∈ after.advertisements, ∃ old ∈ db.advertisements,
      old.id = row.id ∧ old.score = row.score ∧
        weights.points after row.id = weights.points db row.id) :
    Accounted weights base after := by
  intro row hrow
  obtain ⟨old, hold, hid, hscore, hpoints⟩ := hrows row hrow
  rw [hpoints, ← hscore, ← hid]
  exact h old hold

theorem changeAdvertisement (h : Accounted weights base db)
    {change : AdvertisementRow τ → AdvertisementRow τ}
    (hid : ∀ row, (change row).id = row.id) (hscore : ∀ row, (change row).score = row.score) :
    Accounted weights base (Statement.changeAdvertisement db id change) := by
  apply h.of_same_points
  intro row hrow
  obtain ⟨old, hold, rfl⟩ := List.mem_map.mp hrow
  refine ⟨old, hold, ?_, ?_, rfl⟩
  · split <;> simp [hid]
  · split <;> simp [hscore]

theorem dropAdvertisements (h : Accounted weights base db) (gone : String → Bool) :
    Accounted weights base (db.dropAdvertisements gone) := by
  apply h.of_same_points
  intro row hrow
  obtain ⟨hold, hkept⟩ := List.mem_filter.mp hrow
  exact ⟨row, hold, rfl, rfl, points_dropAdvertisements (by simpa using hkept)⟩

theorem revision (h : Accounted weights base db) (hconsistent : db.Consistent)
    (hfresh : base session.ids.advertisement = 0) (hrevision : Revision session db after) :
    Accounted weights base after := by
  cases hrevision with
  | addCategory => exact h.of_same_points fun row hrow => ⟨row, hrow, rfl, rfl, rfl⟩
  | changeCategory => exact h.of_same_points fun row hrow => ⟨row, hrow, rfl, rfl, rfl⟩
  | dropCategory id => exact h.dropAdvertisements (db.isIn id)
  | @addAdvertisement added hid hcheck hscore hactive hcreated hupdated hnew hcategory =>
      intro row hrow
      rcases List.mem_append.mp hrow with hold | hadded
      · exact h row hold
      · obtain rfl := List.mem_singleton.mp hadded
        have hbase : base row.id = 0 := hid ▸ hfresh
        have hpoints : weights.points db row.id = 0 := points_of_absent hconsistent hnew
        refine ⟨0, hscore, ?_⟩
        show Int64.toInt 0 = base row.id + weights.points db row.id
        rw [hbase, hpoints]
        rfl
  | changeAdvertisement => exact h.changeAdvertisement (fun _ => rfl) fun _ => rfl
  | setActive => exact h.changeAdvertisement (fun _ => rfl) fun _ => rfl
  | dropAdvertisement id => exact h.dropAdvertisements _
  | addModerator => exact h.of_same_points fun row hrow => ⟨row, hrow, rfl, rfl, rfl⟩

/-- The points of one row that comes or goes, added to the score of its advertisement. -/
theorem moveScore {backend : Backend τ} {advertisement : AdvertisementRow τ} {delta : Int64}
    {score : Score} (h : Accounted weights base db) (hbackend : backend.Supplied)
    (hadvertisements : mid.advertisements = db.advertisements)
    (hadvertisement : db.advertisement? id = some advertisement)
    (hscore : backend.addScore advertisement.score delta = .ok score)
    (hpoints : ∀ other, weights.points mid other =
      weights.points db other + if id = other then delta.toInt else 0)
    (hfits : ∀ row ∈ (setScore mid id score).advertisements,
      Decimal.isInt64 (base row.id + weights.points mid row.id) = true) :
    Accounted weights base (setScore mid id score) := by
  intro row hrow
  have hthis := hfits row hrow
  obtain ⟨old, hold, rfl⟩ := List.mem_map.mp hrow
  rw [hadvertisements] at hold
  rw [points_setScore]
  by_cases hid : old.id = id
  · obtain ⟨n, hn, hexact⟩ := h advertisement (List.mem_of_find?_eq_some hadvertisement)
    have hsame : advertisement.id = id := key_eq_of_find? hadvertisement
    simp only [hid, if_true, hpoints] at hthis ⊢
    rw [hsame] at hexact
    rw [← Int.add_assoc, ← hexact] at hthis ⊢
    exact hbackend.addScore_whole (hn ▸ hscore) hthis
  · have hother : id ≠ old.id := fun heq => hid heq.symm
    simpa [hid, hpoints, hother] using h old hold

theorem engagement (h : Accounted session.weights base db) (hconsistent : db.Consistent)
    (hbackend : session.backend.Supplied)
    (hneg : Decimal.isInt64 (-session.weights.comment.toInt) = true)
    (hengagement : Engagement session db after)
    (hfits : ∀ row ∈ after.advertisements,
      Decimal.isInt64 (base row.id + session.weights.points after row.id) = true) :
    Accounted session.weights base after := by
  cases hengagement with
  | addComment hid hcontent hcreated hnew hadvertisement hscore =>
      exact h.moveScore hbackend rfl hadvertisement hscore (fun _ => points_addComment _) hfits
  | removeComment hrow hadvertisement hscore =>
      exact h.moveScore hbackend rfl hadvertisement hscore
        (fun _ => points_removeComment hneg hconsistent.commentIds hrow) hfits
  | @react kind row advertisement score hid hnew honce hadvertisement hscore =>
      have hsame : (db.addReaction kind row).advertisements = db.advertisements := by
        cases kind <;> rfl
      exact h.moveScore hbackend hsame hadvertisement hscore
        (fun _ => points_addReaction kind row) hfits

theorem changed (h : Accounted session.weights base db) (hconsistent : db.Consistent)
    (hbackend : session.backend.Supplied)
    (hneg : Decimal.isInt64 (-session.weights.comment.toInt) = true)
    (hfresh : base session.ids.advertisement = 0) (hchanged : Changed session db after)
    (hfits : ∀ row ∈ after.advertisements,
      Decimal.isInt64 (base row.id + session.weights.points after row.id) = true) :
    Accounted session.weights base after := by
  rcases hchanged with hrevisions | hlast
  · -- a revision needs no fit, but it needs the ids of the tables that it starts from
    suffices hboth : Accounted session.weights base after ∧ after.Consistent from hboth.1
    clear hfits
    induction hrevisions with
    | refl => exact ⟨h, hconsistent⟩
    | tail _ hlast ih => exact ⟨ih.1.revision ih.2 hfresh hlast, ih.2.revision hlast⟩
  · exact h.engagement hconsistent hbackend hneg hlast hfits

end Accounted

/-! ## Runs -/

/-- What the score of an advertisement has beyond the points of the rows there, or nothing if there
is no such advertisement. -/
def ScoreWeights.surplus (weights : ScoreWeights) (db : Database τ) (id : String) : Int :=
  match (db.advertisement? id).map AdvertisementRow.score with
  | some (.whole n) => n.toInt - weights.points db id
  | _ => 0

section Runs

variable {weights : ScoreWeights} {start : Database τ} {board : Board τ} {turns : List Turn}

theorem surplus_of_mem {row : AdvertisementRow τ} {n : Int64} (h : start.Consistent)
    (hrow : row ∈ start.advertisements) (hscore : row.score = .whole n) :
    weights.surplus start row.id = n.toInt - weights.points start row.id := by
  simp [ScoreWeights.surplus, advertisement?_of_mem h hrow, hscore]

theorem surplus_of_absent {id : String} (habsent : start.hasAdvertisement id = false) :
    weights.surplus start id = 0 := by
  have hnone : start.advertisement? id = none := by
    simpa [Database.advertisement?, Database.hasAdvertisement] using habsent
  simp [ScoreWeights.surplus, hnone]

theorem accounted_surplus (h : start.Consistent) (hwhole : start.ScoresWhole) :
    Accounted weights (weights.surplus start) start := by
  intro row hrow
  obtain ⟨n, hscore⟩ := hwhole row hrow
  refine ⟨n, hscore, ?_⟩
  rw [surplus_of_mem h hrow hscore]
  omega

/-- As long as no score would leave the 64-bit integers, scores stay accounted for. -/
theorem run_accounted (hbackend : board.backend.Supplied) (hconsistent : start.Consistent)
    (hwhole : start.ScoresWhole)
    (hfresh : ∀ turn ∈ turns, start.hasAdvertisement turn.ids.advertisement = false)
    (hneg : Decimal.isInt64 (-board.weights.comment.toInt) = true)
    (hfits : ∀ part, part <+: turns → ∀ row ∈ (board.run start part).advertisements,
      Decimal.isInt64 (board.weights.surplus start row.id +
        board.weights.points (board.run start part) row.id) = true) :
    Accounted board.weights (board.weights.surplus start) (board.run start turns) := by
  -- by the last turn, since a score has to fit after every part of the run from its start
  induction turns using List.reverseRecOn with
  | nil => exact accounted_surplus hconsistent hwhole
  | append_singleton turns turn ih =>
      have hearlier : Accounted board.weights (board.weights.surplus start)
          (board.run start turns) := by
        apply ih
        · exact fun earlier hmem => hfresh earlier (List.mem_append_left _ hmem)
        · exact fun part hpart => hfits part (hpart.trans (List.prefix_append _ _))
      have hnow := hfits _ (List.prefix_refl _)
      rw [Board.run_concat] at hnow ⊢
      have hweights : Accounted (board.session turn).weights (board.weights.surplus start)
          (board.run start turns) := hearlier
      exact hweights.changed (Board.run_consistent hconsistent turns) hbackend hneg
        (surplus_of_absent (hfresh turn (by simp))) (Board.perform_settled turn _).changed hnow

/-- A run moves the score of an advertisement exactly by the points of the rows that came and went
there, and a score that the run opened is the points of the rows there.  The exact scores must fit
throughout, and the ids of new advertisements must not be those of old ones. -/
theorem run_scores_follow_rows (hbackend : board.backend.Supplied)
    (hconsistent : start.Consistent) (hwhole : start.ScoresWhole)
    (hfresh : ∀ turn ∈ turns, start.hasAdvertisement turn.ids.advertisement = false)
    (hneg : Decimal.isInt64 (-board.weights.comment.toInt) = true)
    (hfits : ∀ part, part <+: turns → ∀ row ∈ (board.run start part).advertisements,
      Decimal.isInt64 (board.weights.surplus start row.id +
        board.weights.points (board.run start part) row.id) = true) :
    ∀ row ∈ (board.run start turns).advertisements, ∃ n : Int64, row.score = .whole n ∧
      (∀ old ∈ start.advertisements, old.id = row.id → ∃ m : Int64, old.score = .whole m ∧
        n.toInt - board.weights.points (board.run start turns) row.id =
          m.toInt - board.weights.points start row.id) ∧
      (start.hasAdvertisement row.id = false →
        n.toInt - board.weights.points (board.run start turns) row.id = 0) := by
  intro row hrow
  obtain ⟨n, hscore, hexact⟩ :=
    run_accounted hbackend hconsistent hwhole hfresh hneg hfits row hrow
  refine ⟨n, hscore, fun old hold hid => ?_, fun habsent => ?_⟩
  · obtain ⟨m, hm⟩ := hwhole old hold
    refine ⟨m, hm, ?_⟩
    rw [← hid, surplus_of_mem hconsistent hold hm] at hexact
    rw [← hid]
    omega
  · rw [surplus_of_absent habsent] at hexact
    omega

end Runs

/-- A board with one advertisement, whose score is not that of its one comment. -/
def sampleStart : Database Time.Instant where
  categories := [⟨"c", "bikes", none, sampleNow, sampleNow⟩]
  advertisements :=
    [⟨"a", "Road bike", none, "ann", 25000, "c", .whole 7, true, sampleNow, sampleNow⟩]
  comments := [⟨"m", "a", "bob", "Still there?", sampleNow⟩]

/-- A like that is refused when it is repeated, a comment that goes, and a new advertisement with a
comment and a save. -/
def sampleTurns : List Turn :=
  [sampleTurn "1" (.store (.likeAdvertisement "bob" "a")),
    sampleTurn "2" (.store (.likeAdvertisement "bob" "a")),
    sampleTurn "3" (.store (.deleteComment "m")),
    sampleTurn "4" (.store (.createAdvertisement "bob" ⟨⟨"Bell", none, 300⟩, "c"⟩)),
    sampleTurn "5" (.store (.addComment ⟨"a4", "ann", "Loud?"⟩)),
    sampleTurn "6" (.store (.saveAdvertisement "ann" "a4"))]

theorem sampleStart_consistent : sampleStart.Consistent where
  categoryIds := by decide
  categoryNames := by decide
  advertisementIds := by decide
  moderatorKeys := by decide
  commentIds := by decide
  reactionIds := by rintro (_ | _) <;> decide
  reactionKeys := by rintro (_ | _) <;> decide
  advertisementReferences := by decide
  moderatorReferences := by decide
  commentReferences := by decide
  reactionReferences := by rintro (_ | _) <;> decide

theorem sample_scores_follow_rows :
    (∃ row, (sampleBoard.run sampleStart sampleTurns).advertisement? "a" = some row ∧
      ∃ n : Int64, row.score = .whole n ∧
        n.toInt - sampleBoard.weights.points (sampleBoard.run sampleStart sampleTurns) "a" =
          7 - sampleBoard.weights.points sampleStart "a") ∧
    (∃ row, (sampleBoard.run sampleStart sampleTurns).advertisement? "a4" = some row ∧
      ∃ n : Int64, row.score = .whole n ∧
        n.toInt - sampleBoard.weights.points (sampleBoard.run sampleStart sampleTurns) "a4" =
          0) := by
  have hwhole : sampleStart.ScoresWhole := by
    intro row hrow
    obtain rfl := List.mem_singleton.mp hrow
    exact ⟨7, rfl⟩
  have hfits : ∀ part ∈ sampleTurns.inits,
      ∀ row ∈ (sampleBoard.run sampleStart part).advertisements,
        Decimal.isInt64 (sampleBoard.weights.surplus sampleStart row.id +
          sampleBoard.weights.points (sampleBoard.run sampleStart part) row.id) = true := by
    decide +kernel
  have hrun := run_scores_follow_rows .server sampleStart_consistent hwhole
    (by decide : ∀ turn ∈ sampleTurns, _) (by decide)
    fun part hpart => hfits part ((List.mem_inits part sampleTurns).mpr hpart)
  constructor
  · have hrow : (sampleBoard.run sampleStart sampleTurns).advertisement? "a" = some
        ⟨"a", "Road bike", none, "ann", 25000, "c", .whole 8, true, sampleNow, sampleNow⟩ := rfl
    obtain ⟨n, hn, hold, -⟩ := hrun _ (List.mem_of_find?_eq_some hrow)
    obtain ⟨m, hm, hsame⟩ := hold _ (List.mem_singleton.mpr rfl) rfl
    obtain rfl := Score.whole.inj hm
    exact ⟨_, hrow, n, hn, hsame⟩
  · have hrow : (sampleBoard.run sampleStart sampleTurns).advertisement? "a4" = some
        ⟨"a4", "Bell", none, "bob", 300, "c", .whole 1, false, sampleNow, sampleNow⟩ := rfl
    obtain ⟨n, hn, -, hnew⟩ := hrun _ (List.mem_of_find?_eq_some hrow)
    exact ⟨_, hrow, n, hn, hnew rfl⟩

end Noticeboard
