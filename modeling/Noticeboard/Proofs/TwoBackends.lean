import Noticeboard.Proofs.Alongside
import Noticeboard.Proofs.ScoreLimits

/-!
# Both kinds of database implement the same store

An embedded database and a server that are given the same operations answer the same and hold the
same rows.  Writes do not look at times, and points are added alike within the 64-bit integers.
Only the patch of a category is written differently for the two.

A search for a category by its name is left out, since the two compare names differently.
-/

namespace Noticeboard

open Store

namespace Store

variable {α β : Type} {e : Session String} {s : Session Time.Instant}
  {db : Database Time.Instant}

/-! ## Operations -/

section Operations

variable (h : Alongside e s)

include h

theorem insertCategory_mirrors (draft : CategoryDraft) :
    (insertCategory draft e db.stored).Mirrors (insertCategory draft s db) := by
  unfold insertCategory
  apply ofExcept_bind_mirrors
  intro name _
  apply session_bind_mirrors
  apply execute_bind_mirrors
  · rw [h.triggers, h.ids, h.stamp_embedded]
    exact Statement.insertCategory_mapTimes
      ⟨s.ids.category, name, draft.description, s.backend.stamp s.now, s.backend.stamp s.now⟩
  · intro _ after _
    rw [h.ids, h.now]
    exact pure_mirrors rfl

theorem deleteCategory_mirrors (id : String) :
    (deleteCategory id e db.stored).Mirrors (deleteCategory id s db) := by
  unfold deleteCategory
  apply execute_bind_mirrors
  · rw [h.triggers]
    exact Statement.deleteCategory_mapTimes id
  · exact fun _ _ _ => expectRow_mirrors

theorem insertAdvertisement_mirrors (creatorId : String) (category : Category)
    (draft : AdvertisementDraft) :
    (insertAdvertisement creatorId category draft e db.stored).Mirrors
      (insertAdvertisement creatorId category draft s db) := by
  unfold insertAdvertisement
  apply session_bind_mirrors
  apply execute_bind_mirrors
  · rw [h.triggers, h.ids, h.stamp_embedded]
    exact Statement.insertAdvertisement_mapTimes
      { id := s.ids.advertisement
        title := draft.title
        description := draft.description
        creatorId
        priceCents := draft.priceCents
        categoryId := category.id
        score := .whole 0
        isActive := false
        createdAt := s.backend.stamp s.now
        updatedAt := s.backend.stamp s.now }
  · intro _ after _
    rw [h.ids, h.now]
    exact pure_mirrors rfl

theorem createAdvertisement_mirrors (hdb : db.AllTimes Time.Instant.Storable) (creatorId : String)
    (placed : PlacedDraft) :
    (createAdvertisement creatorId placed e db.stored).Mirrors
      (createAdvertisement creatorId placed s db) := by
  unfold createAdvertisement
  apply ofExcept_bind_mirrors
  intro _ _
  apply (getCategory_reads _).bind_mirrors (getCategory_reads _) (h.getCategory hdb _)
  exact fun category _ => insertAdvertisement_mirrors h creatorId category placed.draft

theorem createAdvertisementWithCategory_mirrors (creatorId : String) (category : CategoryDraft)
    (draft : AdvertisementDraft) :
    (createAdvertisementWithCategory creatorId category draft e db.stored).Mirrors
      (createAdvertisementWithCategory creatorId category draft s db) := by
  unfold createAdvertisementWithCategory
  apply ofExcept_bind_mirrors
  intro _ _
  apply transaction_mirrors
  apply Action.pairs_bind
  apply (insertCategory_mirrors h category).mono
  · rintro created created' between between' ⟨rfl, rfl⟩
    exact insertAdvertisement_mirrors h creatorId created draft
  · exact fun _ _ _ _ hsame => hsame

/-- The write of an advertisement, and the read that follows it. -/
theorem writeAdvertisement_mirrors (hdb : db.AllTimes Time.Instant.Storable) {title : String}
    {priceCents : Int64} (hcheck : checkAdvertisement title priceCents = .ok ())
    (id : String) (description : Option String) (categoryId : String) :
    ((do
      let session ← Action.session
      let _ ← Action.execute (Statement.updateAdvertisement id title description priceCents
        categoryId (session.backend.stamp session.now)) .database
      getAdvertisement id) e db.stored).Mirrors
    ((do
      let session ← Action.session
      let _ ← Action.execute (Statement.updateAdvertisement id title description priceCents
        categoryId (session.backend.stamp session.now)) .database
      getAdvertisement id) s db) := by
  apply session_bind_mirrors
  apply execute_bind_mirrors
  · rw [h.triggers, h.stamp_embedded]
    exact Statement.updateAdvertisement_mapTimes id title description priceCents categoryId _
  · intro found after hrun
    have hafter : after.AllTimes Time.Instant.Storable := by
      rcases Statement.updateAdvertisement_eq_ok_iff.mp hrun with
        ⟨-, -, hcategory, -, rfl⟩ | ⟨-, -, rfl⟩
      · exact hdb.revision h.storable_stamp (.changeAdvertisement hcheck hcategory)
      · exact hdb
    exact (getAdvertisement_reads id).mirrors (getAdvertisement_reads id)
      (h.getAdvertisement hafter id)

theorem updateAdvertisement_mirrors (hdb : db.AllTimes Time.Instant.Storable) (id : String)
    (patch : AdvertisementPatch) :
    (updateAdvertisement id patch e db.stored).Mirrors (updateAdvertisement id patch s db) := by
  unfold updateAdvertisement
  apply (getAdvertisement_reads id).bind_mirrors (getAdvertisement_reads id)
    (h.getAdvertisement hdb id)
  intro existing _
  apply ofExcept_bind_mirrors
  intro _ hcheck
  cases patch.categoryId with
  | none =>
      apply Action.pairs_bind
      apply Action.pairs_pure
      exact writeAdvertisement_mirrors h hdb hcheck id _ existing.categoryId
  | some categoryId =>
      apply (getCategory_reads _).bind_mirrors (getCategory_reads _) (h.getCategory hdb _)
      intro category _
      apply Action.pairs_bind
      apply Action.pairs_pure
      exact writeAdvertisement_mirrors h hdb hcheck id _ category.id

theorem setAdvertisementActive_mirrors (hdb : db.AllTimes Time.Instant.Storable) (id : String)
    (active : Bool) :
    (setAdvertisementActive id active e db.stored).Mirrors
      (setAdvertisementActive id active s db) := by
  unfold setAdvertisementActive
  apply session_bind_mirrors
  apply execute_bind_mirrors
  · rw [h.triggers, h.stamp_embedded]
    exact Statement.setActive_mapTimes id active _
  · intro found after hrun
    have hafter : after.AllTimes Time.Instant.Storable := by
      rcases Statement.setActive_eq_ok_iff.mp hrun with ⟨-, -, rfl⟩ | ⟨-, -, rfl⟩
      · exact hdb.revision h.storable_stamp (.setActive id active)
      · exact hdb
    apply Action.pairs_bind
    apply Action.pairs_expectRow
    · intro _
      exact (getAdvertisement_reads id).mirrors (getAdvertisement_reads id)
        (h.getAdvertisement hafter id)
    · exact fun _ => rfl

theorem deleteAdvertisement_mirrors (id : String) :
    (deleteAdvertisement id e db.stored).Mirrors (deleteAdvertisement id s db) := by
  unfold deleteAdvertisement
  apply execute_bind_mirrors
  · rw [h.triggers]
    exact Statement.deleteAdvertisement_mapTimes id
  · exact fun _ _ _ => expectRow_mirrors

theorem addModerator_mirrors (advertisementId userId : String) :
    (addModerator advertisementId userId e db.stored).Mirrors
      (addModerator advertisementId userId s db) := by
  unfold addModerator
  apply execute_mirrors
  rw [h.triggers]
  exact Statement.insertModerator_mapTimes _

/-! ## Points -/

omit h in
theorem addScore_congr {add add' : Score → Except DatabaseFault Score} {id : String}
    {triggers : Triggers} {tables : Database String}
    (hadd : ∀ row, tables.advertisement? id = some row → add row.score = add' row.score) :
    Statement.addScore add id triggers tables = Statement.addScore add' id triggers tables := by
  unfold Statement.addScore
  cases hrow : tables.advertisement? id with
  | none => rfl
  | some row => simp only [hadd row hrow]

theorem increment_mirrors {event : ScoreEvent} (hbears : db.Bears s.weights event) :
    (increment event.advertisementId (s.weights.delta event.kind) e db.stored).Mirrors
      (increment event.advertisementId (s.weights.delta event.kind) s db) := by
  have hadd (row : AdvertisementRow String)
      (hrow : db.stored.advertisement? event.advertisementId = some row) :
      e.backend.addScore row.score (s.weights.delta event.kind) =
        s.backend.addScore row.score (s.weights.delta event.kind) := by
    rw [Database.stored, advertisement?_mapTimes, Option.map_eq_some_iff] at hrow
    obtain ⟨old, hold, rfl⟩ := hrow
    obtain ⟨n, hscore, hfits⟩ := hbears old hold
    have hsame : (old.mapTimes Time.Instant.storedText).score = .whole n := hscore
    rw [hsame, h.embedded, h.server, Backend.Supplied.embedded.addScore_eq hfits,
      Backend.Supplied.server.addScore_eq hfits]
  unfold increment
  apply session_bind_mirrors
  apply execute_bind_mirrors
  · rw [h.triggers, ← Statement.addScore_mapTimes]
    exact addScore_congr hadd
  · exact fun _ _ _ => expectRow_mirrors

theorem applyEvent_mirrors {event : ScoreEvent} (hbears : db.Bears s.weights event) :
    (applyEvent event e db.stored).Mirrors (applyEvent event s db) := by
  unfold applyEvent
  apply session_bind_mirrors
  rw [h.weights]
  apply mirrors_bind
  · exact Action.pairs_reporting (increment_mirrors h hbears)
  · exact fun _ _ => pure_mirrors rfl

theorem addComment_mirrors {draft : CommentDraft} (hfits : (Command.addComment draft).Fits s db) :
    (addComment draft e db.stored).Mirrors (addComment draft s db) := by
  unfold addComment
  apply ofExcept_bind_mirrors
  intro _ hcontent
  apply session_bind_mirrors
  apply transaction_mirrors
  apply execute_bind_mirrors
  · rw [h.triggers, h.ids, h.stamp_embedded]
    exact Statement.insertComment_mapTimes
      ⟨s.ids.comment, draft.advertisementId, draft.userId, draft.content, s.backend.stamp s.now⟩
  · intro _ after hwrite
    have hbears : after.Bears s.weights ⟨.commentAdded, draft.advertisementId⟩ :=
      hfits _ _ (.addComment hcontent hwrite)
    apply mirrors_bind (applyEvent_mirrors h hbears)
    intro _ _
    rw [h.ids, h.now]
    exact pure_mirrors rfl

theorem deleteComment_mirrors {id : String} (hfits : (Command.deleteComment id).Fits s db) :
    (deleteComment id e db.stored).Mirrors (deleteComment id s db) := by
  unfold deleteComment
  apply transaction_mirrors
  apply execute_bind_mirrors
  · rw [h.triggers]
    exact Statement.deleteComment_mapTimes id
  · intro found after hwrite
    cases found with
    | some advertisementId =>
        have hbears : after.Bears s.weights ⟨.commentRemoved, advertisementId⟩ :=
          hfits _ _ (.deleteComment hwrite)
        apply mirrors_bind (applyEvent_mirrors h hbears)
        exact fun _ _ => pure_mirrors rfl
    | none => exact Action.pairs_fail rfl

theorem react_mirrors {kind : ReactionKind} {userId advertisementId : String}
    (hbears : ∀ after, Statement.insertReaction kind
      ⟨kind.freshId s.ids, userId, advertisementId, s.stamp⟩ s.triggers db = .ok ((), after) →
        after.Bears s.weights ⟨kind.event, advertisementId⟩) :
    (react kind userId advertisementId e db.stored).Mirrors
      (react kind userId advertisementId s db) := by
  unfold react
  apply session_bind_mirrors
  rw [h.ids, h.stamp_embedded, h.now]
  apply transaction_mirrors
  apply execute_bind_mirrors
  · rw [h.triggers]
    exact Statement.insertReaction_mapTimes kind
      ⟨kind.freshId s.ids, userId, advertisementId, s.backend.stamp s.now⟩
  · intro _ after hwrite
    apply mirrors_bind (applyEvent_mirrors h (hbears after hwrite))
    exact fun _ _ => pure_mirrors rfl

/-! ## The patch of a category

The embedded database reads the category, merges the patch into it and answers what it put together;
the server patches the row and answers what it then finds there. -/

omit h in
theorem patchedName_eq_mapM (patch : CategoryPatch) (existing : String) :
    patchedName patch existing =
      (patch.name.mapM normalizeCategoryName).map fun name => name.getD existing := by
  unfold patchedName
  cases patch.name with
  | none => rfl
  | some given =>
      rw [Option.mapM_some]
      show normalizeCategoryName given = _
      cases normalizeCategoryName given with
      | ok name => rfl
      | error failure => rfl

omit h in
theorem mergeCategory_missing {tables : Database String} {id : String}
    (hmissing : tables.category? id = none) (patch : CategoryPatch) :
    (mergeCategory id patch e tables).Fails (.noCategory id) tables := by
  have hread : (getCategory id e tables).answer = .error (.noCategory id) := by
    simp only [getCategory, Action.query, lookUpCategory, hmissing]
  unfold mergeCategory
  rw [Outcome.fails_iff_meets, Action.meets_bind, (getCategory_reads id).meets_iff, hread]
  constructor
  · intro _ hok
    contradiction
  · intro _ herror
    exact ⟨(Except.error.inj herror).symm, rfl⟩

omit h in
theorem patchCategory_missing {id : String} (hmissing : db.category? id = none)
    (patch : CategoryPatch) :
    (patchCategory id patch s db).Fails
      (match patch.name.mapM normalizeCategoryName with
      | .error failure => failure
      | .ok _ => .noCategory id) db := by
  have hwrite (name : Option String) (stamp : Time.Instant) :
      Statement.patchCategory id name patch.description stamp s.triggers db = .ok (none, db) := by
    simp only [Statement.patchCategory, hmissing]
    rfl
  unfold patchCategory
  rw [Outcome.fails_iff_meets]
  cases patch.name.mapM normalizeCategoryName with
  | error failure => simp
  | ok name => simp [hwrite]

omit h in
theorem patchCategory_of_category? {id : String} {row : CategoryRow Time.Instant}
    (hrow : db.category? id = some row) (name : Option String) (description : Edit String)
    (updatedAt : Time.Instant) (triggers : Triggers) :
    Statement.patchCategory id name description updatedAt triggers db =
      (Statement.updateCategory id (name.getD row.name) (description.apply row.description)
        updatedAt triggers db).map fun written =>
          (some { row with
            name := name.getD row.name
            description := description.apply row.description
            updatedAt }, written.2) := by
  unfold Statement.patchCategory
  rw [hrow]
  dsimp only
  cases Statement.updateCategory id (name.getD row.name) (description.apply row.description)
    updatedAt triggers db with
  | ok written => rfl
  | error fault => rfl

omit h in
theorem readCategory_server (hserver : s.backend = .server) (row : CategoryRow Time.Instant) :
    s.backend.readCategory row =
      .ok ⟨row.id, row.name, row.description, row.createdAt, row.updatedAt⟩ := by
  rw [hserver]
  rfl

/-- A category that is there is merged or patched into the same row. -/
theorem patchCategory_mirrors (hdb : db.AllTimes Time.Instant.Storable) {id : String}
    {row : CategoryRow Time.Instant} (hrow : db.category? id = some row) (patch : CategoryPatch) :
    (mergeCategory id patch e db.stored).Mirrors (patchCategory id patch s db) := by
  have hread : (getCategory id e db.stored).answer =
      .ok ⟨row.id, row.name, row.description, row.createdAt, row.updatedAt⟩ := by
    rw [h.getCategory hdb, getCategory, Action.query, lookUpCategory, hrow]
    exact readCategory_server h.server row
  unfold mergeCategory patchCategory
  apply ((getCategory_reads id).bind_agrees hread ⟨rfl, rfl⟩).pairs
  apply Action.pairs_bind
  apply Action.pairs_ofExcept
  rw [patchedName_eq_mapM]
  cases patch.name.mapM normalizeCategoryName with
  | error failure => exact paired_error rfl
  | ok name =>
      apply paired_ok
      apply session_bind_mirrors
      apply Action.pairs_bind
      apply Action.pairs_execute
      rw [h.triggers, h.stamp_embedded, Database.stored, Statement.updateCategory_mapTimes,
        patchCategory_of_category? hrow]
      cases Statement.updateCategory id (name.getD row.name)
          (patch.description.apply row.description) (s.backend.stamp s.now) s.triggers db with
      | error fault => exact paired_error rfl
      | ok written =>
          apply paired_ok
          have hanswers (answer : Category) :
              (Action.ofExcept (.ok answer) : Action Time.Instant Category) = pure answer :=
            rfl
          dsimp only
          rw [readCategory_server h.server, hanswers, h.stamp_server, h.now]
          exact pure_mirrors rfl

theorem updateCategory_mirrors (hdb : db.AllTimes Time.Instant.Storable) (id : String)
    (patch : CategoryPatch) :
    (updateCategory id patch e db.stored).Mirrors (updateCategory id patch s db) := by
  have hmerges : e.backend.patchesInPlace = false := by rw [h.embedded]; rfl
  have hpatches : s.backend.patchesInPlace = true := by rw [h.server]; rfl
  unfold updateCategory
  apply session_bind_mirrors
  rw [hmerges, hpatches]
  show (mergeCategory id patch e db.stored).Mirrors (patchCategory id patch s db)
  cases hrow : db.category? id with
  | none =>
      have hmissing : db.stored.category? id = none := by
        rw [Database.stored, category?_mapTimes, hrow]
        rfl
      exact (mergeCategory_missing hmissing patch).refused.pairs
        (patchCategory_missing hrow patch).refused fun _ _ => rfl
  | some row => exact patchCategory_mirrors h hdb hrow patch

/-- Every operation but the search for a category by its name. -/
theorem Command.perform_mirrors {command : Command} (hdb : db.AllTimes Time.Instant.Storable)
    (hname : ∀ name, command ≠ .findCategoryByName name)
    (hfits : command.Fits s db) :
    (command.perform e db.stored).Mirrors (command.perform s db) := by
  cases command with
  | createCategory draft => exact (insertCategory_mirrors h draft).replying
  | getCategory id =>
      apply Outcome.Mirrors.replying
      exact (getCategory_reads id).mirrors (getCategory_reads id) (h.getCategory hdb id)
  | findCategoryByName name => exact absurd rfl (hname name)
  | listCategories =>
      apply Outcome.Mirrors.replying
      exact (Action.query_reads _).mirrors (Action.query_reads _) (h.listCategories hdb)
  | updateCategory id patch => exact (updateCategory_mirrors h hdb id patch).replying
  | deleteCategory id => exact (deleteCategory_mirrors h id).settling
  | createAdvertisement creatorId placed =>
      exact (createAdvertisement_mirrors h hdb creatorId placed).replying
  | createAdvertisementWithCategory creatorId category draft =>
      exact (createAdvertisementWithCategory_mirrors h creatorId category draft).replying
  | getAdvertisement id =>
      apply Outcome.Mirrors.replying
      exact (getAdvertisement_reads id).mirrors (getAdvertisement_reads id)
        (h.getAdvertisement hdb id)
  | activeAdvertisements =>
      apply Outcome.Mirrors.replying
      exact (Action.query_reads _).mirrors (Action.query_reads _) (h.activeAdvertisements hdb)
  | updateAdvertisement id patch => exact (updateAdvertisement_mirrors h hdb id patch).replying
  | setAdvertisementActive id active =>
      exact (setAdvertisementActive_mirrors h hdb id active).replying
  | deleteAdvertisement id => exact (deleteAdvertisement_mirrors h id).settling
  | addModerator advertisementId userId =>
      exact (addModerator_mirrors h advertisementId userId).settling
  | moderators advertisementId =>
      apply Outcome.Mirrors.replying
      exact (moderators_reads advertisementId).mirrors (moderators_reads advertisementId) rfl
  | addComment draft => exact (addComment_mirrors h hfits).replying
  | getComment id =>
      apply Outcome.Mirrors.replying
      exact (getComment_reads id).mirrors (getComment_reads id) (h.getComment hdb id)
  | deleteComment id => exact (deleteComment_mirrors h hfits).settling
  | likeAdvertisement userId advertisementId =>
      exact (react_mirrors h fun _ hwrite => hfits _ _ (.like hwrite)).replying
  | saveAdvertisement userId advertisementId =>
      exact (react_mirrors h fun _ hwrite => hfits _ _ (.save hwrite)).replying

end Operations
end Store

/-! ## Runs -/

namespace Board

variable {weights : ScoreWeights} {settings : EngineSettings} {turns : List Turn} {turn last : Turn}

theorem alongside (hclock : turn.now.Ordinary) :
    Alongside ((embedded weights settings).session turn)
      ((server weights settings).session turn) where
  embedded := rfl
  server := rfl
  triggers := rfl
  weights := rfl
  now := rfl
  ids := rfl
  ordinary := hclock

theorem perform_mirrors {db : Database Time.Instant}
    (hcall : ∃ command, turn.call = .store command ∧
      ∀ name, command ≠ .findCategoryByName name)
    (hclock : turn.now.Ordinary) (hdb : db.AllTimes Time.Instant.Storable)
    (hfits : turn.call.Fits ((server weights settings).session turn) db) :
    ((embedded weights settings).perform turn db.stored).Mirrors
      ((server weights settings).perform turn db) := by
  obtain ⟨command, hcommand, hname⟩ := hcall
  unfold perform Call.perform
  rw [hcommand] at hfits ⊢
  exact command.perform_mirrors (alongside hclock) hdb hname hfits

theorem run_stored
    (hcalls : ∀ turn ∈ turns, ∃ command, turn.call = .store command ∧
      ∀ name, command ≠ .findCategoryByName name)
    (hclock : ∀ turn ∈ turns, turn.now.Ordinary)
    (hfits : (server weights settings).ScoresFit .empty turns) :
    (embedded weights settings).run .empty turns =
        ((server weights settings).run .empty turns).stored ∧
      ((server weights settings).run .empty turns).AllTimes Time.Instant.Storable := by
  induction turns using List.reverseRecOn with
  | nil => exact ⟨rfl, .empty⟩
  | append_singleton turns turn ih =>
      have hlast : turn ∈ turns ++ [turn] := by simp
      obtain ⟨hsame, htimes⟩ := ih
        (fun earlier hearlier => hcalls earlier (List.mem_append_left _ hearlier))
        (fun earlier hearlier => hclock earlier (List.mem_append_left _ hearlier)) hfits.earlier
      rw [run_concat, run_concat, hsame]
      constructor
      · exact (perform_mirrors (hcalls turn hlast) (hclock turn hlast) htimes hfits.last).database
      · have hstamp : ((server weights settings).session turn).stamp.Storable :=
          (alongside (hclock turn hlast)).storable_stamp
        exact htimes.changed hstamp (perform_settled turn _).changed

/-- From empty tables, an embedded database and a server that are given the same operations with the
same new ids and times stay in step.  The last operation succeeds on one exactly if it does on the
other, the answers are equal, and so are the rows, once the times of the embedded database are
read. -/
theorem backends_in_step
    (hcalls : ∀ turn ∈ turns ++ [last], ∃ command, turn.call = .store command ∧
      ∀ name, command ≠ .findCategoryByName name)
    (hclock : ∀ turn ∈ turns ++ [last], turn.now.Ordinary)
    (hfits : (server weights settings).ScoresFit .empty (turns ++ [last])) :
    ((embedded weights settings).perform last
        ((embedded weights settings).run .empty turns)).answer.toOption =
      ((server weights settings).perform last
        ((server weights settings).run .empty turns)).answer.toOption ∧
    ((embedded weights settings).run .empty (turns ++ [last])).mapTimes Time.readStored =
      ((server weights settings).run .empty (turns ++ [last])).mapTimes Except.ok := by
  constructor
  · have hlast : last ∈ turns ++ [last] := by simp
    obtain ⟨hsame, htimes⟩ := run_stored
      (fun turn hturn => hcalls turn (List.mem_append_left _ hturn))
      (fun turn hturn => hclock turn (List.mem_append_left _ hturn)) hfits.earlier
    rw [hsame]
    exact (perform_mirrors (hcalls last hlast) (hclock last hlast) htimes hfits.last).answer
  · obtain ⟨hsame, htimes⟩ := run_stored hcalls hclock hfits
    rw [hsame]
    exact readStored_stored htimes

/-- An advertisement that is published and liked. -/
def sampleOperations : List Turn :=
  [sampleTurn "1" (.store (.createAdvertisementWithCategory "ann" ⟨"Bikes", none⟩
      ⟨"Road bike", none, 25000⟩)),
    sampleTurn "2" (.store (.setAdvertisementActive "a1" true)),
    sampleTurn "3" (.store (.likeAdvertisement "bob" "a1"))]

def sampleRename : Turn :=
  sampleTurn "4" (.store (.updateCategory "c1" ⟨some "Cycles", .set "All sizes"⟩))

/-- Both databases rename the category, each in its own way. -/
theorem sample_backends_in_step :
    (((embedded ⟨2, 3, -1⟩ .standard).perform sampleRename
        ((embedded ⟨2, 3, -1⟩ .standard).run .empty sampleOperations)).answer.toOption =
      ((server ⟨2, 3, -1⟩ .standard).perform sampleRename
        ((server ⟨2, 3, -1⟩ .standard).run .empty sampleOperations)).answer.toOption ∧
    ((embedded ⟨2, 3, -1⟩ .standard).run .empty
        (sampleOperations ++ [sampleRename])).mapTimes Time.readStored =
      ((server ⟨2, 3, -1⟩ .standard).run .empty
        (sampleOperations ++ [sampleRename])).mapTimes Except.ok) ∧
    ((server ⟨2, 3, -1⟩ .standard).perform sampleRename
      ((server ⟨2, 3, -1⟩ .standard).run .empty sampleOperations)).answer =
        .ok (.category ⟨"c1", "cycles", some "All sizes", sampleNow, sampleNow⟩) := by
  constructor
  · apply backends_in_step
    · intro turn hturn
      simp only [sampleOperations, sampleRename, sampleTurn, List.cons_append, List.nil_append,
        List.mem_cons, List.not_mem_nil, or_false] at hturn
      rcases hturn with rfl | rfl | rfl | rfl
      all_goals exact ⟨_, rfl, fun _ => Store.Command.noConfusion⟩
    · have hnow : sampleNow.Ordinary := ⟨by decide, by decide⟩
      intro turn hturn
      simp only [sampleOperations, sampleRename, sampleTurn, List.cons_append, List.nil_append,
        List.mem_cons, List.not_mem_nil, or_false] at hturn
      rcases hturn with rfl | rfl | rfl | rfl
      all_goals exact hnow
    · apply scoresFit_of_room
      decide +kernel
  · rfl

end Board
end Noticeboard
