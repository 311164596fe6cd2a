import Noticeboard.Proofs.NameKeys

/-!
# Writes and the reads after them

What an operation answers is put together beside the write, or read after it.  Either way it is what
is read under its id from then on, with the times cut to what the database keeps and the name that
the category has.
-/

namespace Noticeboard

open Store

variable {τ α : Type}

namespace Store

/-! ## Times -/

/-- The database gives a time back to the microsecond. -/
def Backend.Keeps (backend : Backend τ) (t : Time.Instant) : Prop :=
  ∀ column, backend.readStamp column (backend.stamp t) = .ok t.toMicros

theorem Backend.keeps_embedded {t : Time.Instant} (hyear : 0 ≤ t.date.year ∧ t.date.year ≤ 9999)
    (hleap : t.nano < 1000000000 ∨ t.second = 59) : Backend.embedded.Keeps t := by
  intro column
  have hnano : t.toMicros.nano = t.nano - t.nano % 1000 := rfl
  have hlast : t.toMicros.nano < 1000000000 ∨ t.toMicros.second = 59 :=
    hleap.imp_left fun hshort => by omega
  have hmicros : t.toMicros.nano % 1000 = 0 := by omega
  have hread : Time.readStored t.toMicros.storedText = .ok t.toMicros :=
    @Time.readStored_storedText_self t.toMicros hyear hlast hmicros
  simp only [Backend.embedded, hread]
  rfl

/-- What an action answers is what is read under its key afterwards. -/
def Outcome.ReadBack (outcome : Outcome τ α) (session : Session τ) (read : String → Action τ α)
    (key : α → String) : Prop :=
  outcome.Meets (fun a after => (read (key a) session after).answer = .ok a) fun _ _ => True

variable {session : Session τ} {db : Database τ}

/-! ## Categories -/

theorem insertCategory_readBack (hkeeps : session.backend.Keeps session.now)
    (draft : CategoryDraft) :
    (insertCategory draft session db).ReadBack session getCategory Category.id := by
  refine Outcome.meets_iff_yields.mpr fun category after hyields => ?_
  obtain ⟨-, -, hfresh, -, rfl, rfl⟩ := insertCategory_yields_iff.mp hyields
  let row : CategoryRow τ := ⟨session.ids.category, storedName draft.name, draft.description,
    session.stamp, session.stamp⟩
  have hfound : ((db.categories ++ [row]).find? fun other => other.id == row.id) = some row :=
    find?_key_concat (by simpa [Database.hasCategory] using hfresh)
  exact lookUpCategory_eq_ok_iff.mpr ⟨row, hfound, readCategory_eq_ok_iff.mpr
    ⟨_, _, hkeeps "created_at", hkeeps "updated_at", rfl⟩⟩

theorem getCategory_readBack (id : String) :
    (getCategory id session db).ReadBack session getCategory Category.id := by
  refine (getCategory_reads id).meets_iff.mpr ⟨fun category hread => ?_, fun _ _ => trivial⟩
  rwa [(lookUpCategory_id hread).1]

theorem findCategoryByName_readBack (h : db.Consistent) (name : String) :
    (findCategoryByName name session db).ReadBack session getCategory Category.id := by
  refine (Action.query_reads _).meets_iff.mpr ⟨fun category hread => ?_, fun _ _ => trivial⟩
  simp only [Action.query] at hread
  split at hread
  next row hrow => exact getCategory_of_mem h (List.mem_of_find?_eq_some hrow) hread
  next => contradiction

theorem listCategories_again (h : db.Consistent) {items : List Category}
    (hread : (listCategories session db).answer = .ok items) :
    ∀ c ∈ items, (getCategory c.id session db).answer = .ok c := by
  intro category hcategory
  obtain ⟨row, hrow, hrowRead⟩ := row_of_item (forall₂_of_mapM_eq_ok hread) _ hcategory
  exact getCategory_of_mem h (List.mem_mergeSort.mp hrow) hrowRead

theorem mergeCategory_readBack (hids : (db.categories.map CategoryRow.id).Nodup)
    (hkeeps : session.backend.Keeps session.now) (id : String) (patch : CategoryPatch) :
    (mergeCategory id patch session db).ReadBack session getCategory Category.id := by
  refine Outcome.meets_iff_yields.mpr fun category after hyields => ?_
  obtain ⟨row, existing, hrow, hread, -, rfl, rfl⟩ :=
    (CategoryPatch.merge_yields_iff hids).mp hyields
  obtain ⟨created, updated, hcreated, -, rfl⟩ := readCategory_eq_ok_iff.mp hread
  obtain rfl : row.id = id := key_eq_of_find? hrow
  exact lookUpCategory_eq_ok_iff.mpr ⟨_, category?_patched patch session.stamp hrow,
    readCategory_eq_ok_iff.mpr ⟨created, _, hcreated, hkeeps "updated_at", rfl⟩⟩

theorem patchCategory_readBack (hids : (db.categories.map CategoryRow.id).Nodup) (id : String)
    (patch : CategoryPatch) :
    (patchCategory id patch session db).ReadBack session getCategory Category.id := by
  refine Outcome.meets_iff_yields.mpr fun category after hyields => ?_
  obtain ⟨row, hrow, -, rfl, hread⟩ := (CategoryPatch.patch_yields_iff hids).mp hyields
  obtain rfl : row.id = id := key_eq_of_find? hrow
  have hid : category.id = row.id := (readCategory_eq_ok hread).1
  rw [hid]
  exact lookUpCategory_eq_ok_iff.mpr ⟨_, category?_patched patch session.stamp hrow, hread⟩

theorem updateCategory_readBack (hids : (db.categories.map CategoryRow.id).Nodup)
    (hkeeps : session.backend.Keeps session.now) (id : String) (patch : CategoryPatch) :
    (updateCategory id patch session db).ReadBack session getCategory Category.id := by
  rw [updateCategory_eq]
  split
  · exact patchCategory_readBack hids id patch
  · exact mergeCategory_readBack hids hkeeps id patch

/-! ## Advertisements -/

theorem getAdvertisement_again {id : String} {advertisement : Advertisement}
    (hread : (getAdvertisement id session db).answer = .ok advertisement) :
    (getAdvertisement advertisement.id session db).answer = .ok advertisement := by
  obtain ⟨row, hrow, hjoined⟩ := getAdvertisement_eq_ok_iff.mp hread
  have hid : row.id = id := key_eq_of_find? hrow
  rwa [(readJoined_eq_ok hjoined).shown.id, hid]

theorem getAdvertisement_readBack (id : String) :
    (getAdvertisement id session db).ReadBack session getAdvertisement Advertisement.id :=
  (getAdvertisement_reads id).meets_iff.mpr
    ⟨fun _ hread => getAdvertisement_again hread, fun _ _ => trivial⟩

/-- A new advertisement is shown with the name that its category has in the tables. -/
theorem insertAdvertisement_readBack (hkeeps : session.backend.Keeps session.now)
    (creatorId : String) {category : Category} (draft : AdvertisementDraft)
    (hcategory : db.Names category.id category.name) :
    (insertAdvertisement creatorId category draft session db).ReadBack session getAdvertisement
      Advertisement.id := by
  unfold Outcome.ReadBack insertAdvertisement
  simp only [Action.meets_bind, Action.meets_session, Action.meets_execute, Action.meets_pure,
    Statement.insertAdvertisement_eq_ok_iff, implies_true, and_true]
  rintro - after ⟨-, -, -, hfresh, -, rfl⟩
  obtain ⟨placed, hplaced, hname⟩ := Option.map_eq_some_iff.mp hcategory
  let row : AdvertisementRow τ := ⟨session.ids.advertisement, draft.title, draft.description,
    creatorId, draft.priceCents, category.id, .whole 0, false, session.stamp, session.stamp⟩
  have hfound : ((db.advertisements ++ [row]).find? fun other => other.id == row.id) = some row :=
    find?_key_concat (by simpa [Database.hasAdvertisement] using hfresh)
  refine getAdvertisement_eq_ok_iff.mpr ⟨row, hfound, readJoined_eq_ok_iff.mpr
    ⟨placed, 0, _, _, hplaced, rfl, hkeeps "created_at", hkeeps "updated_at", ?_⟩⟩
  rw [hname]

theorem getAdvertisement_of_mem (h : db.Consistent) {row : AdvertisementRow τ}
    {advertisement : Advertisement} (hrow : row ∈ db.advertisements)
    (hread : readJoined session.backend db row = some (.ok advertisement)) :
    (getAdvertisement advertisement.id session db).answer = .ok advertisement := by
  rw [(readJoined_eq_ok hread).shown.id]
  exact getAdvertisement_eq_ok_iff.mpr ⟨row, advertisement?_of_mem h hrow, hread⟩

theorem activeAdvertisements_again (h : db.Consistent) {items : List Advertisement}
    (hread : (activeAdvertisements session db).answer = .ok items) :
    ∀ a ∈ items, (getAdvertisement a.id session db).answer = .ok a := by
  intro advertisement hadvertisement
  obtain ⟨joined, hjoined, hok⟩ := row_of_item (forall₂_of_mapM_eq_ok hread) _ hadvertisement
  obtain ⟨row, hrow, hrowRead⟩ := List.mem_filterMap.mp hjoined
  rw [id_eq] at hok
  have hactive := List.mem_filter.mp (List.mem_mergeSort.mp hrow)
  exact getAdvertisement_of_mem h hactive.1 (hok ▸ hrowRead)

theorem createAdvertisement_readBack (hkeeps : session.backend.Keeps session.now)
    (creatorId : String) (placed : PlacedDraft) :
    (createAdvertisement creatorId placed session db).ReadBack session getAdvertisement
      Advertisement.id := by
  unfold Outcome.ReadBack createAdvertisement
  simp only [Action.meets_bind, Action.meets_ofExcept, (getCategory_reads _).meets_iff,
    implies_true, and_true]
  exact fun _ _ category hread =>
    insertAdvertisement_readBack hkeeps creatorId placed.draft (getCategory_named hread)

theorem createAdvertisementWithCategory_readBack (hkeeps : session.backend.Keeps session.now)
    (creatorId : String) (category : CategoryDraft) (draft : AdvertisementDraft) :
    (createAdvertisementWithCategory creatorId category draft session db).ReadBack session
      getAdvertisement Advertisement.id := by
  unfold Outcome.ReadBack createAdvertisementWithCategory
  simp only [Action.meets_bind, Action.meets_ofExcept, Action.meets_transaction, implies_true,
    and_true]
  intro _ _
  exact (insertCategory_named category).mono (fun created mid hnamed =>
    insertAdvertisement_readBack hkeeps creatorId draft hnamed) fun _ _ _ => trivial

/-! ## Comments -/

theorem applyEvent_comments (event : ScoreEvent) :
    (applyEvent event session db).Meets (fun _ after => after.comments = db.comments)
      fun _ _ => True := by
  unfold applyEvent increment
  simp only [Action.meets_bind, Action.meets_session, Action.meets_reporting,
    Action.meets_execute, Action.meets_expectRow, Action.meets_pure,
    Statement.addScore_eq_ok_iff, implies_true, and_true]
  rintro found after (⟨row, score, -, -, -, -, rfl⟩ | ⟨-, -, rfl⟩) -
  · rfl
  · rfl

theorem getComment_eq_ok_iff {id : String} {comment : Comment} :
    (getComment id session db).answer = .ok comment ↔
      ∃ row, db.comment? id = some row ∧ session.backend.readComment row = .ok comment := by
  simp only [getComment, Action.query]
  cases db.comment? id <;> simp

theorem getComment_readBack (id : String) :
    (getComment id session db).ReadBack session getComment Comment.id := by
  refine (getComment_reads id).meets_iff.mpr ⟨fun comment hread => ?_, fun _ _ => trivial⟩
  obtain ⟨row, hrow, hcomment⟩ := getComment_eq_ok_iff.mp hread
  simp only [Backend.readComment, bind_eq_ok, pure_eq_ok] at hcomment
  obtain ⟨created, -, rfl⟩ := hcomment
  obtain rfl : row.id = id := key_eq_of_find? hrow
  exact hread

theorem addComment_readBack (hkeeps : session.backend.Keeps session.now) (draft : CommentDraft) :
    (addComment draft session db).ReadBack session getComment Comment.id := by
  unfold Outcome.ReadBack addComment
  simp only [Action.meets_bind, Action.meets_ofExcept, Action.meets_session,
    Action.meets_transaction, Action.meets_execute, Action.meets_pure,
    Statement.insertComment_eq_ok_iff, implies_true, and_true]
  rintro - - - mid ⟨-, hfresh, -, rfl⟩
  -- the points of the comment leave it as it was written
  refine (applyEvent_comments _).mono (fun _ after hsame => ?_) fun _ _ _ => trivial
  let row : CommentRow τ := ⟨session.ids.comment, draft.advertisementId, draft.userId,
    draft.content, session.stamp⟩
  have hcomments : after.comments = db.comments ++ [row] := hsame
  have hfound : ((db.comments ++ [row]).find? fun other => other.id == row.id) = some row :=
    find?_key_concat hfresh
  have hread : session.backend.readComment row = .ok ⟨session.ids.comment,
      draft.advertisementId, draft.userId, draft.content, session.now.toMicros⟩ := by
    simp only [Backend.readComment, bind_eq_ok, pure_eq_ok]
    exact ⟨_, hkeeps "created_at", rfl⟩
  exact getComment_eq_ok_iff.mpr ⟨row, by rw [Database.comment?, hcomments, hfound], hread⟩

end Store

/-! ## Replies -/

/-- The categories that a reply shows. -/
def Reply.shownCategories : Reply → List Category
  | .category found => [found]
  | .categories all => all
  | .categoryPage page => page.items
  | _ => []

def Reply.shownComments : Reply → List Comment
  | .comment found => [found]
  | _ => []

/-- Every record of a reply is what a session reads under its id. -/
structure Reply.ReadBy (reply : Reply) (session : Session τ) (db : Database τ) : Prop where
  categories : ∀ category ∈ reply.shownCategories,
    (getCategory category.id session db).answer = .ok category
  advertisements : ∀ advertisement ∈ reply.shown,
    (getAdvertisement advertisement.id session db).answer = .ok advertisement
  comments : ∀ comment ∈ reply.shownComments,
    (getComment comment.id session db).answer = .ok comment

variable {session : Session τ} {db : Database τ}

/-- Of a session only the kind of its database counts when it reads. -/
theorem Reply.ReadBy.of_backend {reply : Reply} {other : Session τ} (h : reply.ReadBy session db)
    (hbackend : other.backend = session.backend) : reply.ReadBy other db := by
  constructor
  · intro category hcategory
    rw [← h.categories category hcategory]
    simp only [getCategory, Action.query, hbackend]
  · intro advertisement hadvertisement
    rw [← h.advertisements advertisement hadvertisement]
    simp only [getAdvertisement, Action.query, hbackend]
  · intro comment hcomment
    rw [← h.comments comment hcomment]
    simp only [getComment, Action.query, hbackend]

section

variable {reply : Reply}

theorem Reply.readBy_of_categories (hadvertisements : reply.shown = [])
    (hcomments : reply.shownComments = [])
    (h : ∀ category ∈ reply.shownCategories,
      (getCategory category.id session db).answer = .ok category) : reply.ReadBy session db :=
  ⟨h, by simp [hadvertisements], by simp [hcomments]⟩

theorem Reply.readBy_of_advertisements (hcategories : reply.shownCategories = [])
    (hcomments : reply.shownComments = [])
    (h : ∀ advertisement ∈ reply.shown,
      (getAdvertisement advertisement.id session db).answer = .ok advertisement) :
    reply.ReadBy session db :=
  ⟨by simp [hcategories], h, by simp [hcomments]⟩

theorem Reply.readBy_of_comments (hcategories : reply.shownCategories = [])
    (hadvertisements : reply.shown = [])
    (h : ∀ comment ∈ reply.shownComments,
      (getComment comment.id session db).answer = .ok comment) : reply.ReadBy session db :=
  ⟨by simp [hcategories], by simp [hadvertisements], h⟩

end

namespace Store

/-- Whatever is shown can be read back. -/
def Outcome.ShowsStored (outcome : Outcome τ Reply) (session : Session τ) : Prop :=
  outcome.Meets (fun reply after => reply.ReadBy session after) fun _ _ => True

section

variable {action : Action τ α} {wrap : α → Reply}

theorem showsStored_of_meets
    (h : (action session db).Meets (fun a after => (wrap a).ReadBy session after) fun _ _ => True) :
    (action.replying wrap session db).ShowsStored session :=
  Action.meets_replying.mpr h

/-- A read shows what is stored, if its answer does. -/
theorem Action.Reads.showsStored (h : action.Reads)
    (hread : ∀ a, (action session db).answer = .ok a → (wrap a).ReadBy session db) :
    (action.replying wrap session db).ShowsStored session :=
  showsStored_of_meets (h.meets_iff.mpr ⟨hread, fun _ _ => trivial⟩)

theorem showsStored_of_none (hcategories : ∀ a, (wrap a).shownCategories = [])
    (hadvertisements : ∀ a, (wrap a).shown = []) (hcomments : ∀ a, (wrap a).shownComments = []) :
    (action.replying wrap session db).ShowsStored session := by
  refine showsStored_of_meets
    ((Outcome.meets_true _).mono (fun a after _ => ?_) fun _ _ _ => trivial)
  exact Reply.readBy_of_categories (hadvertisements a) (hcomments a) (by simp [hcategories a])

end

theorem showsStored_category {action : Action τ Category}
    (h : (action session db).ReadBack session getCategory Category.id) :
    (action.replying .category session db).ShowsStored session :=
  showsStored_of_meets (h.mono (fun _ _ hread => Reply.readBy_of_categories rfl rfl
    (List.forall_mem_singleton.mpr hread)) fun _ _ _ => trivial)

theorem showsStored_advertisement {action : Action τ Advertisement}
    (h : (action session db).ReadBack session getAdvertisement Advertisement.id) :
    (action.replying .advertisement session db).ShowsStored session :=
  showsStored_of_meets (h.mono (fun _ _ hread => Reply.readBy_of_advertisements rfl rfl
    (List.forall_mem_singleton.mpr hread)) fun _ _ _ => trivial)

theorem showsStored_comment {action : Action τ Comment}
    (h : (action session db).ReadBack session getComment Comment.id) :
    (action.replying .comment session db).ShowsStored session :=
  showsStored_of_meets (h.mono (fun _ _ hread => Reply.readBy_of_comments rfl rfl
    (List.forall_mem_singleton.mpr hread)) fun _ _ _ => trivial)

theorem Command.perform_showsStored (hdb : db.Consistent)
    (hkeeps : session.backend.Keeps session.now) (command : Command) :
    (command.perform session db).ShowsStored session := by
  cases command with
  | createCategory draft => exact showsStored_category (insertCategory_readBack hkeeps draft)
  | getCategory id => exact showsStored_category (getCategory_readBack id)
  | findCategoryByName name => exact showsStored_category (findCategoryByName_readBack hdb name)
  | listCategories =>
      exact (Action.query_reads _).showsStored fun _ hread =>
        Reply.readBy_of_categories rfl rfl (listCategories_again hdb hread)
  | updateCategory id patch =>
      exact showsStored_category (updateCategory_readBack hdb.categoryIds hkeeps id patch)
  | createAdvertisement creatorId placed =>
      exact showsStored_advertisement (createAdvertisement_readBack hkeeps creatorId placed)
  | createAdvertisementWithCategory creatorId category draft =>
      exact showsStored_advertisement
        (createAdvertisementWithCategory_readBack hkeeps creatorId category draft)
  | getAdvertisement id => exact showsStored_advertisement (getAdvertisement_readBack id)
  | activeAdvertisements =>
      exact (Action.query_reads _).showsStored fun _ hread =>
        Reply.readBy_of_advertisements rfl rfl (activeAdvertisements_again hdb hread)
  | updateAdvertisement id patch =>
      exact showsStored_advertisement
        (updateAdvertisement_meets_last fun _ => getAdvertisement_readBack id)
  | setAdvertisementActive id active =>
      exact showsStored_advertisement
        (setAdvertisementActive_meets_last fun _ => getAdvertisement_readBack id)
  | addComment draft => exact showsStored_comment (addComment_readBack hkeeps draft)
  | getComment id => exact showsStored_comment (getComment_readBack id)
  | _ => exact showsStored_of_none (fun _ => rfl) (fun _ => rfl) fun _ => rfl

end Store

/-! ## Calls -/

namespace Service

variable {settings : EngineSettings}

theorem getCategory_readBack (hdb : db.Consistent) (id name : Option String) :
    (getCategory id name session db).ReadBack session Store.getCategory Category.id := by
  unfold Outcome.ReadBack getCategory
  rw [meets_finishing]
  cases given? id with
  | none =>
      cases given? name with
      | none => exact (Action.meets_fail _).mpr trivial
      | some name => exact findCategoryByName_readBack hdb name
  | some id =>
      cases given? name with
      | none => exact Store.getCategory_readBack id
      | some name => exact (Action.meets_fail _).mpr trivial

theorem getAdvertisement_readBack (actor : Option Actor) (id : String) :
    (getAdvertisement actor id session db).ReadBack session Store.getAdvertisement
      Advertisement.id := by
  unfold Outcome.ReadBack getAdvertisement visibleAdvertisement
  simp only [meets_finishing, Action.meets_bind, Action.meets_ite, Action.meets_fail,
    Action.meets_pure, (Store.getAdvertisement_reads _).meets_iff, implies_true, and_true,
    true_and]
  intro _ advertisement hread
  have hagain := getAdvertisement_again hread
  refine ⟨fun _ => hagain, fun _ => ?_⟩
  cases actor with
  | none => simp
  | some actor => simp [(canManage_reads _ _).meets_iff, hagain]

theorem Command.perform_showsStored (hdb : db.Consistent)
    (hkeeps : session.backend.Keeps session.now) (command : Command) :
    (command.perform settings session db).ShowsStored session := by
  cases hoperation : command.operation? with
  | some operation =>
      exact (command.perform_comesTo settings hoperation).meets
        (operation.perform_showsStored hdb hkeeps)
  | none =>
      cases command with
      | searchCategories request =>
          refine (searching_reads (Action.query_reads _)).showsStored fun page hpage => ?_
          obtain ⟨items, hitems, hpart⟩ := searching_subset (Action.query_reads _) hpage
          exact Reply.readBy_of_categories rfl rfl fun category hcategory =>
            listCategories_again hdb hitems category (hpart hcategory)
      | searchAdvertisements request =>
          refine (searching_reads (Action.query_reads _)).showsStored fun page hpage => ?_
          obtain ⟨items, hitems, hpart⟩ := searching_subset (Action.query_reads _) hpage
          exact Reply.readBy_of_advertisements rfl rfl fun advertisement hadvertisement =>
            activeAdvertisements_again hdb hitems advertisement (hpart hadvertisement)
      | listCategories number =>
          refine (listing_reads (Action.query_reads _)).showsStored fun page hpage => ?_
          obtain ⟨items, hitems, hpart⟩ := listing_subset (Action.query_reads _) hpage
          exact Reply.readBy_of_categories rfl rfl fun category hcategory =>
            listCategories_again hdb hitems category (hpart hcategory)
      | listAdvertisements number =>
          refine (listing_reads (Action.query_reads _)).showsStored fun page hpage => ?_
          obtain ⟨items, hitems, hpart⟩ := listing_subset (Action.query_reads _) hpage
          exact Reply.readBy_of_advertisements rfl rfl fun advertisement hadvertisement =>
            activeAdvertisements_again hdb hitems advertisement (hpart hadvertisement)
      | getCategory id name => exact showsStored_category (getCategory_readBack hdb id name)
      | getAdvertisement actor id =>
          exact showsStored_advertisement (getAdvertisement_readBack actor id)
      | createAdvertisement actor request =>
          obtain ⟨draft, choice⟩ := request
          cases choice with
          | existing => contradiction
          | new => contradiction
      | _ => contradiction

end Service

/-! ## Runs -/

namespace Board

variable {turns : List Turn} {turn : Turn} {reply : Reply}

/-- After any run, the records that a call shows are those that are read under their ids from then
on, by whoever reads next. -/
theorem reply_readBy {board : Board τ} (hkeeps : board.backend.Keeps turn.now)
    (hreply : (board.perform turn (board.run .empty turns)).answer = .ok reply)
    {next : Session τ} (hnext : next.backend = board.backend) :
    reply.ReadBy next (board.run .empty (turns ++ [turn])) := by
  have hdb : (board.run .empty turns).Consistent := run_consistent .empty turns
  have hstored : (board.perform turn (board.run .empty turns)).ShowsStored
      (board.session turn) := by
    unfold perform Call.perform
    cases turn.call with
    | service command => exact command.perform_showsStored hdb hkeeps
    | store command => exact command.perform_showsStored hdb hkeeps
  rw [run_concat]
  exact (hstored.of_ok hreply).of_backend hnext

/-- A file of its own keeps the times of the years 0 to 9999, leap seconds only where they stand at
the end of a minute. -/
theorem written_records_are_read {board : Board String} (hbackend : board.backend = .embedded)
    (hyear : 0 ≤ turn.now.date.year ∧ turn.now.date.year ≤ 9999)
    (hleap : turn.now.nano < 1000000000 ∨ turn.now.second = 59)
    (hreply : (board.perform turn (board.run .empty turns)).answer = .ok reply)
    (next : Session String) (hnext : next.backend = .embedded) :
    reply.ReadBy next (board.run .empty (turns ++ [turn])) := by
  have hkeeps : board.backend.Keeps turn.now := hbackend ▸ Backend.keeps_embedded hyear hleap
  exact reply_readBy hkeeps hreply (hnext.trans hbackend.symm)

/-- A category is renamed at a time that is not a whole number of microseconds. -/
theorem renamed_boats_are_read :
    let turn := { sampleTurn "6" (.service (.updateCategory (.staff "dan") "c2"
      ⟨some " Small Boats ", .keep⟩)) with now := .sinceEpoch 46800 123456789 }
    (getCategory "c2" listedSession (listedBoard.run .empty (listedHistory ++ [turn]))).answer =
      .ok ⟨"c2", "small boats", none, .sinceEpoch 46800 0, .sinceEpoch 46800 123456000⟩ := by
  intro turn
  let boats : Category :=
    ⟨"c2", "small boats", none, .sinceEpoch 46800 0, .sinceEpoch 46800 123456000⟩
  have hanswer : (Service.updateCategory (.staff "dan") "c2" ⟨some " Small Boats ", .keep⟩
      (listedBoard.session turn) (listedBoard.run .empty listedHistory)).answer = .ok boats :=
    ok_of_toOption (by decide +kernel)
  have hreply : (listedBoard.perform turn (listedBoard.run .empty listedHistory)).answer =
      .ok (.category boats) := Action.answer_bind hanswer
  have hread := @written_records_are_read listedHistory turn _ listedBoard rfl (by decide)
    (.inl (by decide)) hreply listedSession rfl
  exact hread.categories boats List.mem_cons_self

end Board
end Noticeboard
