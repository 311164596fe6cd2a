import Noticeboard.Proofs.Browsing
import Noticeboard.Proofs.ExactPoints
import Noticeboard.Proofs.Pairs

/-!
# Points do not move results

Comments, likes, saves and new moderators change no more of what is searched than the score of one
advertisement.  A search and a listing look at other things, so they find the same records in the
same order afterwards, or fail as they did before; only that score is shown as it is now.

A write therefore acts on the corpus as a function on its records, and every step from the corpus to
the answer commutes with such a function.
-/

namespace Noticeboard

open Store

variable {τ E F : Type}

def Page.map {E E' : Type} (f : E → E') (page : Page E) : Page E' :=
  ⟨page.items.map f, page.page, page.pageSize, page.total, page.query⟩

/-! ## Records that a search cannot tell apart -/

namespace Ranking

/-- A change of the records that a search over them does not notice. -/
structure Overlooks [Searchable E F] (f : E → E) : Prop where
  id : ∀ e, Searchable.id (f e) = Searchable.id e
  createdAt : ∀ e, Searchable.createdAt (f e) = Searchable.createdAt e
  text? : ∀ e (field : F), Searchable.text? (f e) field = Searchable.text? e field

section

variable [Searchable E F] {f : E → E} {settings : EngineSettings} {fields : List (WeightedField F)}

theorem Overlooks.score (h : Overlooks f) (e : E) (query : TrigramSet) :
    score settings fields (f e) query = score settings fields e query := by
  have hsimilar (field : F) : fieldSimilarity (f e) query field = fieldSimilarity e query field := by
    unfold fieldSimilarity
    rw [h.text?]
  simp only [Ranking.score, hsimilar]

theorem Overlooks.precedes (h : Overlooks f) (a b : Candidate E) :
    precedes (⟨f a.entity, a.score⟩ : Candidate E) ⟨f b.entity, b.score⟩ = precedes a b := by
  simp only [Ranking.precedes, Ranking.compare, h.id, h.createdAt]

theorem Overlooks.candidates (h : Overlooks f) (query : String) (corpus : List E) :
    candidates settings fields query (corpus.map f) =
      (candidates settings fields query corpus).map fun found => ⟨f found.entity, found.score⟩ := by
  simp only [Ranking.candidates]
  rw [List.map_mergeSort fun a _ b _ => (h.precedes a b).symm, List.filterMap_map,
    List.map_filterMap]
  congr 2
  funext e
  simp [h.score, Function.comp_def]

theorem Overlooks.rank (h : Overlooks f) (params : SearchParams) (corpus : List E) :
    rank settings fields params (corpus.map f) =
      (rank settings fields params corpus).map (Page.map f) := by
  unfold Ranking.rank
  cases params.query with
  | none => simp [whole, Page.map, Except.map]
  | some query =>
      simp only [pageOfCandidates, h.candidates, List.isEmpty_map]
      split
      · rfl
      · simp [Page.map, Except.map, ← map_paginate, Function.comp_def]

end
end Ranking

/-! ## Searches and listings -/

section Answers

variable {settings : EngineSettings} {session : Session τ} {db after : Database τ}

theorem Store.Action.answer_bind_error {α β : Type} {action : Action τ α} {next : α → Action τ β}
    {failure : Failure} (h : (action session db).answer = .error failure) :
    ((action >>= next) session db).answer = .error failure := by
  show (Action.bind action next session db).answer = _
  simp only [Action.bind, h]

namespace Service

variable [Searchable E F] {operation : Operation} {fields : List (WeightedField F)}
  {corpus : Action τ (List E)} {f : E → E}

theorem searching_eq (request : SearchRequest) :
    (searching settings operation fields request corpus session db).answer =
      request.check.bind fun params => (corpus session db).answer.bind fun items =>
        Ranking.rank settings fields params items := by
  cases hcheck : request.check with
  | error failure => exact (Action.answer_bind rfl).trans (Action.answer_bind_error hcheck)
  | ok params =>
      cases hitems : (corpus session db).answer with
      | error failure =>
          refine (Action.answer_bind rfl).trans ((Action.answer_bind hcheck).trans ?_)
          exact Action.answer_bind_error hitems
      | ok items => exact searching_answer hcheck hitems

theorem listing_eq (page : UInt32) :
    (listing settings operation page corpus session db).answer =
      (checkPage page.toNat).bind fun page => (corpus session db).answer.bind fun items =>
        if items.isEmpty then .error (.nothingListed (Searchable.label E))
        else .ok (Ranking.pageOf settings items page) := by
  cases hpage : checkPage page.toNat with
  | error failure => exact Action.answer_bind_error hpage
  | ok number =>
      cases hitems : (corpus session db).answer with
      | error failure => exact (Action.answer_bind hpage).trans (Action.answer_bind_error hitems)
      | ok items =>
          refine (Action.answer_bind hpage).trans ((Action.answer_bind hitems).trans ?_)
          cases items with
          | nil => rfl
          | cons item rest => rfl

theorem searching_map (h : Ranking.Overlooks f)
    (hcorpus : (corpus session after).answer = (corpus session db).answer.map (List.map f))
    (request : SearchRequest) :
    (searching settings operation fields request corpus session after).answer =
      (searching settings operation fields request corpus session db).answer.map (Page.map f) := by
  rw [searching_eq, searching_eq, hcorpus]
  cases request.check with
  | error failure => rfl
  | ok params =>
      cases (corpus session db).answer with
      | error failure => rfl
      | ok items => exact h.rank params items

theorem listing_map
    (hcorpus : (corpus session after).answer = (corpus session db).answer.map (List.map f))
    (page : UInt32) :
    (listing settings operation page corpus session after).answer =
      (listing settings operation page corpus session db).answer.map (Page.map f) := by
  rw [listing_eq, listing_eq, hcorpus]
  cases checkPage page.toNat with
  | error failure => rfl
  | ok number =>
      cases (corpus session db).answer with
      | error failure => rfl
      | ok items =>
          show (if (items.map f).isEmpty then _ else _) = (if items.isEmpty then _ else _ :
            Except Failure (Page E)).map _
          rw [List.isEmpty_map]
          split
          · rfl
          · simp [Ranking.pageOf, Page.map, Except.map, Ranking.map_paginate]

end Service
end Answers

/-! ## Records with another score -/

/-- Two records that differ at most in their score, and not even there unless they are the
subject. -/
structure Advertisement.SameBut (subject : Option String) (a b : Advertisement) : Prop where
  rest : b = { a with score := b.score }
  others : subject ≠ some a.id → b = a

theorem Advertisement.SameBut.refl (subject : Option String) (a : Advertisement) :
    a.SameBut subject a where
  rest := rfl
  others _ := rfl

theorem Advertisement.sameBut_rescored (id : String) (score : Int64) (a : Advertisement) :
    a.SameBut (some id) (a.rescored id score) := by
  by_cases hid : a.id = id
  · rw [rescored, if_pos hid]
    exact ⟨rfl, fun hother => absurd (hid ▸ rfl) hother⟩
  · rw [rescored, if_neg hid]
    exact .refl _ a

theorem overlooks_of_sameBut {subject : Option String} {f : Advertisement → Advertisement}
    (h : ∀ a : Advertisement, a.SameBut subject (f a)) : Ranking.Overlooks f where
  id a := by
    rw [(h a).rest]
    rfl
  createdAt a := by
    rw [(h a).rest]
    rfl
  text? a field := by
    rw [(h a).rest]
    cases field <;> rfl

namespace Store

variable {session : Session τ} {db after : Database τ} {subject : Option String}

/-- Of what is searched, only the score of the subject may be another. -/
structure Database.ScoresOnly (subject : Option String) (db after : Database τ) : Prop where
  categories : after.categories = db.categories
  advertisements : after.advertisements = db.advertisements ∨
    ∃ id score, subject = some id ∧ after.advertisements = (setScore db id score).advertisements

theorem Database.ScoresOnly.refl (subject : Option String) (db : Database τ) :
    db.ScoresOnly subject db :=
  ⟨rfl, .inl rfl⟩

/-- The operations in which users take part in an advertisement. -/
def Command.TakesPart : Command → Prop
  | .addModerator _ _ => True
  | command => command.Engages

/-- The advertisement that such an operation is about; a comment stands at its advertisement. -/
def Command.subject? (db : Database τ) : Command → Option String
  | .addComment draft => some draft.advertisementId
  | .deleteComment id => (db.comment? id).map CommentRow.advertisementId
  | .likeAdvertisement _ id | .saveAdvertisement _ id | .addModerator id _ => some id
  | _ => none

theorem setScore_scoresOnly {mid : Database τ} {id : String} {score : Score}
    (hcategories : mid.categories = db.categories)
    (hadvertisements : mid.advertisements = db.advertisements) :
    db.ScoresOnly (some id) (setScore mid id score) := by
  refine ⟨hcategories, .inr ⟨id, score, rfl, ?_⟩⟩
  simp only [setScore, Statement.changeAdvertisement, hadvertisements]

theorem addComment_scoresOnly (draft : CommentDraft) :
    (addComment draft session db).Meets
      (fun _ after => db.ScoresOnly (some draft.advertisementId) after)
      (fun _ after => db.ScoresOnly (some draft.advertisementId) after) := by
  have hrefl := Database.ScoresOnly.refl (some draft.advertisementId) db
  unfold addComment
  simp only [Action.meets_bind, Action.meets_ofExcept, Action.meets_session,
    Action.meets_transaction, Action.meets_execute, Action.meets_pure,
    Statement.insertComment_eq_ok_iff, hrefl, implies_true, and_true]
  rintro _ - _ mid ⟨-, -, -, rfl⟩
  apply (applyEvent_meets _).mono
  · rintro - after ⟨_, score, -, -, rfl⟩
    exact setScore_scoresOnly rfl rfl
  · exact fun _ _ _ => trivial

theorem deleteComment_scoresOnly (id : String) :
    (deleteComment id session db).Meets
      (fun _ after => db.ScoresOnly ((db.comment? id).map CommentRow.advertisementId) after)
      (fun _ after => db.ScoresOnly ((db.comment? id).map CommentRow.advertisementId) after) := by
  have hrefl := Database.ScoresOnly.refl ((db.comment? id).map CommentRow.advertisementId) db
  unfold deleteComment
  simp only [Action.meets_bind, Action.meets_transaction, Action.meets_execute,
    Statement.deleteComment_eq_ok_iff, hrefl, implies_true, and_true]
  rintro at? mid (⟨row, hrow, -, rfl, rfl⟩ | ⟨-, rfl, rfl⟩)
  · simp only [Action.meets_bind, Action.meets_pure]
    apply (applyEvent_meets _).mono
    · rintro - after ⟨_, score, -, -, rfl⟩
      rw [hrow]
      exact setScore_scoresOnly rfl rfl
    · exact fun _ _ _ => trivial
  · simp

theorem react_scoresOnly (kind : ReactionKind) (userId id : String) :
    (react kind userId id session db).Meets (fun _ after => db.ScoresOnly (some id) after)
      (fun _ after => db.ScoresOnly (some id) after) := by
  have hrefl := Database.ScoresOnly.refl (some id) db
  unfold react
  simp only [Action.meets_bind, Action.meets_session, Action.meets_transaction,
    Action.meets_execute, Action.meets_pure, Statement.insertReaction_eq_ok_iff, hrefl,
    implies_true, and_true]
  rintro - mid ⟨-, -, -, hpresent, ⟨-, found, hdropped⟩ | ⟨-, rfl⟩⟩
  · apply (applyEvent_meets _).mono
    · -- the reaction set off a write that removed its advertisement, so there is no score to move
      rintro - after ⟨advertisement, _, hadvertisement, -⟩
      rcases Statement.deleteAdvertisement_eq_ok_iff.mp hdropped with
        ⟨-, -, -, rfl⟩ | ⟨habsent, -⟩
      · simp [advertisement?_dropAdvertisements_self] at hadvertisement
      · rw [hasAdvertisement_addReaction, hpresent] at habsent
        contradiction
    · exact fun _ _ _ => trivial
  · apply (applyEvent_meets _).mono
    · rintro - after ⟨_, score, -, -, rfl⟩
      cases kind with
      | like => exact setScore_scoresOnly rfl rfl
      | save => exact setScore_scoresOnly rfl rfl
    · exact fun _ _ _ => trivial

theorem addModerator_scoresOnly (advertisementId userId : String) :
    (addModerator advertisementId userId session db).Meets
      (fun _ after => db.ScoresOnly (some advertisementId) after)
      (fun _ after => db.ScoresOnly (some advertisementId) after) := by
  unfold addModerator
  rw [Action.meets_execute]
  refine ⟨fun _ after hwrite => ?_, fun _ _ => .refl _ db⟩
  obtain ⟨-, ⟨-, rfl⟩ | ⟨-, -, rfl⟩⟩ := Statement.insertModerator_eq_ok_iff.mp hwrite
  · exact .refl _ _
  · exact ⟨rfl, .inl rfl⟩

theorem Command.TakesPart.scoresOnly {command : Command} (h : command.TakesPart) :
    db.ScoresOnly (command.subject? db) (command.perform session db).database := by
  apply Outcome.Meets.database
  cases command with
  | addComment draft => exact Action.meets_replying.mpr (addComment_scoresOnly draft)
  | deleteComment id => exact Action.meets_replying.mpr (deleteComment_scoresOnly id)
  | likeAdvertisement userId id => exact Action.meets_replying.mpr (react_scoresOnly .like userId id)
  | saveAdvertisement userId id => exact Action.meets_replying.mpr (react_scoresOnly .save userId id)
  | addModerator id userId => exact Action.meets_replying.mpr (addModerator_scoresOnly id userId)
  | _ => exact h.elim

/-! ## The corpus afterwards -/

theorem activeAdvertisements_same (hcategories : after.categories = db.categories)
    (hadvertisements : after.advertisements = db.advertisements) :
    (activeAdvertisements session after).answer = (activeAdvertisements session db).answer := by
  have hjoined : readJoined session.backend after = readJoined session.backend db := by
    funext row
    rw [readJoined, readJoined, Database.category?, Database.category?, hcategories]
  simp only [activeAdvertisements, Action.query, hadvertisements, hjoined]

/-- If the scores are whole afterwards, so is the one that was set, unless there was none to set. -/
theorem Database.ScoresOnly.rescored (h : db.ScoresOnly subject after)
    (hafter : after.ScoresWhole) :
    after.advertisements = db.advertisements ∨
      ∃ id n, subject = some id ∧ db.Rescored id n after := by
  rcases h.advertisements with hsame | ⟨id, score, hsubject, hset⟩
  · exact .inl hsame
  · by_cases hthere : ∃ row ∈ db.advertisements, row.id = id
    · obtain ⟨row, hrow, hid⟩ := hthere
      have hwritten : { row with score } ∈ after.advertisements := by
        rw [hset]
        exact List.mem_map.mpr ⟨row, hrow, if_pos hid⟩
      obtain ⟨n, hwhole⟩ := hafter _ hwritten
      have hwhole : score = .whole n := hwhole
      subst hwhole
      exact .inr ⟨id, n, hsubject, h.categories, hset⟩
    · -- nothing has that id, so nothing was set
      left
      rw [hset]
      refine (List.map_congr_left fun row hrow => ?_).trans (List.map_id _)
      exact if_neg fun hid => hthere ⟨row, hrow, hid⟩

/-- With whole scores before and after, the active advertisements are the same records but for the
score of the subject. -/
theorem Database.ScoresOnly.activeAdvertisements (h : db.ScoresOnly subject after)
    (session : Session τ) (hbefore : db.ScoresWhole) (hafter : after.ScoresWhole) :
    ∃ f : Advertisement → Advertisement, (∀ a : Advertisement, a.SameBut subject (f a)) ∧
      (Store.activeAdvertisements session after).answer =
        (Store.activeAdvertisements session db).answer.map (List.map f) := by
  rcases h.rescored hafter with hsame | ⟨id, n, rfl, hrescored⟩
  · refine ⟨fun a => a, .refl subject, ?_⟩
    rw [activeAdvertisements_same h.categories hsame]
    cases (Store.activeAdvertisements session db).answer with
    | error failure => rfl
    | ok items => exact congrArg Except.ok (List.map_id' items).symm
  · exact ⟨Advertisement.rescored id n, Advertisement.sameBut_rescored id n,
      activeAdvertisements_rescored hrescored hbefore⟩

theorem listCategories_same (hcategories : after.categories = db.categories) :
    (listCategories session after).answer = (listCategories session db).answer := by
  simp only [listCategories, Action.query, hcategories]

end Store

/-! ## Answers before and after -/

/-- Two pages that show the same records in the same order, but for the score of the subject. -/
structure Page.SameBut (subject : Option String) (before after : Page Advertisement) : Prop where
  items : List.Forall₂ (Advertisement.SameBut subject) before.items after.items
  page : after.page = before.page
  pageSize : after.pageSize = before.pageSize
  total : after.total = before.total
  query : after.query = before.query

/-- Two answers to a search or a listing that are the same, but for the score of the subject. -/
inductive Reply.SameBut (subject : Option String) : Reply → Reply → Prop where
  | categories (page : Page Category) :
      SameBut subject (.categoryPage page) (.categoryPage page)
  | advertisements {before after : Page Advertisement} (h : before.SameBut subject after) :
      SameBut subject (.advertisementPage before) (.advertisementPage after)

theorem Page.sameBut_map {subject : Option String} {f : Advertisement → Advertisement}
    (h : ∀ a : Advertisement, a.SameBut subject (f a)) (page : Page Advertisement) :
    page.SameBut subject (page.map f) where
  items := List.forall₂_map_right_iff.mpr (List.forall₂_same.mpr fun a _ => h a)
  page := rfl
  pageSize := rfl
  total := rfl
  query := rfl

namespace Service

/-- The calls that search or list. -/
def Command.Asks : Command → Prop
  | .searchCategories _ | .searchAdvertisements _ | .listCategories _ | .listAdvertisements _ => True
  | _ => False

section

variable {session : Session τ} {db after : Database τ} {subject : Option String}

theorem answer_replying {α : Type} {action : Action τ α} {wrap : α → Reply} :
    (action.replying wrap session db).answer = (action session db).answer.map wrap := by
  cases hanswer : (action session db).answer with
  | error failure => exact Action.answer_bind_error hanswer
  | ok a => exact Action.answer_bind hanswer

theorem paired_advertisements {action : Action τ (Page Advertisement)}
    {f : Advertisement → Advertisement} (h : ∀ a : Advertisement, a.SameBut subject (f a))
    (hanswer : (action session after).answer = (action session db).answer.map (Page.map f)) :
    Paired (Reply.SameBut subject) Eq (action.replying .advertisementPage session db).answer
      (action.replying .advertisementPage session after).answer := by
  rw [answer_replying, answer_replying, hanswer]
  cases (action session db).answer with
  | error failure => exact paired_error rfl
  | ok page => exact paired_ok (.advertisements (Page.sameBut_map h page))

theorem paired_categories {action : Action τ (Page Category)}
    (hanswer : (action session after).answer = (action session db).answer) :
    Paired (Reply.SameBut subject) Eq (action.replying .categoryPage session db).answer
      (action.replying .categoryPage session after).answer := by
  rw [answer_replying, answer_replying, hanswer]
  cases (action session db).answer with
  | error failure => exact paired_error rfl
  | ok page => exact paired_ok (.categories page)

/-- A search or a listing answers alike before and after only the score of the subject changed. -/
theorem Command.Asks.paired {command : Command} (h : command.Asks) (settings : EngineSettings)
    (honly : db.ScoresOnly subject after) (hbefore : db.ScoresWhole) (hafter : after.ScoresWhole) :
    Paired (Reply.SameBut subject) Eq (command.perform settings session db).answer
      (command.perform settings session after).answer := by
  obtain ⟨f, hf, hactive⟩ := honly.activeAdvertisements session hbefore hafter
  have hcategories : (Store.listCategories session after).answer =
      (Store.listCategories session db).answer :=
    listCategories_same honly.categories
  cases command with
  | searchCategories request =>
      apply paired_categories
      unfold Service.searchCategories
      rw [searching_eq, searching_eq, hcategories]
  | searchAdvertisements request =>
      exact paired_advertisements hf (searching_map (overlooks_of_sameBut hf) hactive request)
  | listCategories page =>
      apply paired_categories
      unfold Service.listCategories
      rw [listing_eq, listing_eq, hcategories]
  | listAdvertisements page => exact paired_advertisements hf (listing_map hactive page)
  | _ => exact h.elim

end
end Service

/-! ## Calls -/

/-- The calls in which users take part in an advertisement. -/
def Call.TakesPart : Call → Prop
  | .service command => ∃ operation, command.operation? = some operation ∧ operation.TakesPart
  | .store command => command.TakesPart

/-- The advertisement that such a call is about. -/
def Call.subject? (db : Database τ) : Call → Option String
  | .service command => command.operation?.bind fun operation => operation.subject? db
  | .store command => command.subject? db

namespace Board

variable {board : Board τ} {db : Database τ} {last asking : Turn} {request : Service.Command}

theorem takesPart_scoresOnly (h : last.call.TakesPart) :
    db.ScoresOnly (last.call.subject? db) (board.perform last db).database := by
  unfold Call.subject?
  cases hcall : last.call with
  | store command =>
      rw [hcall] at h
      rw [perform_store hcall]
      exact Command.TakesPart.scoresOnly h
  | service command =>
      rw [hcall] at h
      obtain ⟨operation, hoperation, htakes⟩ := h
      rw [perform_service hcall]
      dsimp only
      rw [hoperation, Option.bind_some]
      rcases command.perform_comesTo board.settings hoperation with ⟨-, hsame⟩ | ⟨-, hsame⟩
      · rw [hsame]
        exact .refl _ db
      · rw [hsame]
        exact htakes.scoresOnly

/-- A comment, a like, a save or a new moderator, let in or not, does not move what a search or a
listing answers: it fails as before, or shows the same records in the same order, of which only the
advertisement in question may have another score. -/
theorem popularity_never_moves_results (htakes : last.call.TakesPart)
    (hasking : asking.call = .service request) (hasks : request.Asks) (hbefore : db.ScoresWhole)
    (hafter : (board.perform last db).database.ScoresWhole) :
    Paired (Reply.SameBut (last.call.subject? db)) Eq (board.perform asking db).answer
      (board.perform asking (board.perform last db).database).answer := by
  rw [perform_service hasking, perform_service hasking]
  exact hasks.paired board.settings (takesPart_scoresOnly htakes) hbefore hafter

def sampleSearch : Turn :=
  sampleTurn "4" (.service (.searchAdvertisements ⟨some (.str "bike"), none⟩))

/-- A like brings points, and a search finds what it found before. -/
theorem bobsLike_moves_no_result :
    (sampleBoard.run .empty (publishedHistory ++ [bobsLike])).advertisements =
        [⟨"a1", "Road bike", none, "ann", 25000, "c1", .whole 3, true, sampleNow, sampleNow⟩] ∧
      Paired (Reply.SameBut (some "a1")) Eq
        (sampleBoard.perform sampleSearch (sampleBoard.run .empty publishedHistory)).answer
        (sampleBoard.perform sampleSearch
          (sampleBoard.run .empty (publishedHistory ++ [bobsLike]))).answer := by
  have hwhole : ∀ turns, (sampleBoard.run .empty turns).ScoresWhole :=
    run_scoresWhole Backend.sumsWhole_server
  have hafter := hwhole (publishedHistory ++ [bobsLike])
  rw [run_concat] at hafter ⊢
  have htakes : bobsLike.call.TakesPart := ⟨.likeAdvertisement "bob" "a1", rfl, trivial⟩
  refine ⟨rfl, ?_⟩
  exact popularity_never_moves_results htakes rfl trivial (hwhole publishedHistory) hafter

end Board
end Noticeboard
