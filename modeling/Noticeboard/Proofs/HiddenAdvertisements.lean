import Noticeboard.Proofs.VeiledWrites

/-!
# Hidden advertisements do not leak

Somebody who is neither staff nor a superuser cannot tell two databases apart that differ only in
advertisements hidden from this viewer: every call is answered the same, with the same text if it
fails, and leaves two such databases.  Whatever a call does with an advertisement comes after the
check that the viewer may see it.  The one exception is the author of a comment, who may delete it
although the advertisement was withdrawn, and learns nothing from that as long as its score can bear
the points.
-/

namespace Noticeboard

def Actor.Plain (actor : Actor) : Prop :=
  actor.isStaff = false ∧ actor.isSuperuser = false

namespace Service

open Store (Session Database Action Outcome AdvertisementRow ReactionKind Statement)

variable {τ α E F : Type} {viewer : Option Actor} {session : Session τ} {db other : Database τ}
  {rows : List (AdvertisementRow τ)} {actor : Actor} {id : String}

/-- Calls that a viewer makes, or that anybody may make. -/
def Command.By (viewer : Option Actor) : Command → Prop
  | .searchCategories _ | .searchAdvertisements _ | .listCategories _ | .listAdvertisements _
  | .getCategory _ _ => True
  | .getAdvertisement actor _ => actor = viewer
  | .createCategory actor _ | .updateCategory actor _ _ | .deleteCategory actor _
  | .createAdvertisement actor _ | .updateAdvertisement actor _ _ | .deleteAdvertisement actor _
  | .approveAdvertisement actor _ _ | .addModerator actor _ _ | .addComment actor _ _
  | .deleteComment actor _ | .likeAdvertisement actor _ | .saveAdvertisement actor _ =>
      viewer = some actor

/-! ## Accounts and searches -/

section Accounts

variable {backend : Store.Backend τ}

theorem calling_blur {operation : Operation} {details : List (String × Json)} {work : Action τ α}
    (h : Blurs backend viewer (work session other) (work session db)) :
    Blurs backend viewer (calling operation details work session other)
      (calling operation details work session db) := by
  unfold calling
  apply Action.pairs_bind
  apply Action.pairs_note
  exact Action.pairs_reporting h

theorem rankNoted_blur [Searchable E F] (settings : EngineSettings)
    (fields : List (WeightedField F)) (params : SearchParams) (corpus : List E)
    (hveils : Veils backend viewer other db) :
    Blurs backend viewer (rankNoted settings fields params corpus session other)
      (rankNoted settings fields params corpus session db) := by
  unfold rankNoted
  cases params.query with
  | none => exact pure_blur hveils _
  | some query =>
      dsimp only
      cases Ranking.candidates settings fields query corpus with
      | nil => exact reads_blur (fun _ _ => rfl) hveils rfl
      | cons best _ => exact reads_blur (fun _ _ => rfl) hveils rfl

theorem searching_blur [Searchable E F] {settings : EngineSettings} {operation : Operation}
    {fields : List (WeightedField F)} {request : SearchRequest} {corpus : Action τ (List E)}
    (hreads : corpus.Reads) (hveils : Veils backend viewer other db)
    (hcorpus : (corpus session other).answer = (corpus session db).answer) :
    Blurs backend viewer (searching settings operation fields request corpus session other)
      (searching settings operation fields request corpus session db) := by
  unfold searching
  apply Action.pairs_bind
  apply Action.pairs_note
  apply Action.pairs_reporting
  apply ofExcept_bind_blur hveils
  intro params _
  apply reads_bind_blur hreads hveils hcorpus
  exact fun items _ => rankNoted_blur settings fields params items hveils

theorem listing_blur [Searchable E F] {settings : EngineSettings} {operation : Operation}
    {page : UInt32} {corpus : Action τ (List E)} (hreads : corpus.Reads)
    (hveils : Veils backend viewer other db)
    (hcorpus : (corpus session other).answer = (corpus session db).answer) :
    Blurs backend viewer (listing settings operation page corpus session other)
      (listing settings operation page corpus session db) := by
  unfold listing
  apply Action.pairs_reporting
  apply ofExcept_bind_blur hveils
  intro page _
  apply reads_bind_blur hreads hveils hcorpus
  intro items _
  apply Action.pairs_ite
  · exact fun _ => fail_bind_blur hveils _
  · exact fun _ => pure_blur hveils _

theorem getCategory_blur (hveils : Veils backend viewer other db) (category name : Option String) :
    Blurs backend viewer (getCategory category name session other)
      (getCategory category name session db) := by
  have hsame : (getCategory category name session other).answer =
      (getCategory category name session db).answer := by
    obtain ⟨rows, rfl, -⟩ := hveils
    unfold getCategory
    cases given? category with
    | none => cases given? name <;> rfl
    | some key => cases given? name <;> rfl
  exact reads_blur (getCategory_reads category name) hveils hsame

end Accounts

/-! ## Calls -/

section Calls

variable (hrows : List.Forall₂ (Veiled session.backend db viewer) db.advertisements rows)

theorem unmoderated_blur {deed : String} {work : Action τ α} (hplain : actor.Plain)
    (hveils : Veils session.backend viewer other db) :
    Blurs session.backend viewer ((do requireSiteModerator actor deed; work) session other)
      ((do requireSiteModerator actor deed; work) session db) := by
  have hrefused : (requireSiteModerator actor deed : Action τ Unit) =
      Action.fail (.notAllowed deed) := by
    simp [requireSiteModerator, Actor.isSiteModerator, hplain.1, hplain.2]
  rw [hrefused]
  exact fail_bind_blur hveils _

include hrows

/-- What a call goes on with is the same row of both databases. -/
theorem visible_bind_blur {next : Advertisement → Action τ α} (hdb : db.Consistent)
    (hother : (db.withAdvertisements rows).Consistent)
    (hnext : ∀ advertisement row, db.advertisement? id = some row →
      (db.withAdvertisements rows).advertisement? id = some row → row.ShownBy advertisement →
      InSight db viewer row →
        Blurs session.backend viewer (next advertisement session (db.withAdvertisements rows))
          (next advertisement session db)) :
    Blurs session.backend viewer
      ((visibleAdvertisement viewer id >>= next) session (db.withAdvertisements rows))
      ((visibleAdvertisement viewer id >>= next) session db) := by
  have hveils := veils_with hrows
  apply Action.pairs_bind
  apply (visibleAdvertisement_reads viewer id).pairs (visibleAdvertisement_reads viewer id)
  apply (visible_paired hdb hother hrows).mono
  · rintro shown _ ⟨rfl, row, hrow, hshown, hsight⟩
    apply hnext shown row hrow _ hshown hsight
    rcases advertisement?_veiled hrows id with ⟨hnone, -⟩ | ⟨found, row', hfound, hrow', hveiled⟩
    · rw [hnone] at hrow
      cases hrow
    · obtain rfl : found = row := Option.some.inj (hfound.symm.trans hrow)
      rw [hrow', hveiled.eq_of_inSight hsight]
  · rintro failure _ rfl
    exact ⟨rfl, hveils⟩

omit hrows in
theorem requireManager_answer {deed : String} {row : AdvertisementRow τ}
    {advertisement : Advertisement} (hshown : row.ShownBy advertisement) :
    (requireManager actor advertisement deed session db).answer =
      if Manages db actor row then .ok () else .error (.notAllowed deed) := by
  by_cases hmanages : Manages db actor row
  · rw [if_pos hmanages, Outcome.answer_eq_ok_iff_meets, meets_requireManager hshown]
    exact ⟨fun _ => rfl, fun hforeign => absurd hmanages hforeign⟩
  · rw [if_neg hmanages, Outcome.answer_eq_error_iff_meets, meets_requireManager hshown]
    exact ⟨fun hmanages' => absurd hmanages' hmanages, fun _ => rfl⟩

theorem managed_bind_blur {deed : String} {next : Unit → Action τ α} {row : AdvertisementRow τ}
    {advertisement : Advertisement} (hshown : row.ShownBy advertisement)
    (hnext : Blurs session.backend viewer (next () session (db.withAdvertisements rows))
      (next () session db)) :
    Blurs session.backend viewer
      ((requireManager actor advertisement deed >>= next) session (db.withAdvertisements rows))
      ((requireManager actor advertisement deed >>= next) session db) := by
  have hveils := veils_with hrows
  apply reads_bind_blur (requireManager_reads actor advertisement deed) hveils
  · rw [requireManager_answer hshown, requireManager_answer hshown]
    rfl
  · exact fun _ _ => hnext

theorem createAdvertisement_blur (hcalm : session.triggers = []) (request : AdvertisementRequest) :
    Blurs session.backend viewer
      (createAdvertisement actor request session (db.withAdvertisements rows))
      (createAdvertisement actor request session db) := by
  have hveils := veils_with hrows
  apply calling_blur
  apply ofExcept_bind_blur hveils
  intro _ _
  cases request.category with
  | existing category => exact Store.createAdvertisement_blur hrows hcalm _ _
  | new category => exact Store.createAdvertisementWithCategory_blur hrows hcalm _ _ _

variable (hdb : db.Consistent) (hother : (db.withAdvertisements rows).Consistent)

include hdb hother

theorem getAdvertisement_blur :
    Blurs session.backend viewer (getAdvertisement viewer id session (db.withAdvertisements rows))
      (getAdvertisement viewer id session db) := by
  have hveils := veils_with hrows
  unfold Service.getAdvertisement finishing
  apply Action.pairs_reporting
  apply (visibleAdvertisement_reads viewer id).pairs (visibleAdvertisement_reads viewer id)
  apply (visible_paired hdb hother hrows).mono
  · exact fun _ _ hsame => ⟨hsame.1, hveils⟩
  · exact fun _ _ hsame => ⟨hsame, hveils⟩

variable (hviewer : viewer = some actor)

include hviewer

theorem updateAdvertisement_blur (patch : AdvertisementPatch) :
    Blurs session.backend viewer
      (updateAdvertisement actor id patch session (db.withAdvertisements rows))
      (updateAdvertisement actor id patch session db) := by
  have hveils := veils_with hrows
  subst hviewer
  apply calling_blur
  apply Action.pairs_ite
  · exact fun _ => fail_bind_blur hveils _
  · intro _
    apply visible_bind_blur hrows hdb hother
    intro advertisement row hrow hrow' hshown hsight
    apply managed_bind_blur hrows hshown
    exact Store.updateAdvertisement_blur hrows hdb.advertisementIds hrow hrow' patch

theorem deleteAdvertisement_blur :
    Blurs session.backend viewer
      (deleteAdvertisement actor id session (db.withAdvertisements rows))
      (deleteAdvertisement actor id session db) := by
  subst hviewer
  apply calling_blur
  apply visible_bind_blur hrows hdb hother
  intro advertisement row hrow _ hshown _
  apply managed_bind_blur hrows hshown
  exact Store.deleteAdvertisement_blur hrows (Store.hasAdvertisement_of_find hrow)

theorem addModerator_blur (userId : String) :
    Blurs session.backend viewer
      (addModerator actor id userId session (db.withAdvertisements rows))
      (addModerator actor id userId session db) := by
  have hveils := veils_with hrows
  subst hviewer
  apply calling_blur
  apply visible_bind_blur hrows hdb hother
  intro advertisement row hrow _ hshown hsight
  apply Action.pairs_ite
  · exact fun _ => fail_bind_blur hveils _
  · exact fun _ => Store.addModerator_blur hrows hdb.advertisementIds hrow hsight userId

theorem addComment_blur (hbackend : session.backend.Supplied) (content : String) :
    Blurs session.backend viewer
      (addComment actor id content session (db.withAdvertisements rows))
      (addComment actor id content session db) := by
  subst hviewer
  apply calling_blur
  apply visible_bind_blur hrows hdb hother
  intro advertisement row hrow hrow' _ _
  exact Store.addComment_blur hrows hbackend hdb.advertisementIds (hrow'.trans hrow.symm)

theorem react_blur (hcalm : session.triggers = []) (hbackend : session.backend.Supplied)
    (kind : ReactionKind) :
    Blurs session.backend viewer
      ((do
        let _ ← visibleAdvertisement (some actor) id
        Store.react kind actor.userId id) session (db.withAdvertisements rows))
      ((do
        let _ ← visibleAdvertisement (some actor) id
        Store.react kind actor.userId id) session db) := by
  subst hviewer
  apply visible_bind_blur hrows hdb hother
  intro advertisement row hrow hrow' _ _
  exact Store.react_blur hrows hcalm hbackend hdb.advertisementIds kind actor.userId
    (hrow'.trans hrow.symm)

/-- An advertisement that is read for its creator is the same in both databases, or the viewer did
not create it. -/
theorem creator_paired :
    Store.Paired
      (fun shown shown' => shown = shown' ∧
          (db.withAdvertisements rows).advertisement? id = db.advertisement? id ∨
        shown.creatorId ≠ actor.userId ∧ shown'.creatorId ≠ actor.userId)
      (fun failure failure' => failure = failure')
      (Store.getAdvertisement id session (db.withAdvertisements rows)).answer
      (Store.getAdvertisement id session db).answer := by
  rcases same_or_hidden hdb hother hrows id with hsame | ⟨hhidden, hhidden'⟩
  · have hanswer : (Store.getAdvertisement id session (db.withAdvertisements rows)).answer =
        (Store.getAdvertisement id session db).answer := getAdvertisement_same rfl hsame
    rw [hanswer]
    exact Store.paired_self (fun _ _ => .inl ⟨rfl, hsame⟩) fun _ _ => rfl
  · subst hviewer
    obtain ⟨shown, hread, hforeign⟩ := hhidden.foreign
    obtain ⟨shown', hread', hforeign'⟩ := hhidden'.foreign
    rw [hread, hread']
    exact Store.paired_ok (.inr ⟨hforeign', hforeign⟩)

theorem deleteComment_blur (hplain : actor.Plain) (hbackend : session.backend.Supplied)
    {commentId : String}
    (hfits : (Call.service (.deleteComment actor commentId)).Fits session db)
    (hfits' : (Call.service (.deleteComment actor commentId)).Fits session
      (db.withAdvertisements rows)) :
    Blurs session.backend viewer
      (deleteComment actor commentId session (db.withAdvertisements rows))
      (deleteComment actor commentId session db) := by
  have hveils := veils_with hrows
  apply calling_blur
  apply reads_bind_blur (Store.getComment_reads commentId) hveils rfl
  intro comment hread
  obtain ⟨found, hfound, huser, hat⟩ := Store.getComment_eq_ok hread
  apply Action.pairs_ite
  · intro _
    apply Action.pairs_bind
    apply (Store.getAdvertisement_reads _).pairs (Store.getAdvertisement_reads _)
    apply (creator_paired hrows hdb hother hviewer).mono
    · rintro shown shown' (⟨rfl, hsame⟩ | ⟨hforeign, hforeign'⟩)
      · apply Action.pairs_ite
        · exact fun _ => fail_bind_blur hveils _
        · intro _
          apply Store.deleteComment_blur hrows hbackend hdb.advertisementIds
          intro advertisementId mid hwrite
          rcases Statement.deleteComment_eq_ok_iff.mp hwrite with
            ⟨deleted, hdeleted, -, hgone, rfl⟩ | ⟨-, hnone, -⟩
          · obtain rfl : found = deleted := Option.some.inj (hfound.symm.trans hdeleted)
            obtain rfl := Option.some.inj hgone
            rw [hat] at hsame
            exact .inl hsame
          · cases hnone
      · rw [if_pos (by simpa using hforeign), if_pos (by simpa using hforeign')]
        exact fail_bind_blur hveils _
    · rintro failure _ rfl
      exact ⟨rfl, hveils⟩
  · intro hauthor
    have hown : found.userId = actor.userId := by
      simpa [hplain.2, huser] using hauthor
    have hpermitted : (Command.deleteComment actor commentId).Permitted db :=
      ⟨found, hfound, .inr (.inl hown)⟩
    have hpermitted' : (Command.deleteComment actor commentId).Permitted
        (db.withAdvertisements rows) :=
      ⟨found, hfound, .inr (.inl hown)⟩
    apply Store.deleteComment_blur hrows hbackend hdb.advertisementIds
    intro advertisementId mid hwrite
    right
    constructor
    · have hwrite' : Statement.deleteComment commentId session.triggers
          (db.withAdvertisements rows) =
            .ok (some advertisementId, mid.withAdvertisements rows) := by
        rw [deleteComment_with, hwrite]
        rfl
      exact hfits' hpermitted' _ rfl _ _ (.deleteComment hwrite')
    · exact hfits hpermitted _ rfl _ _ (.deleteComment hwrite)

end Calls

/-! ## Commands -/

theorem replying_blur {backend : Store.Backend τ} {action : Action τ α} {wrap : α → Reply}
    (h : Blurs backend viewer (action session other) (action session db)) :
    Blurs backend viewer (action.replying wrap session other)
      (action.replying wrap session db) := by
  apply Action.pairs_replying
  apply h.mono
  · rintro a _ _ _ ⟨rfl, hveils⟩
    exact ⟨rfl, hveils⟩
  · exact fun _ _ _ _ hbad => hbad

theorem settling_blur {backend : Store.Backend τ} {action : Action τ Unit}
    (h : Blurs backend viewer (action session other) (action session db)) :
    Blurs backend viewer (action.settling session other) (action.settling session db) :=
  replying_blur h

theorem Command.perform_blur (settings : EngineSettings) {command : Command}
    (hrows : List.Forall₂ (Veiled session.backend db viewer) db.advertisements rows)
    (hdb : db.Consistent) (hother : (db.withAdvertisements rows).Consistent)
    (hby : command.By viewer) (hplain : ∀ actor, viewer = some actor → actor.Plain)
    (hcalm : session.triggers = []) (hbackend : session.backend.Supplied)
    (hfits : (Call.service command).Fits session db)
    (hfits' : (Call.service command).Fits session (db.withAdvertisements rows)) :
    Blurs session.backend viewer (command.perform settings session (db.withAdvertisements rows))
      (command.perform settings session db) := by
  have hveils := veils_with hrows
  have hactive : (Store.activeAdvertisements session (db.withAdvertisements rows)).answer =
      (Store.activeAdvertisements session db).answer := activeAdvertisements_veiled hrows
  have hcategories : (Store.listCategories session (db.withAdvertisements rows)).answer =
      (Store.listCategories session db).answer := rfl
  cases command with
  | searchCategories request =>
      exact replying_blur (searching_blur (Action.query_reads _) hveils hcategories)
  | searchAdvertisements request =>
      exact replying_blur (searching_blur (Action.query_reads _) hveils hactive)
  | listCategories page =>
      exact replying_blur (listing_blur (Action.query_reads _) hveils hcategories)
  | listAdvertisements page =>
      exact replying_blur (listing_blur (Action.query_reads _) hveils hactive)
  | getCategory id name => exact replying_blur (getCategory_blur hveils id name)
  | createCategory actor draft =>
      exact replying_blur (calling_blur (Store.insertCategory_blur hrows draft))
  | updateCategory actor id patch =>
      exact replying_blur (calling_blur (unmoderated_blur (hplain actor hby) hveils))
  | deleteCategory actor id =>
      exact settling_blur (calling_blur (unmoderated_blur (hplain actor hby) hveils))
  | getAdvertisement actor id =>
      obtain rfl : actor = viewer := hby
      exact replying_blur (getAdvertisement_blur hrows hdb hother)
  | createAdvertisement actor request =>
      exact replying_blur (createAdvertisement_blur hrows hcalm request)
  | updateAdvertisement actor id patch =>
      exact replying_blur (updateAdvertisement_blur hrows hdb hother hby patch)
  | deleteAdvertisement actor id =>
      exact settling_blur (deleteAdvertisement_blur hrows hdb hother hby)
  | approveAdvertisement actor id active =>
      exact replying_blur (calling_blur (unmoderated_blur (hplain actor hby) hveils))
  | addModerator actor id userId =>
      exact settling_blur (addModerator_blur hrows hdb hother hby userId)
  | addComment actor id content =>
      exact replying_blur (addComment_blur hrows hdb hother hby hbackend content)
  | deleteComment actor commentId =>
      exact settling_blur
        (deleteComment_blur hrows hdb hother hby (hplain actor hby) hbackend hfits hfits')
  | likeAdvertisement actor id =>
      apply replying_blur
      apply calling_blur
      exact react_blur hrows hdb hother hby hcalm hbackend .like
  | saveAdvertisement actor id =>
      apply replying_blur
      apply calling_blur
      exact react_blur hrows hdb hother hby hcalm hbackend .save

end Service

/-! ## Runs -/

namespace Board

open Service (AgreeFor Blurs Veils)

variable {τ : Type} {board : Board τ} {viewer : Option Actor} {db other : Store.Database τ}
  {turns : List Turn} {turn last : Turn}

theorem perform_blurs (hbackend : board.backend.Supplied)
    (hplain : ∀ actor, viewer = some actor → actor.Plain)
    (hcall : ∃ command, turn.call = .service command ∧ command.By viewer)
    (hcalm : turn.triggers = []) (hdb : db.Consistent) (hother : other.Consistent)
    (hveils : Veils board.backend viewer other db)
    (hfits : turn.call.Fits (board.session turn) db)
    (hfits' : turn.call.Fits (board.session turn) other) :
    Blurs board.backend viewer (board.perform turn other) (board.perform turn db) := by
  obtain ⟨command, hcommand, hby⟩ := hcall
  obtain ⟨rows, rfl, hrows⟩ := hveils
  unfold perform Call.perform
  rw [hcommand] at hfits hfits' ⊢
  exact command.perform_blur board.settings hrows hdb hother hby hplain hcalm hbackend hfits hfits'

theorem run_veils (hbackend : board.backend.Supplied)
    (hplain : ∀ actor, viewer = some actor → actor.Plain)
    (hcalls : ∀ turn ∈ turns, ∃ command, turn.call = .service command ∧ command.By viewer)
    (hcalm : ∀ turn ∈ turns, turn.triggers = []) (hdb : db.Consistent) (hother : other.Consistent)
    (hveils : Veils board.backend viewer other db) (hfits : board.ScoresFit db turns)
    (hfits' : board.ScoresFit other turns) :
    Veils board.backend viewer (board.run other turns) (board.run db turns) := by
  induction turns using List.reverseRecOn with
  | nil => exact hveils
  | append_singleton turns turn ih =>
      have hlast : turn ∈ turns ++ [turn] := by simp
      have hbefore := ih
        (fun earlier hearlier => hcalls earlier (List.mem_append_left _ hearlier))
        (fun earlier hearlier => hcalm earlier (List.mem_append_left _ hearlier))
        hfits.earlier hfits'.earlier
      rw [run_concat, run_concat]
      exact (perform_blurs hbackend hplain (hcalls turn hlast) (hcalm turn hlast)
        (run_consistent hdb turns) (run_consistent hother turns) hbefore hfits.last
        hfits'.last).database

/-- Two databases that a viewer, who is neither staff nor a superuser, cannot tell apart cannot be
told apart by any run of calls that the viewer makes: every call is answered the same, and
afterwards the databases still agree for the viewer. -/
theorem hidden_advertisements_do_not_leak (hbackend : board.backend.Supplied)
    (hplain : ∀ actor, viewer = some actor → actor.Plain)
    (hcalls : ∀ turn ∈ turns ++ [last], ∃ command,
      turn.call = .service command ∧ command.By viewer)
    (hcalm : ∀ turn ∈ turns ++ [last], turn.triggers = [])
    (hdb : db.WellFormed board.backend) (hother : other.WellFormed board.backend)
    (hagree : AgreeFor viewer db other) (hfits : board.ScoresFit db (turns ++ [last]))
    (hfits' : board.ScoresFit other (turns ++ [last])) :
    (board.perform last (board.run db turns)).answer =
        (board.perform last (board.run other turns)).answer ∧
      AgreeFor viewer (board.run db (turns ++ [last])) (board.run other (turns ++ [last])) := by
  have hveils : Veils board.backend viewer other db := hagree.veils hdb.readable hother.readable
  have hlast : last ∈ turns ++ [last] := by simp
  have hbefore : Veils board.backend viewer (board.run other turns) (board.run db turns) :=
    run_veils hbackend hplain
      (fun turn hturn => hcalls turn (List.mem_append_left _ hturn))
      (fun turn hturn => hcalm turn (List.mem_append_left _ hturn)) hdb.consistent
      hother.consistent hveils hfits.earlier hfits'.earlier
  have hblurs := perform_blurs hbackend hplain (hcalls last hlast) (hcalm last hlast)
    (run_consistent hdb.consistent turns) (run_consistent hother.consistent turns) hbefore
    hfits.last hfits'.last
  constructor
  · exact hblurs.answer.symm
  · rw [run_concat, run_concat]
    exact hblurs.database.agree

/-- An advertisement on show, and one that was withdrawn after it had drawn a comment. -/
def sampleWithdrawn (title : String) (priceCents : Int64) (score : Int64) :
    Store.Database Time.Instant where
  categories := [⟨"c", "bikes", none, sampleNow, sampleNow⟩]
  advertisements :=
    [⟨"a1", "Road bike", none, "ann", 25000, "c", .whole 0, true, sampleNow, sampleNow⟩,
      ⟨"a2", title, none, "ann", priceCents, "c", .whole score, false, sampleNow, sampleNow⟩]
  comments := [⟨"m", "a2", "bob", "Is it red?", sampleNow⟩]

theorem sampleWithdrawn_wellFormed (title : String) (priceCents score : Int64) :
    (sampleWithdrawn title priceCents score).WellFormed Store.Backend.server where
  consistent := by
    constructor
    case reactionIds | reactionKeys | reactionReferences =>
      rintro (_ | _) <;> simp [sampleWithdrawn, Store.Database.reactions]
    all_goals simp [sampleWithdrawn, Store.Database.hasCategory, Store.Database.hasAdvertisement]
  times := by
    have hparses (t : Time.Instant) : Store.Backend.server.Parses t := fun _ => ⟨t, rfl⟩
    exact ⟨fun _ _ => ⟨hparses _, hparses _⟩, fun _ _ => ⟨hparses _, hparses _⟩,
      fun _ _ => hparses _, fun _ _ _ => hparses _⟩
  scores := by
    intro row hrow
    simp only [sampleWithdrawn, List.mem_cons, List.not_mem_nil, or_false] at hrow
    rcases hrow with rfl | rfl
    · exact ⟨0, rfl⟩
    · exact ⟨score, rfl⟩

theorem sampleWithdrawn_agree (title title' : String)
    (priceCents priceCents' score score' : Int64) :
    AgreeFor (some (.user "bob")) (sampleWithdrawn title priceCents score)
      (sampleWithdrawn title' priceCents' score') where
  categories := rfl
  advertisements := by
    refine .cons ⟨rfl, rfl, rfl, fun _ => rfl⟩ (.cons ⟨rfl, rfl, rfl, fun hsight => ?_⟩ .nil)
    rcases hsight with hactive | ⟨actor, hviewer, hmanages⟩
    · cases hactive
    · obtain rfl := Option.some.inj hviewer
      simp [Service.Manages, Service.Owns, Actor.user, sampleWithdrawn] at hmanages
  moderators := rfl
  comments := rfl
  likes := rfl
  saves := rfl

/-- The author of the comment takes it back, and then asks for the advertisement. -/
def sampleCalls : List Turn :=
  [sampleTurn "1" (.service (.addComment (.user "bob") "a1" "Still there?")),
    sampleTurn "2" (.service (.deleteComment (.user "bob") "m"))]

def sampleQuestion : Turn :=
  sampleTurn "3" (.service (.getAdvertisement (some (.user "bob")) "a2"))

theorem sample_hidden_advertisements_do_not_leak :
    ((sampleBoard.perform sampleQuestion
          (sampleBoard.run (sampleWithdrawn "City bike" 9000 2) sampleCalls)).answer =
        (sampleBoard.perform sampleQuestion
          (sampleBoard.run (sampleWithdrawn "Tandem" 80000 40) sampleCalls)).answer ∧
      AgreeFor (some (.user "bob"))
        (sampleBoard.run (sampleWithdrawn "City bike" 9000 2) (sampleCalls ++ [sampleQuestion]))
        (sampleBoard.run (sampleWithdrawn "Tandem" 80000 40) (sampleCalls ++ [sampleQuestion]))) ∧
    (sampleBoard.perform sampleQuestion
      (sampleBoard.run (sampleWithdrawn "Tandem" 80000 40) sampleCalls)).answer.toOption.isNone =
        true := by
  constructor
  · apply hidden_advertisements_do_not_leak .server
    · intro actor hactor
      obtain rfl := Option.some.inj hactor
      exact ⟨rfl, rfl⟩
    · intro turn hturn
      simp only [sampleCalls, sampleQuestion, sampleTurn, List.cons_append, List.nil_append,
        List.mem_cons, List.not_mem_nil, or_false] at hturn
      rcases hturn with rfl | rfl | rfl
      all_goals exact ⟨_, rfl, rfl⟩
    · decide
    · exact sampleWithdrawn_wellFormed _ _ _
    · exact sampleWithdrawn_wellFormed _ _ _
    · exact sampleWithdrawn_agree _ _ _ _ _ _
    · apply scoresFit_of_room
      decide +kernel
    · apply scoresFit_of_room
      decide +kernel
  · decide +kernel

end Board
end Noticeboard
