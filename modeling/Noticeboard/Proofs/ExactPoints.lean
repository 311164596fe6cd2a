import Noticeboard.Proofs.CallsAsOperations
import Noticeboard.Proofs.ScoreAccounting
import Noticeboard.Proofs.ScoreLimits

/-!
# Points near the limits of the integers

On the embedded database a comment or a reaction that is let in always goes through, and the score
that it leaves is what the database makes of the sum.  As long as weight and sum are 64-bit integers
this is the exact sum, and everything can be read as before.  Past that a double is kept, and then
neither the advertisement nor a listing that it belongs to can be read.
-/

namespace Noticeboard

open Store

variable {τ α : Type}

/-- The points of an event, of whatever size. -/
def ScoreWeights.exact (weights : ScoreWeights) : ScoreEvent.Kind → Int
  | .commentAdded => weights.comment.toInt
  | .commentRemoved => -weights.comment.toInt
  | .likeAdded => weights.like.toInt
  | .saveAdded => weights.save.toInt

/-- Only the negative of the least weight is not what is added. -/
theorem ScoreWeights.delta_exact {weights : ScoreWeights} {kind : ScoreEvent.Kind}
    (hweight : Decimal.isInt64 (weights.exact kind) = true) :
    (weights.delta kind).toInt = weights.exact kind := by
  cases kind with
  | commentAdded => rfl
  | commentRemoved => exact delta_commentRemoved hweight
  | likeAdded => rfl
  | saveAdded => rfl

/-- A record with another score, if it is the one of the id. -/
def Advertisement.rescored (id : String) (score : Int64) (advertisement : Advertisement) :
    Advertisement :=
  if advertisement.id = id then { advertisement with score } else advertisement

namespace Store

/-! ## Reading after a score was set -/

section Reading

variable {session : Session τ} {backend : Backend τ} {db after : Database τ} {id : String}
  {score : Int64}

def AdvertisementRow.rescored (id : String) (score : Int64) (row : AdvertisementRow τ) :
    AdvertisementRow τ :=
  if row.id = id then { row with score := .whole score } else row

/-- Tables in which a score is another, as far as advertisements are read. -/
structure Database.Rescored (id : String) (score : Int64) (db after : Database τ) : Prop where
  categories : after.categories = db.categories
  advertisements : after.advertisements =
    db.advertisements.map (AdvertisementRow.rescored id score)

@[simp] theorem rescored_id (row : AdvertisementRow τ) : (row.rescored id score).id = row.id := by
  unfold AdvertisementRow.rescored
  split <;> rfl

@[simp] theorem rescored_categoryId (row : AdvertisementRow τ) :
    (row.rescored id score).categoryId = row.categoryId := by
  unfold AdvertisementRow.rescored
  split <;> rfl

@[simp] theorem rescored_isActive (row : AdvertisementRow τ) :
    (row.rescored id score).isActive = row.isActive := by
  unfold AdvertisementRow.rescored
  split <;> rfl

theorem newerFirst_rescored (a b : AdvertisementRow τ) :
    newerFirst backend (a.rescored id score) (b.rescored id score) = newerFirst backend a b := by
  have hcreated (row : AdvertisementRow τ) :
      (row.rescored id score).createdAt = row.createdAt := by
    unfold AdvertisementRow.rescored
    split <;> rfl
  simp [newerFirst, hcreated]

theorem readAdvertisement_rescored {row : AdvertisementRow τ} {n : Int64} (categoryName : String)
    (hscore : row.score = .whole n) :
    backend.readAdvertisement (row.rescored id score) categoryName =
      (backend.readAdvertisement row categoryName).map (Advertisement.rescored id score) := by
  by_cases hid : row.id = id
  · simp only [Backend.readAdvertisement, AdvertisementRow.rescored, if_pos hid, hscore,
      Score.read]
    cases backend.readStamp "created_at" row.createdAt with
    | error failure => rfl
    | ok createdAt =>
        cases backend.readStamp "updated_at" row.updatedAt with
        | error failure => rfl
        | ok updatedAt => exact congrArg Except.ok (if_pos hid).symm
  · simp only [Backend.readAdvertisement, AdvertisementRow.rescored, if_neg hid, hscore,
      Score.read]
    cases backend.readStamp "created_at" row.createdAt with
    | error failure => rfl
    | ok createdAt =>
        cases backend.readStamp "updated_at" row.updatedAt with
        | error failure => rfl
        | ok updatedAt => exact congrArg Except.ok (if_neg hid).symm

theorem readJoined_rescored (h : db.Rescored id score after) {row : AdvertisementRow τ}
    {n : Int64} (hscore : row.score = .whole n) :
    readJoined backend after (row.rescored id score) =
      (readJoined backend db row).map (Except.map (Advertisement.rescored id score)) := by
  have hcategory : after.category? row.categoryId = db.category? row.categoryId := by
    simp only [Database.category?, h.categories]
  simp only [readJoined, rescored_categoryId, hcategory, Option.map_map]
  cases db.category? row.categoryId with
  | none => rfl
  | some category => exact congrArg some (readAdvertisement_rescored category.name hscore)

theorem getAdvertisement_rescored (h : db.Rescored id score after) (hwhole : db.ScoresWhole)
    (other : String) :
    (getAdvertisement other session after).answer =
      (getAdvertisement other session db).answer.map (Advertisement.rescored id score) := by
  have hfound : after.advertisement? other =
      (db.advertisement? other).map (AdvertisementRow.rescored id score) := by
    simp only [Database.advertisement?, h.advertisements, List.find?_map]
    congr 2
    funext row
    simp
  simp only [getAdvertisement, Action.query, hfound]
  cases hrow : db.advertisement? other with
  | none => rfl
  | some row =>
      obtain ⟨n, hscore⟩ := hwhole row (List.mem_of_find?_eq_some hrow)
      simp only [Option.map_some, Option.bind_some, readJoined_rescored h hscore]
      cases readJoined session.backend db row with
      | none => rfl
      | some read => rfl

theorem mapM_id_map {ε α β : Type} (f : α → β) (l : List (Except ε α)) :
    (l.map (Except.map f)).mapM (fun read => read) =
      (l.mapM fun read => read).map (List.map f) := by
  induction l with
  | nil => rfl
  | cons first rest ih =>
      rw [List.map_cons, List.mapM_cons, List.mapM_cons, ih]
      cases first with
      | error e => rfl
      | ok a => cases (rest.mapM fun read => read) <;> rfl

theorem activeAdvertisements_rescored (h : db.Rescored id score after) (hwhole : db.ScoresWhole) :
    (activeAdvertisements session after).answer =
      (activeAdvertisements session db).answer.map
        (List.map (Advertisement.rescored id score)) := by
  have hactive : after.advertisements.filter (fun row => row.isActive) =
      (db.advertisements.filter fun row => row.isActive).map
        (AdvertisementRow.rescored id score) := by
    rw [h.advertisements, List.filter_map]
    congr 2
    funext row
    simp
  have hsorted : (after.advertisements.filter fun row => row.isActive).mergeSort
        (newerFirst session.backend) =
      ((db.advertisements.filter fun row => row.isActive).mergeSort
        (newerFirst session.backend)).map (AdvertisementRow.rescored id score) := by
    rw [hactive]
    apply (List.map_mergeSort _).symm
    exact fun a _ b _ => (newerFirst_rescored a b).symm
  have hread : ((after.advertisements.filter fun row => row.isActive).mergeSort
        (newerFirst session.backend)).filterMap (readJoined session.backend after) =
      (((db.advertisements.filter fun row => row.isActive).mergeSort
        (newerFirst session.backend)).filterMap (readJoined session.backend db)).map
          (Except.map (Advertisement.rescored id score)) := by
    rw [hsorted, List.filterMap_map, List.map_filterMap]
    apply List.filterMap_congr
    intro row hrow
    have hmem : row ∈ db.advertisements :=
      (List.mem_filter.mp (List.mem_mergeSort.mp hrow)).1
    obtain ⟨n, hscore⟩ := hwhole row hmem
    exact readJoined_rescored h hscore
  simp only [activeAdvertisements, Action.query]
  rw [hread]
  exact mapM_id_map _ _

/-! A score off the scale is in the way of every read that meets it. -/

theorem getAdvertisement_offScale (h : db.Consistent) (hscale : db.OffScale id) :
    (getAdvertisement id session db).answer = .error (.database .unreadableScore) := by
  obtain ⟨row, x, hrow, hscore⟩ := hscale
  obtain ⟨category, hcategory⟩ := category?_of_hasCategory
    (h.advertisementReferences row (List.mem_of_find?_eq_some hrow))
  simp only [getAdvertisement, Action.query, hrow, Option.bind_some, readJoined, hcategory,
    Option.map_some, Backend.readAdvertisement, hscore, Score.read]
  rfl

theorem ok_of_mapM_eq_ok {ε α β : Type} {f : α → Except ε β} {l : List α} {bs : List β}
    (h : l.mapM f = .ok bs) : ∀ a ∈ l, ∃ b, f a = .ok b := by
  induction l generalizing bs with
  | nil => simp
  | cons first rest ih =>
      rw [List.mapM_cons] at h
      obtain ⟨b, hfirst, hrest⟩ := bind_eq_ok.mp h
      obtain ⟨others, htail, -⟩ := bind_eq_ok.mp hrest
      intro a ha
      rcases List.mem_cons.mp ha with rfl | hmem
      · exact ⟨b, hfirst⟩
      · exact ih htail a hmem

theorem activeAdvertisements_offScale (h : db.Consistent) {row : AdvertisementRow τ} {x : Float}
    (hrow : row ∈ db.advertisements) (hactive : row.isActive = true)
    (hscore : row.score = .real x) :
    ∃ failure, (activeAdvertisements session db).answer = .error failure := by
  obtain ⟨category, hcategory⟩ := category?_of_hasCategory (h.advertisementReferences row hrow)
  have hjoined : readJoined session.backend db row =
      some (.error (.database .unreadableScore)) := by
    simp only [readJoined, hcategory, Option.map_some, Backend.readAdvertisement, hscore,
      Score.read]
    rfl
  cases hanswer : (activeAdvertisements session db).answer with
  | error failure => exact ⟨failure, rfl⟩
  | ok advertisements =>
      have hlisted : row ∈ (db.advertisements.filter fun row => row.isActive).mergeSort
          (newerFirst session.backend) :=
        List.mem_mergeSort.mpr (List.mem_filter.mpr ⟨hrow, hactive⟩)
      obtain ⟨advertisement, hread⟩ := ok_of_mapM_eq_ok hanswer _
        (List.mem_filterMap.mpr ⟨row, hlisted, hjoined⟩)
      contradiction

/-- Whatever is read of advertisements is as before but for one score. -/
structure Database.ReadsRescored (id : String) (score : Int64) (db after : Database τ) : Prop where
  advertisement : ∀ session other, (getAdvertisement other session after).answer =
    (getAdvertisement other session db).answer.map (Advertisement.rescored id score)
  listing : ∀ session, (activeAdvertisements session after).answer =
    (activeAdvertisements session db).answer.map (List.map (Advertisement.rescored id score))

theorem Database.Rescored.reads (h : db.Rescored id score after) (hwhole : db.ScoresWhole) :
    db.ReadsRescored id score after where
  advertisement _ other := getAdvertisement_rescored h hwhole other
  listing _ := activeAdvertisements_rescored h hwhole

/-- The advertisement cannot be read, and if it is active, no active one can be listed. -/
structure AdvertisementRow.CannotBeReadIn (row : AdvertisementRow τ) (after : Database τ) :
    Prop where
  advertisement : ∀ session, (getAdvertisement row.id session after).answer =
    .error (.database .unreadableScore)
  listing : row.isActive = true → ∀ session,
    ∃ failure, (activeAdvertisements session after).answer = .error failure

theorem cannotBeRead_setScore {row : AdvertisementRow τ} {x : Float}
    (h : (setScore db id (.real x)).Consistent) (hrow : db.advertisement? id = some row) :
    row.CannotBeReadIn (setScore db id (.real x)) := by
  have hid : row.id = id := key_eq_of_find? hrow
  have hmem : { row with score := .real x } ∈ (setScore db id (.real x)).advertisements := by
    apply List.mem_map.mpr
    exact ⟨row, List.mem_of_find?_eq_some hrow, if_pos hid⟩
  have hfound := advertisement?_of_mem h hmem
  constructor
  case advertisement => exact fun _ => getAdvertisement_offScale h ⟨_, x, hfound, rfl⟩
  case listing => exact fun hactive _ => activeAdvertisements_offScale h hmem hactive rfl

end Reading

/-! ## Operations that move points -/

/-- The operations that come with points. -/
def Command.Engages : Command → Prop
  | .addComment _ | .deleteComment _ | .likeAdvertisement _ _ | .saveAdvertisement _ _ => True
  | _ => False

section Moving

variable {session : Session τ} {db mid : Database τ} {command : Command} {event : ScoreEvent}

/-- Before points are moved, only the row of the comment or the reaction is another. -/
theorem Command.Moves.unscored (h : command.Moves session db event mid)
    (hcalm : session.triggers = []) :
    mid.advertisements = db.advertisements ∧ mid.categories = db.categories := by
  have hreaction {kind : ReactionKind} {row : ReactionRow τ}
      (hwrite : Statement.insertReaction kind row session.triggers db = .ok ((), mid)) :
      mid.advertisements = db.advertisements ∧ mid.categories = db.categories := by
    obtain ⟨-, -, -, -, ⟨⟨-, hdrop⟩, -⟩ | ⟨-, rfl⟩⟩ := Statement.insertReaction_eq_ok_iff.mp hwrite
    · simp [hcalm] at hdrop
    · cases kind with
      | like => exact ⟨rfl, rfl⟩
      | save => exact ⟨rfl, rfl⟩
  cases h with
  | addComment hcontent hwrite =>
      obtain ⟨-, -, -, rfl⟩ := Statement.insertComment_eq_ok_iff.mp hwrite
      exact ⟨rfl, rfl⟩
  | deleteComment hwrite =>
      rcases Statement.deleteComment_eq_ok_iff.mp hwrite with ⟨_, -, -, -, rfl⟩ | ⟨-, -, rfl⟩
      · exact ⟨rfl, rfl⟩
      · exact ⟨rfl, rfl⟩
  | like hwrite => exact hreaction hwrite
  | save hwrite => exact hreaction hwrite

/-- Where references hold, points are moved at an advertisement that is there. -/
theorem Command.Moves.present (h : command.Moves session db event mid)
    (hconsistent : db.Consistent) : ∃ row, db.advertisement? event.advertisementId = some row := by
  apply advertisement?_of_hasAdvertisement
  cases h with
  | addComment hcontent hwrite =>
      obtain ⟨-, -, hpresent, -⟩ := Statement.insertComment_eq_ok_iff.mp hwrite
      exact hpresent
  | deleteComment hwrite =>
      rcases Statement.deleteComment_eq_ok_iff.mp hwrite with ⟨row, hrow, -, hat, -⟩ | ⟨-, hno, -⟩
      · obtain rfl := Option.some.inj hat
        exact hconsistent.commentReferences row (List.mem_of_find?_eq_some hrow)
      · contradiction
  | like hwrite =>
      obtain ⟨-, -, -, hpresent, -⟩ := Statement.insertReaction_eq_ok_iff.mp hwrite
      exact hpresent
  | save hwrite =>
      obtain ⟨-, -, -, hpresent, -⟩ := Statement.insertReaction_eq_ok_iff.mp hwrite
      exact hpresent

theorem applyEvent_scores {row : AdvertisementRow τ} {score : Score}
    (hcalm : session.triggers = [])
    (hrow : mid.advertisement? event.advertisementId = some row)
    (hadd : session.backend.addScore row.score (session.weights.delta event.kind) = .ok score) :
    (applyEvent event session mid).Meets
      (fun _ after => after = setScore mid event.advertisementId score) (fun _ _ => False) := by
  have hrun : Statement.addScore
      (fun score => session.backend.addScore score (session.weights.delta event.kind))
      event.advertisementId session.triggers mid =
        .ok (true, setScore mid event.advertisementId score) := by
    apply Statement.addScore_eq_ok_iff.mpr
    refine .inl ⟨row, score, hrow, ?_, hadd, rfl, rfl⟩
    rw [hcalm]
    rfl
  unfold applyEvent increment
  simp [hrun]

/-- Once the row is written, the operation succeeds if the points can be added. -/
theorem Command.Moves.performed (h : command.Moves session db event mid)
    (hcalm : session.triggers = []) {row : AdvertisementRow τ} {score : Score}
    (hrow : mid.advertisement? event.advertisementId = some row)
    (hadd : session.backend.addScore row.score (session.weights.delta event.kind) = .ok score) :
    (command.perform session db).Meets
      (fun _ after => after = setScore mid event.advertisementId score) (fun _ _ => False) := by
  have hscored := applyEvent_scores hcalm hrow hadd
  have hreaction {kind : ReactionKind} {userId advertisementId : String}
      (hwrite : Statement.insertReaction kind
        ⟨kind.freshId session.ids, userId, advertisementId, session.stamp⟩ session.triggers db =
          .ok ((), mid))
      (hscored : (applyEvent ⟨kind.event, advertisementId⟩ session mid).Meets
        (fun _ after => after = setScore mid advertisementId score) (fun _ _ => False)) :
      (react kind userId advertisementId session db).Meets
        (fun _ after => after = setScore mid advertisementId score) (fun _ _ => False) := by
    unfold Session.stamp at hwrite
    simpa [react, hwrite] using hscored
  cases h with
  | addComment hcontent hwrite =>
      apply Action.meets_replying.mpr
      unfold Session.stamp at hwrite
      simpa [Store.addComment, hcontent, hwrite] using hscored
  | deleteComment hwrite =>
      apply Action.meets_replying.mpr
      simpa [Store.deleteComment, hwrite] using hscored
  | like hwrite => exact Action.meets_replying.mpr (hreaction hwrite hscored)
  | save hwrite => exact Action.meets_replying.mpr (hreaction hwrite hscored)

/-- An operation that does not get to move points is refused. -/
theorem Command.refused_of_still (hengages : command.Engages)
    (hstill : ∀ event mid, ¬ command.Moves session db event mid) :
    (command.perform session db).Refused db := by
  rw [Outcome.refused_iff_meets]
  have hreaction {kind : ReactionKind} {userId advertisementId : String}
      (hstill : ∀ mid, Statement.insertReaction kind
        ⟨kind.freshId session.ids, userId, advertisementId, session.stamp⟩ session.triggers db ≠
          .ok ((), mid)) :
      (react kind userId advertisementId session db).Meets (fun _ _ => False)
        (fun _ after => after = db) := by
    unfold Session.stamp at hstill
    simp only [react, Action.meets_bind, Action.meets_session, Action.meets_transaction,
      Action.meets_execute, implies_true, and_true]
    exact fun _ mid hwrite => absurd hwrite (hstill mid)
  cases command with
  | addComment draft =>
      apply Action.meets_replying.mpr
      simp only [Store.addComment, Action.meets_bind, Action.meets_ofExcept, Action.meets_session,
        Action.meets_transaction, Action.meets_execute, implies_true, and_true]
      intro _ hcontent _ mid hwrite
      exact absurd (.addComment hcontent hwrite) (hstill _ mid)
  | deleteComment id =>
      apply Action.meets_replying.mpr
      simp only [Store.deleteComment, Action.meets_bind, Action.meets_transaction,
        Action.meets_execute, implies_true, and_true]
      intro at? mid hwrite
      cases at? with
      | some advertisementId => exact absurd (.deleteComment hwrite) (hstill _ mid)
      | none => simp
  | likeAdvertisement userId advertisementId =>
      apply Action.meets_replying.mpr
      exact hreaction fun mid hwrite => hstill _ mid (.like hwrite)
  | saveAdvertisement userId advertisementId =>
      apply Action.meets_replying.mpr
      exact hreaction fun mid hwrite => hstill _ mid (.save hwrite)
  | _ => exact hengages.elim

theorem Command.Moves.engages (h : command.Moves session db event mid) : command.Engages := by
  cases h with
  | addComment => trivial
  | deleteComment => trivial
  | like => trivial
  | save => trivial

theorem Outcome.Agrees.meets {outcome other : Outcome τ α} {good : α → Database τ → Prop}
    {bad : Failure → Database τ → Prop} (h : outcome.Agrees other) (hother : other.Meets good bad) :
    outcome.Meets good bad := by
  apply (agrees_iff_meets.mp h).mono
  · rintro a after ⟨hanswer, rfl⟩
    exact hother.of_ok hanswer
  · rintro failure after ⟨hanswer, rfl⟩
    exact hother.of_error hanswer

end Moving

end Store

/-! ## Calls -/

def Call.Engages : Call → Prop
  | .service command => ∃ operation, command.operation? = some operation ∧ operation.Engages
  | .store command => command.Engages

/-- A call of the service gets to move points if it has the right to and its operation does. -/
def Call.Moves (session : Session τ) (db : Database τ) (call : Call) (event : ScoreEvent)
    (mid : Database τ) : Prop :=
  match call with
  | .service command => command.Permitted db ∧
      ∃ operation, command.operation? = some operation ∧ operation.Moves session db event mid
  | .store command => command.Moves session db event mid

theorem Service.Command.not_idle {command : Service.Command} {operation : Store.Command}
    (hoperation : command.operation? = some operation) (hengages : operation.Engages) :
    ¬ command.IdlePatch := by
  cases command with
  | updateCategory =>
      obtain rfl := Option.some.inj hoperation
      exact hengages.elim
  | updateAdvertisement =>
      obtain rfl := Option.some.inj hoperation
      exact hengages.elim
  | _ => exact not_false

theorem Service.Command.not_obstructed {db : Database τ} (hwhole : db.ScoresWhole)
    (command : Service.Command) : ¬ command.Obstructed db := by
  cases command with
  | deleteComment =>
      rintro ⟨comment, -, -, -, hscale⟩
      exact hwhole.not_offScale _ hscale
  | updateAdvertisement => exact hwhole.not_offScale _
  | deleteAdvertisement => exact hwhole.not_offScale _
  | addModerator => exact hwhole.not_offScale _
  | addComment => exact hwhole.not_offScale _
  | likeAdvertisement => exact hwhole.not_offScale _
  | saveAdvertisement => exact hwhole.not_offScale _
  | _ => exact not_false

section Calls

variable {session : Session τ} {call : Call} {db mid : Database τ} {event : ScoreEvent}

theorem Call.Moves.operation (h : call.Moves session db event mid) :
    ∃ operation : Store.Command, operation.Moves session db event mid := by
  cases call with
  | store command => exact ⟨command, h⟩
  | service command =>
      obtain ⟨-, operation, -, hmoves⟩ := h
      exact ⟨operation, hmoves⟩

theorem Call.Moves.unscored (h : call.Moves session db event mid)
    (hcalm : session.triggers = []) :
    mid.advertisements = db.advertisements ∧ mid.categories = db.categories := by
  obtain ⟨operation, hmoves⟩ := h.operation
  exact Store.Command.Moves.unscored hmoves hcalm

theorem Call.Moves.present (h : call.Moves session db event mid) (hconsistent : db.Consistent) :
    ∃ row, db.advertisement? event.advertisementId = some row := by
  obtain ⟨operation, hmoves⟩ := h.operation
  exact Store.Command.Moves.present hmoves hconsistent

end Calls

namespace Board

section Calls

variable {board : Board τ} {turn : Turn} {db mid : Database τ} {event : ScoreEvent}

theorem refused_of_still (hengages : turn.call.Engages)
    (hstill : ∀ event mid, ¬ turn.call.Moves (board.session turn) db event mid) :
    (board.perform turn db).Refused db := by
  unfold perform Call.perform
  cases hcall : turn.call with
  | store command =>
      rw [hcall] at hengages hstill
      exact Store.Command.refused_of_still hengages hstill
  | service command =>
      rw [hcall] at hengages hstill
      obtain ⟨operation, hoperation, hoperates⟩ := hengages
      by_cases hpermitted : command.Permitted db
      · have hrefused := Store.Command.refused_of_still hoperates fun event mid hmoves =>
          hstill event mid ⟨hpermitted, operation, hoperation, hmoves⟩
        rcases command.perform_comesTo board.settings hoperation with hstopped | hagrees
        · exact hstopped
        · rw [Outcome.refused_iff_meets] at hrefused ⊢
          exact hagrees.meets hrefused
      · exact command.perform_refused board.settings (.inl hpermitted)

theorem performed_of_moves (hcalm : turn.triggers = []) (hwhole : db.ScoresWhole)
    (hservice : ∀ command, turn.call = .service command →
      db.Orderly board.backend ∧ Service.IdsGiven db)
    (hmoves : turn.call.Moves (board.session turn) db event mid) {row : AdvertisementRow τ}
    {score : Score} (hrow : mid.advertisement? event.advertisementId = some row)
    (hadd : board.backend.addScore row.score (board.weights.delta event.kind) = .ok score) :
    (board.perform turn db).Meets
      (fun _ after => after = setScore mid event.advertisementId score) (fun _ _ => False) := by
  unfold perform Call.perform
  cases hcall : turn.call with
  | store command =>
      rw [hcall] at hmoves
      exact Store.Command.Moves.performed hmoves hcalm hrow hadd
  | service command =>
      rw [hcall] at hmoves
      obtain ⟨hpermitted, operation, hoperation, hoperates⟩ := hmoves
      obtain ⟨horderly, hgiven⟩ := hservice command hcall
      have hagrees : (command.perform board.settings (board.session turn) db).Agrees
          (operation.perform (board.session turn) db) :=
        command.perform_agrees board.settings horderly hgiven hpermitted
          (command.not_idle hoperation hoperates.engages) (command.not_obstructed hwhole) hoperation
      exact hagrees.meets (hoperates.performed hcalm hrow hadd)

end Calls

section Embedded

variable {board : Board String} {turn : Turn} {db : Database String}

/-- On the embedded database a call that does not get to move points is refused, and one that does
always succeeds.  If the weight and the sum are 64-bit integers, exactly the sum is stored, and
every advertisement and the listing read as before but for that score.  The database adds past the
limits as well, and where that leaves a double, the advertisement cannot be read any more. -/
theorem points_within_limits (hbackend : board.backend = .embedded) (hcalm : turn.triggers = [])
    (hengages : turn.call.Engages) (hconsistent : db.Consistent) (hwhole : db.ScoresWhole)
    (hservice : ∀ command, turn.call = .service command →
      db.Orderly board.backend ∧ Service.IdsGiven db) :
    ((∀ event mid, ¬ turn.call.Moves (board.session turn) db event mid) →
      (board.perform turn db).Refused db) ∧
    ∀ event mid, turn.call.Moves (board.session turn) db event mid →
      ∃ row n, db.advertisement? event.advertisementId = some row ∧ row.score = .whole n ∧
        (∃ reply, (board.perform turn db).answer = .ok reply) ∧
        (board.perform turn db).database = setScore mid event.advertisementId
          ((Score.whole n).addReal (board.weights.delta event.kind)) ∧
        (Decimal.isInt64 (board.weights.exact event.kind) = true →
          Decimal.isInt64 (n.toInt + board.weights.exact event.kind) = true →
          ∃ sum : Int64, sum.toInt = n.toInt + board.weights.exact event.kind ∧
            (board.perform turn db).database = setScore mid event.advertisementId (.whole sum) ∧
            db.ReadsRescored event.advertisementId sum (board.perform turn db).database) ∧
        ∀ x, (Score.whole n).addReal (board.weights.delta event.kind) = .real x →
          row.CannotBeReadIn (board.perform turn db).database := by
  refine ⟨refused_of_still hengages, fun event mid hmoves => ?_⟩
  obtain ⟨row, hrow⟩ := hmoves.present hconsistent
  obtain ⟨n, hscore⟩ := hwhole row (List.mem_of_find?_eq_some hrow)
  obtain ⟨hadvertisements, hcategories⟩ := hmoves.unscored hcalm
  have hfound : mid.advertisement? event.advertisementId = some row := by
    rw [Database.advertisement?, hadvertisements]
    exact hrow
  have hadd : board.backend.addScore row.score (board.weights.delta event.kind) =
      .ok ((Score.whole n).addReal (board.weights.delta event.kind)) := by
    rw [hbackend, hscore]
    rfl
  have hperformed := performed_of_moves hcalm hwhole hservice hmoves hfound hadd
  have hafter : (board.perform turn db).database = setScore mid event.advertisementId
      ((Score.whole n).addReal (board.weights.delta event.kind)) :=
    Outcome.Meets.database (hperformed.mono (fun _ _ hsame => hsame) fun _ _ hnever => hnever.elim)
  have hanswer : ∃ reply, (board.perform turn db).answer = .ok reply := by
    cases hreply : (board.perform turn db).answer with
    | ok reply => exact ⟨reply, rfl⟩
    | error failure => exact (hperformed.of_error hreply).elim
  refine ⟨row, n, hrow, hscore, hanswer, hafter, fun hweight hfits => ?_, fun x hreal => ?_⟩
  · have hexact := ScoreWeights.delta_exact hweight
    rw [← hexact] at hfits ⊢
    have hsum : (Score.whole n).addReal (board.weights.delta event.kind) =
        .whole (Int64.ofInt (n.toInt + (board.weights.delta event.kind).toInt)) := by
      simp [Score.addReal, hfits]
    rw [hsum] at hafter
    refine ⟨_, toInt_ofInt_of_isInt64 hfits, hafter, ?_⟩
    apply Database.Rescored.reads _ hwhole
    rw [hafter]
    exact ⟨hcategories, by rw [← hadvertisements]; rfl⟩
  · rw [hreal] at hafter
    have hkept : (board.perform turn db).database.Consistent :=
      hconsistent.changed (perform_settled turn db).changed
    rw [hafter] at hkept ⊢
    exact cannotBeRead_setScore hkept hfound

end Embedded

/-! ## A board at the limits -/

/-- An active advertisement without points. -/
def publishedHistory : List Turn :=
  [sampleTurn "1" (.service (.createAdvertisement (.user "ann")
      ⟨⟨"Road bike", none, 25000⟩, .new ⟨"Bikes", none⟩⟩)),
    sampleTurn "2" (.service (.approveAdvertisement (.staff "dan") "a1" true))]

def bobsLike : Turn :=
  sampleTurn "3" (.service (.likeAdvertisement (.user "bob") "a1"))

def evesLike : Turn :=
  sampleTurn "4" (.service (.likeAdvertisement (.user "eve") "a1"))

theorem publishedHistory_timely :
    ∀ turn ∈ publishedHistory, offScaleBoard.backend.Timely turn.now := by
  have hnow : ∀ turn ∈ publishedHistory, turn.now = sampleNow := by decide
  intro turn hturn
  rw [hnow turn hturn]
  exact .embedded (by decide)

theorem sample_points_within_limits :
    let db := offScaleBoard.run .empty publishedHistory
    ∃ sum : Int64, sum.toInt = 0x7FFFFFFFFFFFFFFF ∧
      db.ReadsRescored "a1" sum (offScaleBoard.perform bobsLike db).database := by
  intro db
  have hrows : db.advertisements = [⟨"a1", "Road bike", none, "ann", 25000, "c1", .whole 0, true,
      offScaleBoard.backend.stamp sampleNow, offScaleBoard.backend.stamp sampleNow⟩] := rfl
  have hwhole : db.ScoresWhole := by
    intro row hrow
    rw [hrows] at hrow
    obtain rfl := List.mem_singleton.mp hrow
    exact ⟨0, rfl⟩
  have hids : ∀ turn ∈ publishedHistory, (Text.trim turn.ids.advertisement).isEmpty = false := by
    decide
  obtain ⟨-, hpoints⟩ := @points_within_limits offScaleBoard bobsLike db rfl rfl
    ⟨_, rfl, trivial⟩ (run_consistent .empty publishedHistory) hwhole
    fun _ _ => ⟨run_orderly publishedHistory_timely, run_idsGiven hids⟩
  obtain ⟨row, n, hrow, hscore, -, -, hfits, -⟩ := hpoints ⟨.likeAdded, "a1"⟩ _
    ⟨⟨_, rfl, .inl rfl⟩, _, rfl, .like rfl⟩
  obtain rfl := Option.some.inj hrow
  obtain rfl := Score.whole.inj hscore
  obtain ⟨sum, hsum, -, hreads⟩ := hfits (by decide) (by decide)
  exact ⟨sum, hsum, hreads⟩

theorem like_past_the_limits :
    let db := offScaleBoard.run .empty (publishedHistory ++ [bobsLike])
    let outcome := offScaleBoard.perform evesLike db
    db.ScoresWhole ∧
      Decimal.isInt64 (0x7FFFFFFFFFFFFFFF + offScaleBoard.weights.exact .likeAdded) = false ∧
      ¬ outcome.Refused db ∧ ∀ session,
        (getAdvertisement "a1" session outcome.database).answer =
          .error (.database .unreadableScore) ∧
        ∃ failure, (activeAdvertisements session outcome.database).answer = .error failure := by
  intro db outcome
  have hrows : db.advertisements = [⟨"a1", "Road bike", none, "ann", 25000, "c1",
      .whole 0x7FFFFFFFFFFFFFFF, true, offScaleBoard.backend.stamp sampleNow,
      offScaleBoard.backend.stamp sampleNow⟩] := rfl
  have hwhole : db.ScoresWhole := by
    intro row hrow
    rw [hrows] at hrow
    obtain rfl := List.mem_singleton.mp hrow
    exact ⟨_, rfl⟩
  have hgone : ¬ outcome.Refused db := by
    rintro ⟨⟨failure, hfailed⟩, -⟩
    have hanswer : ∃ reply, outcome.answer = .ok reply := ⟨_, rfl⟩
    obtain ⟨reply, hreply⟩ := hanswer
    rw [hreply] at hfailed
    contradiction
  have hkept : outcome.database.Consistent :=
    (run_consistent .empty (publishedHistory ++ [bobsLike])).changed
      (perform_settled evesLike db).changed
  have hscale : outcome.database.OffScale "a1" := by decide +kernel
  have hactive : (outcome.database.advertisement? "a1").map AdvertisementRow.isActive =
      some true := rfl
  obtain ⟨row, x, hrow, hscore⟩ := hscale
  rw [hrow, Option.map_some, Option.some.injEq] at hactive
  refine ⟨hwhole, by decide, hgone, fun session => ⟨?_, ?_⟩⟩
  · exact getAdvertisement_offScale hkept ⟨row, x, hrow, hscore⟩
  · exact activeAdvertisements_offScale hkept (List.mem_of_find?_eq_some hrow) hactive hscore

end Board
end Noticeboard
