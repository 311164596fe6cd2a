import Noticeboard.Proofs.Browsing
import Noticeboard.Proofs.CallsAsOperations
import Noticeboard.Proofs.ExactPoints
import Noticeboard.Proofs.SortedCandidates

/-!
# The category an advertisement is shown in

A record of an advertisement comes with the name of its category.  It is put together whenever the
advertisement is read, so the name is the one that the category has at that time.
-/

namespace Noticeboard

open Store

variable {τ α β E F : Type} {session : Session τ} {db : Database τ} {settings : EngineSettings}

/-- The advertisements that a reply shows. -/
def Reply.shown : Reply → List Advertisement
  | .advertisement found => [found]
  | .advertisements all => all
  | .advertisementPage page => page.items
  | _ => []

/-! ## What stands on a page -/

section Pages

variable [Searchable E F] {fields : List (WeightedField F)} {corpus : Action τ (List E)}
  {items : List E} {page : Page E}

theorem Ranking.paginate_subset (items : List E) (page : UInt32) :
    paginate settings items page ⊆ items :=
  fun _ hitem => List.mem_of_mem_drop (List.mem_of_mem_take hitem)

theorem Ranking.rank_subset {params : SearchParams}
    (h : rank settings fields params items = .ok page) : page.items ⊆ items := by
  unfold rank at h
  cases hquery : params.query with
  | none =>
      simp only [hquery, Except.ok.injEq] at h
      subst h
      exact List.Subset.refl items
  | some query =>
      simp only [hquery, pageOfCandidates, ite_eq_ok, reduceCtorEq, and_false, false_or,
        Except.ok.injEq] at h
      obtain ⟨-, rfl⟩ := h
      intro entity hentity
      obtain ⟨candidate, hcandidate, rfl⟩ := List.mem_map.mp hentity
      exact entity_mem_of_mem_candidates (paginate_subset _ _ hcandidate)

theorem Service.searching_subset {operation : Operation} {request : SearchRequest}
    (hcorpus : corpus.Reads)
    (h : (searching settings operation fields request corpus session db).answer = .ok page) :
    ∃ items, (corpus session db).answer = .ok items ∧ page.items ⊆ items := by
  have hmeets : (searching settings operation fields request corpus session db).Meets
      (fun page _ => ∃ items, (corpus session db).answer = .ok items ∧ page.items ⊆ items)
      fun _ _ => True := by
    simp only [searching, Action.meets_bind, Action.meets_note, meets_finishingPage,
      Action.meets_ofExcept, hcorpus.meets_iff, (rankNoted_reads _ _ _ _).meets_iff,
      rankNoted_answer, implies_true, and_true]
    exact fun params _ items hitems found hfound =>
      ⟨items, hitems, Ranking.rank_subset hfound⟩
  exact hmeets.of_ok h

theorem Service.listing_subset {operation : Operation} {number : UInt32}
    (hcorpus : corpus.Reads)
    (h : (listing settings operation number corpus session db).answer = .ok page) :
    ∃ items, (corpus session db).answer = .ok items ∧ page.items ⊆ items := by
  have hmeets : (listing settings operation number corpus session db).Meets
      (fun page _ => ∃ items, (corpus session db).answer = .ok items ∧ page.items ⊆ items)
      fun _ _ => True := by
    simp only [listing, Action.meets_bind, meets_finishingPage, Action.meets_ofExcept,
      hcorpus.meets_iff, Action.meets_ite, Action.meets_fail, Action.meets_pure, implies_true,
      and_true, true_and]
    exact fun number _ items hitems _ => ⟨items, hitems, Ranking.paginate_subset items number⟩
  exact hmeets.of_ok h

end Pages

namespace Store

/-! ## Records that are read -/

theorem getAdvertisement_eq_ok_iff {id : String} {advertisement : Advertisement} :
    (getAdvertisement id session db).answer = .ok advertisement ↔
      ∃ row, db.advertisement? id = some row ∧
        readJoined session.backend db row = some (.ok advertisement) := by
  simp only [getAdvertisement, Action.query]
  cases hrow : db.advertisement? id with
  | none => simp
  | some row =>
      cases hjoined : readJoined session.backend db row with
      | none => simp [hjoined]
      | some read => simp [hjoined]

theorem getAdvertisement_names {id : String} {advertisement : Advertisement}
    (hread : (getAdvertisement id session db).answer = .ok advertisement) :
    db.Names advertisement.categoryId advertisement.categoryName := by
  obtain ⟨row, -, hjoined⟩ := getAdvertisement_eq_ok_iff.mp hread
  exact (readJoined_eq_ok hjoined).named

theorem forall₂_of_mapM_eq_ok {ε : Type} {f : α → Except ε β} {l : List α} {bs : List β}
    (h : l.mapM f = .ok bs) : List.Forall₂ (fun a b => f a = .ok b) l bs := by
  obtain ⟨others, hothers, hreads⟩ := mapM_of_forall (ok_of_mapM_eq_ok h)
  rw [h, Except.ok.injEq] at hothers
  rwa [hothers]

theorem activeAdvertisements_names {items : List Advertisement}
    (hread : (activeAdvertisements session db).answer = .ok items) :
    ∀ advertisement ∈ items, db.Names advertisement.categoryId advertisement.categoryName := by
  intro advertisement hadvertisement
  obtain ⟨joined, hjoined, hok⟩ := row_of_item (forall₂_of_mapM_eq_ok hread) _ hadvertisement
  obtain ⟨row, -, hrow⟩ := List.mem_filterMap.mp hjoined
  rw [id_eq] at hok
  rw [hok] at hrow
  exact (readJoined_eq_ok hrow).named

/-! ## Records that are put together -/

theorem readCategory_eq_ok {backend : Backend τ} {row : CategoryRow τ} {category : Category}
    (hread : backend.readCategory row = .ok category) :
    category.id = row.id ∧ category.name = row.name := by
  simp only [Backend.readCategory, bind_eq_ok, pure_eq_ok] at hread
  obtain ⟨created, -, updated, -, rfl⟩ := hread
  exact ⟨rfl, rfl⟩

theorem getCategory_named {id : String} {category : Category}
    (hread : (getCategory id session db).answer = .ok category) : db.Names category.id category.name := by
  simp only [getCategory, Action.query, lookUpCategory] at hread
  split at hread
  next row hrow =>
    have hid : row.id = id := key_eq_of_find? hrow
    obtain ⟨hcategory, hname⟩ := readCategory_eq_ok hread
    simp [Database.Names, hcategory, hid, hrow, hname]
  next => contradiction

theorem insertCategory_named (draft : CategoryDraft) :
    (insertCategory draft session db).Meets (fun category after => after.Names category.id category.name)
      fun _ _ => True := by
  unfold insertCategory
  simp only [Action.meets_bind, Action.meets_ofExcept, Action.meets_session, Action.meets_execute,
    Action.meets_pure, Statement.insertCategory_eq_ok_iff, implies_true, and_true]
  rintro name - - after ⟨-, hnew, -, rfl⟩
  have hnone : db.categories.find? (fun row => row.id == session.ids.category) = none := by
    simpa [Database.hasCategory] using hnew
  simp [Database.Names, Database.category?, List.find?_append, hnone]

/-- The name that a new advertisement is shown with is that of the category it was given. -/
theorem insertAdvertisement_names {creatorId : String} {category : Category}
    {draft : AdvertisementDraft} (hcategory : db.Names category.id category.name) :
    (insertAdvertisement creatorId category draft session db).Meets
      (fun a after => after.Names a.categoryId a.categoryName) fun _ _ => True := by
  unfold insertAdvertisement
  simp only [Action.meets_bind, Action.meets_session, Action.meets_execute, Action.meets_pure,
    Statement.insertAdvertisement_eq_ok_iff, implies_true, and_true]
  rintro - after ⟨-, -, -, -, -, rfl⟩
  exact hcategory

/-! ## Operations -/

/-- Whatever an operation shows carries the names that stand in the tables it leaves. -/
def Outcome.ShowsNames (outcome : Outcome τ Reply) : Prop :=
  outcome.Meets (fun reply after => ∀ a ∈ reply.shown, after.Names a.categoryId a.categoryName)
    fun _ _ => True

theorem Outcome.meets_true (outcome : Outcome τ α) :
    outcome.Meets (fun _ _ => True) fun _ _ => True := by
  unfold Outcome.Meets
  split
  · trivial
  · trivial

/-- It is the last action of several that answers. -/
theorem meets_bind_last {action : Action τ β} {next : β → Action τ α}
    {good : α → Database τ → Prop}
    (h : ∀ b mid, (next b session mid).Meets good fun _ _ => True) :
    ((action >>= next) session db).Meets good fun _ _ => True := by
  rw [Action.meets_bind]
  exact (Outcome.meets_true _).mono (fun b mid _ => h b mid) fun _ _ _ => trivial

theorem showsNames_of_none {action : Action τ α} {wrap : α → Reply}
    (hwrap : ∀ a, (wrap a).shown = []) : (action.replying wrap session db).ShowsNames := by
  unfold Outcome.ShowsNames
  rw [Action.meets_replying]
  refine (Outcome.meets_true _).mono (fun a after _ => ?_) fun _ _ _ => trivial
  simp [hwrap]

theorem showsNames_advertisement {action : Action τ Advertisement}
    (h : (action session db).Meets (fun a after => after.Names a.categoryId a.categoryName)
      fun _ _ => True) :
    (action.replying .advertisement session db).ShowsNames := by
  unfold Outcome.ShowsNames
  simpa [Reply.shown] using h

theorem meets_getAdvertisement_names (id : String) :
    (getAdvertisement id session db).Meets (fun a after => after.Names a.categoryId a.categoryName)
      fun _ _ => True := by
  rw [(getAdvertisement_reads id).meets_iff]
  exact ⟨fun advertisement hread => getAdvertisement_names hread, fun _ _ => trivial⟩

theorem createAdvertisement_names (creatorId : String) (placed : PlacedDraft) :
    (createAdvertisement creatorId placed session db).Meets
      (fun a after => after.Names a.categoryId a.categoryName) fun _ _ => True := by
  unfold createAdvertisement
  simp only [Action.meets_bind, Action.meets_ofExcept, (getCategory_reads _).meets_iff,
    implies_true, and_true]
  exact fun _ _ category hread => insertAdvertisement_names (getCategory_named hread)

theorem createAdvertisementWithCategory_names (creatorId : String) (category : CategoryDraft)
    (draft : AdvertisementDraft) :
    (createAdvertisementWithCategory creatorId category draft session db).Meets
      (fun a after => after.Names a.categoryId a.categoryName) fun _ _ => True := by
  unfold createAdvertisementWithCategory
  simp only [Action.meets_bind, Action.meets_ofExcept, Action.meets_transaction, implies_true,
    and_true]
  intro _ _
  exact (insertCategory_named category).mono
    (fun created mid hnamed => insertAdvertisement_names hnamed) fun _ _ _ => trivial

/-- Whatever is written on the way, an update of an advertisement answers what it reads at the
end. -/
theorem updateAdvertisement_meets_last {id : String} {patch : AdvertisementPatch}
    {good : Advertisement → Database τ → Prop}
    (hread : ∀ mid, (getAdvertisement id session mid).Meets good fun _ _ => True) :
    (updateAdvertisement id patch session db).Meets good fun _ _ => True := by
  unfold updateAdvertisement
  refine meets_bind_last fun existing found => ?_
  refine meets_bind_last fun _ checked => ?_
  cases patch.categoryId with
  | none =>
      refine meets_bind_last fun categoryId placed => ?_
      refine meets_bind_last fun stamping stamped => ?_
      refine meets_bind_last fun there written => ?_
      exact hread written
  | some wanted =>
      refine meets_bind_last fun category there => ?_
      refine meets_bind_last fun categoryId placed => ?_
      refine meets_bind_last fun stamping stamped => ?_
      refine meets_bind_last fun there written => ?_
      exact hread written

theorem setAdvertisementActive_meets_last {id : String} {active : Bool}
    {good : Advertisement → Database τ → Prop}
    (hread : ∀ mid, (getAdvertisement id session mid).Meets good fun _ _ => True) :
    (setAdvertisementActive id active session db).Meets good fun _ _ => True := by
  unfold setAdvertisementActive
  refine meets_bind_last fun stamping stamped => ?_
  refine meets_bind_last fun found written => ?_
  refine meets_bind_last fun _ expected => ?_
  exact hread expected

theorem Command.perform_showsNames (command : Command) :
    (command.perform session db).ShowsNames := by
  cases command with
  | createAdvertisement creatorId placed =>
      exact showsNames_advertisement (createAdvertisement_names creatorId placed)
  | createAdvertisementWithCategory creatorId category draft =>
      exact showsNames_advertisement
        (createAdvertisementWithCategory_names creatorId category draft)
  | getAdvertisement id => exact showsNames_advertisement (meets_getAdvertisement_names id)
  | activeAdvertisements =>
      have hreads : (Store.activeAdvertisements : Action τ (List Advertisement)).Reads :=
        Action.query_reads _
      unfold Outcome.ShowsNames Command.perform
      rw [Action.meets_replying, hreads.meets_iff]
      exact ⟨fun items hread => activeAdvertisements_names hread, fun _ _ => trivial⟩
  | updateAdvertisement id patch =>
      exact showsNames_advertisement
        (updateAdvertisement_meets_last fun _ => meets_getAdvertisement_names id)
  | setAdvertisementActive id active =>
      exact showsNames_advertisement
        (setAdvertisementActive_meets_last fun _ => meets_getAdvertisement_names id)
  | _ => exact showsNames_of_none fun _ => rfl

end Store

/-! ## Calls -/

namespace Service

theorem showsNames_page {work : Action τ (Page Advertisement)} (hreads : work.Reads)
    (hcorpus : ∀ page, (work session db).answer = .ok page →
      ∃ items, (activeAdvertisements session db).answer = .ok items ∧ page.items ⊆ items) :
    (work.replying .advertisementPage session db).ShowsNames := by
  refine Action.meets_replying.mpr ?_
  rw [hreads.meets_iff]
  refine ⟨fun page hpage advertisement hadvertisement => ?_, fun _ _ => trivial⟩
  obtain ⟨items, hitems, hsubset⟩ := hcorpus page hpage
  exact activeAdvertisements_names hitems _ (hsubset hadvertisement)

theorem getAdvertisement_names (actor : Option Actor) (id : String) :
    (getAdvertisement actor id session db).Meets
      (fun a after => after.Names a.categoryId a.categoryName) fun _ _ => True := by
  unfold getAdvertisement visibleAdvertisement
  simp only [meets_finishing, Action.meets_bind, Action.meets_ite, Action.meets_fail,
    Action.meets_pure, (Store.getAdvertisement_reads _).meets_iff, implies_true, and_true,
    true_and]
  intro _ advertisement hread
  have hnames := Store.getAdvertisement_names hread
  refine ⟨fun _ => hnames, fun _ => ?_⟩
  cases actor with
  | none => simp
  | some actor => simp [(canManage_reads _ _).meets_iff, hnames]

theorem Command.perform_showsNames (settings : EngineSettings) (command : Command) :
    (command.perform settings session db).ShowsNames := by
  cases hoperation : command.operation? with
  | some operation =>
      exact (command.perform_comesTo settings hoperation).meets operation.perform_showsNames
  | none =>
      cases command with
      | searchAdvertisements request =>
          exact showsNames_page (searching_reads (Action.query_reads _)) fun page hpage =>
            searching_subset (Action.query_reads _) hpage
      | listAdvertisements number =>
          exact showsNames_page (listing_reads (Action.query_reads _)) fun page hpage =>
            listing_subset (Action.query_reads _) hpage
      | getAdvertisement actor id =>
          exact showsNames_advertisement (getAdvertisement_names actor id)
      | createAdvertisement actor request =>
          obtain ⟨draft, choice⟩ := request
          cases choice with
          | existing => contradiction
          | new => contradiction
      | updateAdvertisement | approveAdvertisement => contradiction
      | _ => exact showsNames_of_none fun _ => rfl

end Service
end Noticeboard
