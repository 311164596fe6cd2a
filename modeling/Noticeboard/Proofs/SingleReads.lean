import Noticeboard.Proofs.NamedCategories
import Noticeboard.Proofs.NormalizedNames

/-!
# Reading one record

What a search or a listing shows can also be read by its id, and a category by its name.  Both ways
lead to the same record.  Ids and names differ from row to row, names are stored as they are looked
for, and whoever reads an advertisement without being known is shown the active ones.
-/

namespace Noticeboard

open Store

variable {τ α E F : Type} {session : Session τ} {db after : Database τ} {settings : EngineSettings}

namespace Store

/-! ## Rows by their keys -/

theorem filter_key_eq_singleton {key : α → String} {rows : List α} {row : α}
    (h : (rows.map key).Nodup) (hrow : row ∈ rows) :
    (rows.filter fun other => key other == key row) = [row] := by
  induction rows with
  | nil => simp at hrow
  | cons first rest ih =>
      rw [List.map_cons, List.nodup_cons] at h
      rcases List.mem_cons.mp hrow with rfl | hrest
      · have hnone : ∀ other ∈ rest, ¬ (key other == key row) = true := by
          intro other hother hsame
          exact h.1 (beq_iff_eq.mp hsame ▸ List.mem_map_of_mem hother)
        rw [List.filter_cons_of_pos (by simp), List.filter_eq_nil_iff.mpr hnone]
      · have hother : key first ≠ key row := by
          intro hsame
          exact h.1 (hsame ▸ List.mem_map_of_mem hrest)
        rw [List.filter_cons_of_neg (by simpa using hother), ih h.2 hrest]

theorem find?_key_of_mem {key : α → String} {rows : List α} {row : α}
    (h : (rows.map key).Nodup) (hrow : row ∈ rows) :
    (rows.find? fun other => key other == key row) = some row := by
  rw [← List.head?_filter, filter_key_eq_singleton h hrow, List.head?_cons]

theorem find?_key_eq_some_iff {key : α → String} {rows : List α} {row : α} {wanted : String}
    (h : (rows.map key).Nodup) :
    (rows.find? fun other => key other == wanted) = some row ↔ row ∈ rows ∧ key row = wanted := by
  constructor
  · intro hfound
    exact ⟨List.mem_of_find?_eq_some hfound, key_eq_of_find? hfound⟩
  · rintro ⟨hrow, rfl⟩
    exact find?_key_of_mem h hrow

theorem find?_key_concat {key : α → String} {rows : List α} {row : α}
    (hnew : ∀ other ∈ rows, key other ≠ key row) :
    ((rows ++ [row]).find? fun other => key other == key row) = some row := by
  have hnone : (rows.find? fun other => key other == key row) = none := by
    simpa using hnew
  simp [List.find?_append, hnone]

theorem getCategory_of_mem (h : db.Consistent) {row : CategoryRow τ} {category : Category}
    (hrow : row ∈ db.categories) (hread : session.backend.readCategory row = .ok category) :
    (getCategory category.id session db).answer = .ok category := by
  have hfound : db.category? row.id = some row := find?_key_of_mem h.categoryIds hrow
  simp [getCategory, Action.query, lookUpCategory, (readCategory_eq_ok hread).1, hfound, hread]

/-- Where names are compared with a key, a name finds the category that has the key. -/
theorem findCategoryByName_eq_ok_iff {name key : String} {category : Category}
    (hnames : (db.categories.map CategoryRow.name).Nodup)
    (hkey : ∀ row ∈ db.categories, session.backend.sameName row.name name = (row.name == key)) :
    (findCategoryByName name session db).answer = .ok category ↔
      ∃ row ∈ db.categories, row.name = key ∧
        session.backend.readCategory row = .ok category := by
  have hfind : (db.categories.find? fun row => session.backend.sameName row.name name) =
      db.categories.find? fun row => row.name == key := by
    rw [← List.head?_filter, ← List.head?_filter, List.filter_congr hkey]
  simp only [findCategoryByName, Action.query, hfind]
  cases hfound : db.categories.find? fun row => row.name == key with
  | none =>
      simp only [reduceCtorEq, false_iff]
      rintro ⟨row, hrow, hname, -⟩
      simpa [hname] using List.find?_eq_none.mp hfound row hrow
  | some row =>
      obtain ⟨hrow, hname⟩ := (find?_key_eq_some_iff hnames).mp hfound
      constructor
      · exact fun hread => ⟨row, hrow, hname, hread⟩
      · rintro ⟨other, hother, hsame, hread⟩
        obtain rfl := List.inj_on_of_nodup_map hnames hother hrow (hsame.trans hname.symm)
        exact hread

/-- A stored name is normalized, so that it is found by itself. -/
theorem findCategoryByName_of_mem {session : Session String} {db : Database String}
    (hbackend : session.backend = .embedded) (h : db.Consistent) (hchecked : db.Checked)
    {row : CategoryRow String} {category : Category} (hrow : row ∈ db.categories)
    (hread : session.backend.readCategory row = .ok category) :
    (findCategoryByName category.name session db).answer = .ok category := by
  obtain ⟨given, hgiven⟩ := hchecked.categories row hrow
  have hname := normalized_twice hgiven
  rw [(readCategory_eq_ok hread).2]
  refine (findCategoryByName_eq_ok_iff h.categoryNames ?_).mpr ⟨row, hrow, rfl, hread⟩
  -- what is looked for is normalized once more, which changes nothing
  intro other _
  simp [hbackend, Backend.embedded, hname.1, hname.2]

/-! ## Lists and their records -/

section Lists

variable {items : List Advertisement} {advertisement : Advertisement}

theorem Database.ListsActive.read_of_mem (h : db.ListsActive session.backend items)
    (hconsistent : db.Consistent) (hitem : advertisement ∈ items) :
    advertisement.isActive = true ∧
      (getAdvertisement advertisement.id session db).answer = .ok advertisement := by
  obtain ⟨rows, hperm, -, hreads⟩ := h
  obtain ⟨row, hrow, hread⟩ := row_of_item hreads advertisement hitem
  have hactive := List.mem_filter.mp (hperm.mem_iff.mp hrow)
  have hshown := (readJoined_eq_ok hread).shown
  have hfound : db.advertisement? advertisement.id = some row :=
    hshown.id ▸ advertisement?_of_mem hconsistent hactive.1
  exact ⟨hshown.isActive.trans hactive.2, getAdvertisement_eq_ok_iff.mpr ⟨row, hfound, hread⟩⟩

theorem Database.ListsActive.mem_of_read {id : String} (h : db.ListsActive session.backend items)
    (hread : (getAdvertisement id session db).answer = .ok advertisement)
    (hactive : advertisement.isActive = true) : advertisement ∈ items ∧ advertisement.id = id := by
  obtain ⟨rows, hperm, -, hreads⟩ := h
  obtain ⟨row, hrow, hjoined⟩ := getAdvertisement_eq_ok_iff.mp hread
  have hshown := (readJoined_eq_ok hjoined).shown
  have hid : row.id = id := key_eq_of_find? hrow
  have hlisted : row ∈ rows := by
    rw [hperm.mem_iff, List.mem_filter, ← hshown.isActive]
    exact ⟨List.mem_of_find?_eq_some hrow, hactive⟩
  obtain ⟨item, hitem, hsame⟩ := item_of_row hreads row hlisted
  rw [hjoined, Option.some.injEq, Except.ok.injEq] at hsame
  subst hsame
  exact ⟨hitem, hshown.id.trans hid⟩

end Lists

/-! ## Ids of categories -/

theorem Revision.hasCategory {id : String} (h : Revision session db after)
    (hafter : after.hasCategory id = true) :
    db.hasCategory id = true ∨ id = session.ids.category := by
  cases h with
  | addCategory hid =>
      simp only [Database.hasCategory, List.any_append, List.any_cons, List.any_nil,
        Bool.or_false, Bool.or_eq_true, beq_iff_eq] at hafter ⊢
      exact hafter.imp_right fun hnew => hnew.symm.trans hid
  | changeCategory => exact .inl (by simpa using hafter)
  | dropCategory dropped =>
      obtain ⟨row, hrow, hid⟩ := hasCategory_iff.mp hafter
      exact .inl (hasCategory_iff.mpr ⟨row, (List.mem_filter.mp hrow).1, hid⟩)
  | _ => exact .inl hafter

theorem Engagement.hasCategory (h : Engagement session db after) (id : String) :
    after.hasCategory id = db.hasCategory id := by
  cases h with
  | addComment => rfl
  | removeComment => rfl
  | @react kind => cases kind <;> rfl

/-- A category that was not there before has the id that the session had for it. -/
theorem Changed.hasCategory {id : String} (h : Changed session db after)
    (hafter : after.hasCategory id = true) :
    db.hasCategory id = true ∨ id = session.ids.category := by
  rcases h with hrevisions | hlast
  · induction hrevisions with
    | refl => exact .inl hafter
    | tail _ hlast ih => exact (hlast.hasCategory hafter).elim ih .inr
  · exact .inl (hlast.hasCategory id ▸ hafter)

/-- New ids that a call can name: not blank, and that of a category without blanks at its ends. -/
structure FreshIds.Nameable (ids : FreshIds) : Prop where
  category : ids.category ≠ ""
  trimmed : Text.trim ids.category = ids.category
  advertisement : (Text.trim ids.advertisement).isEmpty = false

end Store

namespace Service

/-! ## Calls for one record -/

theorem getAdvertisement_none_iff {id : String} {advertisement : Advertisement} :
    (getAdvertisement none id session db).answer = .ok advertisement ↔
      (Text.trim id).isEmpty = false ∧ advertisement.isActive = true ∧
        (Store.getAdvertisement id session db).answer = .ok advertisement := by
  rw [Outcome.answer_eq_ok_iff_meets]
  by_cases hblank : (Text.trim id).isEmpty = true
  · simp [getAdvertisement, visibleAdvertisement, hblank]
  · cases hread : (Store.getAdvertisement id session db).answer with
    | error failure =>
        simp [getAdvertisement, visibleAdvertisement, (Store.getAdvertisement_reads _).meets_iff,
          hread]
    | ok found =>
        have hsame : (found.isActive = true → found = advertisement) ∧ found.isActive = true ↔
            advertisement.isActive = true ∧ found = advertisement := by
          constructor
          · rintro ⟨hshown, hactive⟩
            exact ⟨hshown hactive ▸ hactive, hshown hactive⟩
          · rintro ⟨hactive, rfl⟩
            exact ⟨fun _ => rfl, hactive⟩
        simp [getAdvertisement, visibleAdvertisement, (Store.getAdvertisement_reads _).meets_iff,
          hblank, hread, hsame]

theorem given?_of_trimmed {text : String} (hsome : text ≠ "") (htrimmed : Text.trim text = text) :
    given? (some text) = some text := by
  simp [given?, htrimmed, hsome]

theorem getCategory_by_id {id : String} (hsome : id ≠ "") (htrimmed : Text.trim id = id) :
    (getCategory (some id) none session db).answer =
      (Store.getCategory id session db).answer := by
  simp only [getCategory, given?_of_trimmed hsome htrimmed]
  rfl

theorem getCategory_by_name {name : String} (hsome : name ≠ "") (htrimmed : Text.trim name = name) :
    (getCategory none (some name) session db).answer =
      (Store.findCategoryByName name session db).answer := by
  simp only [getCategory, given?_of_trimmed hsome htrimmed]
  rfl

/-! ## Lists and single records -/

/-- What the pages of a search or of a listing show. -/
inductive Paged (search : SearchRequest → Except Failure (Page E))
    (list : UInt32 → Except Failure (Page E)) (item : E) : Prop where
  | searched {request : SearchRequest} {page : Page E} (hpage : search request = .ok page)
      (hitem : item ∈ page.items) : Paged search list item
  | listed {number : UInt32} {page : Page E} (hpage : list number = .ok page)
      (hitem : item ∈ page.items) : Paged search list item

/-- What stands on a page is what is read under its id, or under its name. -/
structure ReadsAgree (settings : EngineSettings) (session : Session τ) (db : Database τ) :
    Prop where
  advertisements : ∀ advertisement,
    Paged (fun request => (searchAdvertisements settings request session db).answer)
      (fun number => (listAdvertisements settings number session db).answer) advertisement →
    advertisement.isActive = true ∧
      (getAdvertisement none advertisement.id session db).answer = .ok advertisement
  browsed : ∀ (request : SearchRequest) (number : UInt32), request.AsksForAll →
    SearchRequest.checkPageNo request.pageNo = .ok number →
    ∃ page, (searchAdvertisements settings request session db).answer = .ok page ∧
      ∀ id, (∃ advertisement, (getAdvertisement none id session db).answer = .ok advertisement) ↔
        id ∈ page.items.map Advertisement.id
  categories : ∀ category,
    Paged (fun request => (searchCategories settings request session db).answer)
      (fun number => (listCategories settings number session db).answer) category →
    (getCategory (some category.id) none session db).answer = .ok category ∧
      (getCategory none (some category.name) session db).answer = .ok category

theorem Paged.mem [Searchable E F] {fields : List (WeightedField F)} {corpus : Action τ (List E)}
    {operation other : Operation} {items : List E} {item : E} (hcorpus : corpus.Reads)
    (hitems : (corpus session db).answer = .ok items)
    (h : Paged (fun request => (searching settings operation fields request corpus session db).answer)
      (fun number => (listing settings other number corpus session db).answer) item) :
    item ∈ items := by
  have hsubset {page : Page E}
      (hloaded : ∃ loaded, (corpus session db).answer = .ok loaded ∧ page.items ⊆ loaded) :
      page.items ⊆ items := by
    obtain ⟨loaded, hloaded, hpart⟩ := hloaded
    rw [hitems, Except.ok.injEq] at hloaded
    rwa [hloaded]
  cases h with
  | searched hpage hitem => exact hsubset (searching_subset hcorpus hpage) hitem
  | listed hpage hitem => exact hsubset (listing_subset hcorpus hpage) hitem

/-- Ids of categories are not blank and have no blanks at their ends, so that a call can name them. -/
def CategoryIdsGiven (db : Database τ) : Prop :=
  ∀ id, db.hasCategory id = true → id ≠ "" ∧ Text.trim id = id

/-- Whoever is not known is shown what is listed. -/
theorem shown_of_listed {items : List Advertisement} {advertisement : Advertisement}
    (hlisted : db.ListsActive session.backend items) (hconsistent : db.Consistent)
    (hgiven : IdsGiven db) (hitem : advertisement ∈ items) :
    advertisement.isActive = true ∧
      (getAdvertisement none advertisement.id session db).answer = .ok advertisement := by
  obtain ⟨hactive, hread⟩ := hlisted.read_of_mem hconsistent hitem
  obtain ⟨row, hrow, -⟩ := getAdvertisement_eq_ok_iff.mp hread
  have hnamed := hgiven advertisement.id (hasAdvertisement_of_find hrow)
  exact ⟨hactive, getAdvertisement_none_iff.mpr ⟨hnamed, hactive, hread⟩⟩

theorem found_of_listed {session : Session String} {db : Database String}
    {items : List Category} {category : Category} (hbackend : session.backend = .embedded)
    (hlisted : db.ListsCategories session.backend items) (hconsistent : db.Consistent)
    (hchecked : db.Checked) (hids : CategoryIdsGiven db) (hitem : category ∈ items) :
    (getCategory (some category.id) none session db).answer = .ok category ∧
      (getCategory none (some category.name) session db).answer = .ok category := by
  obtain ⟨rows, hperm, -, hreads⟩ := hlisted
  obtain ⟨row, hrow, hread⟩ := row_of_item hreads category hitem
  have hmem : row ∈ db.categories := hperm.mem_iff.mp hrow
  obtain ⟨hid, hname⟩ := readCategory_eq_ok hread
  obtain ⟨hsome, htrimmed⟩ := hids row.id (hasCategory_iff.mpr ⟨row, hmem, rfl⟩)
  obtain ⟨given, hnormalized⟩ := hchecked.categories row hmem
  constructor
  · rw [getCategory_by_id (hid ▸ hsome) (hid ▸ htrimmed)]
    exact getCategory_of_mem hconsistent hmem hread
  · rw [getCategory_by_name (hname ▸ ne_empty_of_normalize hnormalized)
      (hname ▸ (normalized_twice hnormalized).1)]
    exact findCategoryByName_of_mem hbackend hconsistent hchecked hmem hread

theorem readsAgree {session : Session String} {db : Database String}
    (hbackend : session.backend = .embedded) (hlegible : db.Legible session.backend)
    (hchecked : db.Checked) (hgiven : IdsGiven db) (hids : CategoryIdsGiven db) :
    ReadsAgree settings session db := by
  have hconsistent : db.Consistent := hlegible.orderly.consistent
  have hsupplied : session.backend.Supplied := hbackend ▸ .embedded
  obtain ⟨items, hloaded, hlisted⟩ := activeAdvertisements_ok hsupplied fun row hrow _ =>
    hlegible.decodes.readJoined hrow
  have hread : ∃ found, (Store.listCategories session db).answer = .ok found ∧
      db.ListsCategories session.backend found := listCategories_ok hlegible.decodes.categories
  obtain ⟨found, hfound, hfoundListed⟩ := hread
  constructor
  case advertisements =>
    intro advertisement hpaged
    have hitem : advertisement ∈ items := hpaged.mem (Action.query_reads _) hloaded
    exact shown_of_listed hlisted hconsistent hgiven hitem
  case browsed =>
    intro request number hall hnumber
    have hwhole : (searchAdvertisements settings request session db).answer =
        .ok (Ranking.whole items) :=
      searching_answer (request.check_of_asksForAll hall hnumber) hloaded
    refine ⟨Ranking.whole items, hwhole, fun id => ?_⟩
    constructor
    · rintro ⟨advertisement, hshown⟩
      obtain ⟨-, hactive, hstored⟩ := getAdvertisement_none_iff.mp hshown
      obtain ⟨hitem, hid⟩ := hlisted.mem_of_read hstored hactive
      exact List.mem_map.mpr ⟨advertisement, hitem, hid⟩
    · intro hid
      obtain ⟨advertisement, hitem, rfl⟩ := List.mem_map.mp hid
      exact ⟨advertisement, (shown_of_listed hlisted hconsistent hgiven hitem).2⟩
  case categories =>
    intro category hpaged
    have hitem : category ∈ found := hpaged.mem (Action.query_reads _) hfound
    exact found_of_listed hbackend hfoundListed hconsistent hchecked hids hitem

end Service

namespace Board

variable {board : Board String} {turns : List Turn}

theorem run_categoryIdsGiven (hids : ∀ turn ∈ turns, turn.ids.Nameable) :
    Service.CategoryIdsGiven (board.run .empty turns) := by
  refine run_keeps (fun id hnone => ?_) fun turn hturn db after h hchanged id hafter => ?_
  · simp [Database.hasCategory, Database.empty] at hnone
  · rcases hchanged.hasCategory hafter with hbefore | rfl
    · exact h id hbefore
    · exact ⟨(hids turn hturn).category, (hids turn hturn).trimmed⟩

/-- After any run on a file of its own, with a clock whose years have four digits, ids that can be
named and scores in the 64-bit integers, pages show what is read alone, and whatever is shown of an
advertisement, in any call, has the name that its category has then. -/
theorem listed_as_read_alone (hbackend : board.backend = .embedded)
    (hclock : ∀ turn ∈ turns, board.backend.Timely turn.now)
    (hids : ∀ turn ∈ turns, turn.ids.Nameable) (hwhole : (board.run .empty turns).ScoresWhole) :
    (∀ (settings : EngineSettings) (session : Session String), session.backend = .embedded →
      Service.ReadsAgree settings session (board.run .empty turns)) ∧
    ∀ (turn : Turn) (reply : Reply),
      (board.perform turn (board.run .empty turns)).answer = .ok reply →
      ∀ advertisement ∈ reply.shown, (board.perform turn (board.run .empty turns)).database.Names
        advertisement.categoryId advertisement.categoryName := by
  have hlegible : (board.run .empty turns).Legible .embedded :=
    ⟨hbackend ▸ run_orderly hclock, hwhole⟩
  have hchecked : (board.run .empty turns).Checked :=
    run_keeps .empty fun _ _ _ _ h hchanged => h.changed hchanged
  have hgiven : Service.IdsGiven (board.run .empty turns) :=
    run_idsGiven fun turn hturn => (hids turn hturn).advertisement
  constructor
  · intro settings session hsession
    exact Service.readsAgree hsession (hsession ▸ hlegible) hchecked hgiven
      (run_categoryIdsGiven hids)
  · intro turn reply hreply
    have hnames : (board.perform turn (board.run .empty turns)).ShowsNames := by
      unfold perform Call.perform
      cases turn.call with
      | service command => exact command.perform_showsNames board.settings
      | store command => exact command.perform_showsNames
    exact Outcome.Meets.of_ok hnames hreply

/-- A category was renamed after its advertisement was published, and another advertisement moved
to it. -/
def renamedHistory : List Turn :=
  listedHistory ++
    [sampleTurn "6" (.service
        (.updateCategory (.staff "dan") "c2" ⟨some " Small Boats ", .keep⟩)),
      sampleTurn "7" (.service
        (.updateAdvertisement (.user "ann") "a1" ⟨none, .keep, none, some "c2"⟩))]

def movedBike : Advertisement where
  id := "a1"
  title := "Road bike"
  description := none
  creatorId := "ann"
  priceCents := 25000
  categoryId := "c2"
  categoryName := "small boats"
  score := 0
  isActive := true
  createdAt := sampleNow
  updatedAt := sampleNow

theorem renamed_board_reads_alone :
    let db := listedBoard.run .empty renamedHistory
    ∃ page : Page Advertisement,
      (Service.searchAdvertisements .standard ⟨none, none⟩ listedSession db).answer = .ok page ∧
      "a1" ∈ page.items.map Advertisement.id ∧ "a3" ∉ page.items.map Advertisement.id ∧
      db.Names "c2" "small boats" := by
  intro db
  have hturns : ∀ turn ∈ renamedHistory,
      (0 ≤ turn.now.date.year ∧ turn.now.date.year ≤ 9999) ∧ turn.ids.category ≠ "" ∧
        Text.trim turn.ids.category = turn.ids.category ∧
        (Text.trim turn.ids.advertisement).isEmpty = false := by
    decide
  have hscores : db.advertisements.map AdvertisementRow.score = [.whole 0, .whole 0, .whole 0] :=
    rfl
  have hwhole : db.ScoresWhole := scoresWhole_of_scores hscores (by simp)
  obtain ⟨hreads, hshown⟩ := @listed_as_read_alone listedBoard renamedHistory rfl
    (fun turn hturn => .embedded (hturns turn hturn).1)
    (fun turn hturn => ⟨(hturns turn hturn).2.1, (hturns turn hturn).2.2.1,
      (hturns turn hturn).2.2.2⟩) hwhole
  obtain ⟨page, hpage, hids⟩ := (hreads .standard listedSession rfl).browsed ⟨none, none⟩ 1
    trivial rfl
  have hbike : (Service.getAdvertisement none "a1" listedSession db).answer = .ok movedBike := rfl
  have htandem : (Service.getAdvertisement none "a3" listedSession db).answer =
      .error (.hiddenAdvertisement "a3") := rfl
  let turn := sampleTurn "8" (.service (.getAdvertisement none "a1"))
  refine ⟨page, hpage, (hids "a1").mp ⟨movedBike, hbike⟩, fun hlisted => ?_, ?_⟩
  · obtain ⟨advertisement, hread⟩ := (hids "a3").mpr hlisted
    rw [htandem] at hread
    simp at hread
  · have hreply : (listedBoard.perform turn db).answer = .ok (.advertisement movedBike) := rfl
    have hsame : (listedBoard.perform turn db).database = db :=
      Service.Command.perform_reads listedBoard.settings rfl
    have hnames := hshown turn (.advertisement movedBike) hreply movedBike List.mem_cons_self
    rwa [hsame] at hnames

end Board
end Noticeboard
