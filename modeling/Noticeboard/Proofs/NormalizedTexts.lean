import Noticeboard.Proofs.NameKeys
import Noticeboard.Proofs.SearchGrammar
import Noticeboard.Proofs.UnmovedResults

/-!
# Normalized texts

Queries and names of categories are normalized alike, and a normalized text is its own normal form.
So the query that a page shows can be asked again and leads to the same page, and the name that a
category is stored with can be given again and leads to the same category.  The latter holds on a
server, too, which lower-cases what is stored once more: a stored name has no capitals left.
-/

namespace Noticeboard

open Store

variable {τ E F : Type} {raw text : String}

/-! ## Normal forms -/

theorem normalize_of_blank (h : Text.isBlankText raw = true) :
    normalizeQuery raw = none ∧ normalizeCategoryName raw = .error .emptyCategoryName := by
  have hquery : (Text.trim raw).isEmpty = true := (trim_isEmpty_iff raw).mpr h
  have hname : (Text.lower (Text.trim raw)).isEmpty = true := (storedName_isEmpty raw).trans h
  simp [normalizeQuery, normalizeCategoryName, hquery, hname]

theorem normalize_of_not_blank (h : Text.isBlankText raw = false) :
    normalizeQuery raw = some (storedName raw) ∧
      normalizeCategoryName raw = .ok (storedName raw) := by
  have hquery : (Text.trim raw).isEmpty = false := by
    rw [← Bool.not_eq_true, trim_isEmpty_iff, h]
    exact Bool.false_ne_true
  have hname : (storedName raw).isEmpty = false := (storedName_isEmpty raw).trans h
  refine ⟨?_, normalizeCategoryName_eq_ok_iff.mpr ⟨hname, rfl⟩⟩
  simp [normalizeQuery, storedName, hquery]

theorem normalizeQuery_eq_some_iff :
    normalizeQuery raw = some text ↔ normalizeCategoryName raw = .ok text := by
  cases hblank : Text.isBlankText raw with
  | true =>
      obtain ⟨hquery, hname⟩ := normalize_of_blank hblank
      simp [hquery, hname]
  | false =>
      obtain ⟨hquery, hname⟩ := normalize_of_not_blank hblank
      simp [hquery, hname]

theorem normalizeQuery_eq_none_iff :
    normalizeQuery raw = none ↔ ∃ failure, normalizeCategoryName raw = .error failure := by
  cases hblank : Text.isBlankText raw with
  | true =>
      obtain ⟨hquery, hname⟩ := normalize_of_blank hblank
      simp [hquery, hname]
  | false =>
      obtain ⟨hquery, hname⟩ := normalize_of_not_blank hblank
      simp [hquery, hname]

theorem normalizeCategoryName_normalized (h : normalizeCategoryName raw = .ok text) :
    normalizeCategoryName text = .ok text := by
  obtain ⟨htrim, hlower⟩ := normalized_twice h
  have hsome : text.isEmpty = false := by
    simpa using ne_empty_of_normalize h
  simp [normalizeCategoryName, htrim, hlower, hsome]

theorem normalizeQuery_normalized (h : normalizeQuery raw = some text) :
    normalizeQuery text = some text := by
  rw [normalizeQuery_eq_some_iff] at h ⊢
  exact normalizeCategoryName_normalized h

/-! ## Queries that are shown -/

namespace SearchRequest

theorem GivesQuery.shown {member : Option Json} (h : GivesQuery member (some text)) :
    GivesQuery (some (.str text)) (some text) := by
  -- a query is given by a text alone, whose normal form it is
  generalize hquery : some text = query at h
  cases h with
  | absent => contradiction
  | null => contradiction
  | text raw =>
      have hagain := GivesQuery.text text
      rwa [normalizeQuery_normalized hquery.symm, hquery] at hagain

/-- A request that is accepted is accepted with its own normalized query, and asks for the same. -/
theorem check_shown {request : SearchRequest} {params : SearchParams}
    (hcheck : request.check = .ok params) (hquery : params.query = some text) :
    ({ request with query := some (.str text) } : SearchRequest).check = .ok params := by
  obtain ⟨hgives, hpage⟩ := check_eq_ok_iff.mp hcheck
  rw [hquery] at hgives
  refine check_eq_ok_iff.mpr ⟨?_, hpage⟩
  rw [hquery]
  exact hgives.shown

end SearchRequest

/-- Only a page of a ranking shows a query, and it shows the one that was asked. -/
theorem Ranking.query_of_rank [Searchable E F] {settings : EngineSettings}
    {fields : List (WeightedField F)} {params : SearchParams} {items : List E} {page : Page E}
    (h : rank settings fields params items = .ok page) : page.query = params.query := by
  unfold rank at h
  split at h
  next hquery =>
    cases h
    exact hquery.symm
  next query hquery =>
    simp only [pageOfCandidates, ite_eq_ok, reduceCtorEq, and_false, false_or,
      Except.ok.injEq] at h
    obtain ⟨-, rfl⟩ := h
    exact hquery.symm

namespace Service

/-- Whoever asks for the query that a page shows is shown this page. -/
def ShowsAgain (search : SearchRequest → Except Failure (Page E)) : Prop :=
  ∀ (request : SearchRequest) (page : Page E) (text : String), search request = .ok page →
    page.query = some text → search { request with query := some (.str text) } = .ok page

theorem searching_showsAgain [Searchable E F] {settings : EngineSettings} {operation : Operation}
    {fields : List (WeightedField F)} {corpus : Action τ (List E)} {session : Session τ}
    {db : Database τ} :
    ShowsAgain fun request =>
      (searching settings operation fields request corpus session db).answer := by
  intro request page text hpage hshown
  simp only [searching_eq] at hpage ⊢
  obtain ⟨params, hcheck, hloaded⟩ := bind_eq_ok.mp hpage
  obtain ⟨items, hitems, hranked⟩ := bind_eq_ok.mp hloaded
  have hquery : params.query = some text := (Ranking.query_of_rank hranked).symm.trans hshown
  rw [SearchRequest.check_shown hcheck hquery]
  exact hloaded

end Service

/-! ## Names that are stored -/

namespace Store

section Comparisons

variable {stored wanted : String}

/-- Both kinds of databases compare normalized names as they are. -/
theorem Backend.Supplied.sameName_normalized {backend : Backend τ} (h : backend.Supplied)
    (hstored : normalizeCategoryName stored = .ok stored)
    (hwanted : normalizeCategoryName wanted = .ok wanted) :
    backend.sameName stored wanted = (stored == wanted) := by
  obtain ⟨htrim, hlower⟩ := normalized_twice hwanted
  cases h with
  | embedded => simp only [Backend.embedded, htrim, hlower]
  | server =>
      have hstoredLower : Text.lower stored = stored := (normalized_twice hstored).2
      simp only [Backend.server, htrim, hlower, hstoredLower]

end Comparisons

/-- Whoever looks for the name of a row reads this row. -/
theorem findCategoryByName_name {session : Session τ} {db : Database τ}
    (hsupplied : session.backend.Supplied) (hconsistent : db.Consistent) (hchecked : db.Checked)
    {row : CategoryRow τ} (hrow : row ∈ db.categories) :
    (findCategoryByName row.name session db).answer = session.backend.readCategory row := by
  have hnormalized : ∀ other ∈ db.categories,
      normalizeCategoryName other.name = .ok other.name := by
    intro other hother
    obtain ⟨given, hgiven⟩ := hchecked.categories other hother
    exact normalizeCategoryName_normalized hgiven
  have hsame : ∀ other ∈ db.categories,
      session.backend.sameName other.name row.name = (other.name == row.name) :=
    fun other hother =>
      hsupplied.sameName_normalized (hnormalized other hother) (hnormalized row hrow)
  have hfound : (db.categories.find? fun other => session.backend.sameName other.name row.name) =
      some row := by
    rw [← List.head?_filter, List.filter_congr hsame,
      filter_key_eq_singleton hconsistent.categoryNames hrow, List.head?_cons]
  simp only [findCategoryByName, Action.query, hfound]

end Store

/-! ## Texts that come back -/

/-- A text has the same normal form as a query and as a name, or none as either, and the normal form
is its own.  So the query that a page shows leads to this page again, and after any run the name of
a category would be stored as it is and leads to what is read of this category. -/
theorem normalized_texts_mean_themselves :
    (∀ raw : String,
      (∀ text, normalizeQuery raw = some text ↔ normalizeCategoryName raw = .ok text) ∧
      (normalizeQuery raw = none ↔ ∃ failure, normalizeCategoryName raw = .error failure) ∧
      ∀ text, normalizeQuery raw = some text → normalizeQuery text = some text) ∧
    (∀ (τ : Type) (settings : EngineSettings) (session : Session τ) (db : Database τ),
      Service.ShowsAgain (fun request =>
        (Service.searchCategories settings request session db).answer) ∧
      Service.ShowsAgain fun request =>
        (Service.searchAdvertisements settings request session db).answer) ∧
    ∀ (τ : Type) (board : Board τ) (turns : List Turn) (session : Session τ),
      board.backend.Supplied → session.backend = board.backend →
      ∀ row ∈ (board.run .empty turns).categories,
        normalizeCategoryName row.name = .ok row.name ∧
        (findCategoryByName row.name session (board.run .empty turns)).answer =
          session.backend.readCategory row := by
  refine ⟨fun raw => ?forms, fun τ settings session db => ?pages,
    fun τ board turns session hsupplied hsession row hrow => ?names⟩
  case forms =>
    exact ⟨fun text => normalizeQuery_eq_some_iff, normalizeQuery_eq_none_iff,
      fun text => normalizeQuery_normalized⟩
  case pages => exact ⟨Service.searching_showsAgain, Service.searching_showsAgain⟩
  case names =>
    have hchecked := board.run_checked .empty turns
    obtain ⟨given, hgiven⟩ := hchecked.categories row hrow
    rw [← hsession] at hsupplied
    exact ⟨normalizeCategoryName_normalized hgiven,
      findCategoryByName_name hsupplied (Board.run_consistent .empty turns) hchecked hrow⟩

/-- A street on a server, which is given in capitals, stored with the sigma that ends a word, and
found by the stored name. -/
theorem odos_means_itself :
    let board := sampleBoard
    let db := board.run .empty [sampleTurn "1" (.store (.createCategory ⟨" ΟΔΟΣ", none⟩))]
    let session := board.session (sampleTurn "2" (.store .listCategories))
    normalizeQuery "ΟΔΟΣ " = some "οδος" ∧ normalizeCategoryName "ΟΔΟΣ " = .ok "οδος" ∧
      normalizeQuery "οδος" = some "οδος" ∧
      (∃ page,
        (Service.searchCategories .standard (.ofQuery "ΟΔΟΣ ") session db).answer = .ok page ∧
        page.query = some "οδος" ∧
        (Service.searchCategories .standard (.ofQuery "οδος") session db).answer = .ok page) ∧
      (findCategoryByName "οδος" session db).answer =
        .ok ⟨"c1", "οδος", none, sampleNow, sampleNow⟩ := by
  intro board db session
  obtain ⟨hforms, hpages, hnames⟩ := normalized_texts_mean_themselves
  have hquery : normalizeQuery "ΟΔΟΣ " = some "οδος" := by decide +kernel
  have hcategories : db.categories = [⟨"c1", "οδος", none, sampleNow, sampleNow⟩] := rfl
  have hrow : ⟨"c1", "οδος", none, sampleNow, sampleNow⟩ ∈ db.categories := by
    rw [hcategories]
    exact List.mem_cons_self
  refine ⟨hquery, ((hforms _).1 _).mp hquery, (hforms _).2.2 _ hquery, ?_,
    (hnames _ board _ session .server rfl _ hrow).2⟩
  have hshown : ((Service.searchCategories .standard (.ofQuery "ΟΔΟΣ ") session
      db).answer.toOption.bind Page.query) = some "οδος" := by decide +kernel
  cases hpage : (Service.searchCategories .standard (.ofQuery "ΟΔΟΣ ") session db).answer with
  | error failure => simp [hpage, Except.toOption] at hshown
  | ok page =>
      rw [hpage] at hshown
      exact ⟨page, rfl, hshown, (hpages _ .standard session db).1 _ page _ hpage hshown⟩

end Noticeboard
