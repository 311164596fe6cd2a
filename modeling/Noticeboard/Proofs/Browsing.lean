import Noticeboard.Proofs.Listings
import Noticeboard.Proofs.Paging

/-!
# Browsing and listing

A search without a query shows every record at once, whatever page is asked for, and a listing
shows the same records page by page.  Both load them anew, and both in the order of the store.
-/

namespace Noticeboard

open Store Text

variable {τ E F : Type} {session : Session τ} {db : Database τ} {settings : EngineSettings}

/-! ## Requests for everything -/

/-- No query, or a blank one. -/
def SearchRequest.AsksForAll (request : SearchRequest) : Prop :=
  match request.query with
  | none => True
  | some .null => True
  | some (.str raw) => isBlankText raw = true
  | some _ => False

theorem SearchRequest.check_of_asksForAll {request : SearchRequest} {page : UInt32}
    (h : request.AsksForAll) (hpage : checkPageNo request.pageNo = .ok page) :
    request.check = .ok (.browse page) := by
  have hquery : checkQuery request.query = .ok none := by
    unfold AsksForAll at h
    split at h
    · simp [checkQuery, *]
    · simp [checkQuery, *]
    next raw hraw =>
      have hempty : (trim raw).isEmpty = true := (trim_isEmpty_iff raw).mpr h
      simp [checkQuery, hraw, normalizeQuery, hempty]
    · exact h.elim
  unfold check
  rw [hquery, hpage]
  rfl

theorem checkPage_toNat {page : UInt32} (h : 1 ≤ page.toNat) : checkPage page.toNat = .ok page := by
  have hsmall := page.toNat_lt
  have hfirst : ¬ (page.toNat : Int) < 1 := by omega
  have hlast : (page.toNat : Int) < 0x100000000 := by omega
  simp [checkPage, hfirst, hlast]

/-! ## Answers -/

theorem Store.Action.answer_bind {α β : Type} {action : Action τ α} {next : α → Action τ β} {a : α}
    (h : (action session db).answer = .ok a) :
    ((action >>= next) session db).answer =
      (next a session (action session db).database).answer := by
  show (Action.bind action next session db).answer = _
  simp only [Action.bind, h]

namespace Service

section Answers

variable [Searchable E F] {operation : Operation} {fields : List (WeightedField F)}
  {corpus : Action τ (List E)} {items : List E}

theorem rankNoted_answer (params : SearchParams) :
    (rankNoted settings fields params items session db).answer =
      Ranking.rank settings fields params items := by
  unfold rankNoted Ranking.rank
  cases params.query with
  | none => rfl
  | some query =>
      dsimp only
      cases Ranking.candidates settings fields query items with
      | nil => rfl
      | cons best rest => rfl

theorem searching_answer {request : SearchRequest} {params : SearchParams}
    (hcheck : request.check = .ok params) (hcorpus : (corpus session db).answer = .ok items) :
    (searching settings operation fields request corpus session db).answer =
      Ranking.rank settings fields params items := by
  unfold searching
  refine (Action.answer_bind rfl).trans ((Action.answer_bind hcheck).trans ?_)
  exact (Action.answer_bind hcorpus).trans (rankNoted_answer params)

theorem listing_answer {page : UInt32} (hpage : 1 ≤ page.toNat)
    (hcorpus : (corpus session db).answer = .ok items) :
    (listing settings operation page corpus session db).answer =
      if items.isEmpty then .error (.nothingListed (Searchable.label E))
      else .ok (Ranking.pageOf settings items page) := by
  unfold listing
  refine (Action.answer_bind (checkPage_toNat hpage)).trans ((Action.answer_bind hcorpus).trans ?_)
  cases items with
  | nil => rfl
  | cons item rest => rfl

end Answers

/-! ## One list, whole and in pages -/

/-- Searching for everything shows these records on every page.  Listing shows them in pages of
their own, or else nothing is found on any page. -/
structure ShowAlike (settings : EngineSettings) (search : SearchRequest → Except Failure (Page E))
    (list : UInt32 → Except Failure (Page E)) (items : List E) : Prop where
  searched : ∀ (request : SearchRequest) (page : UInt32), request.AsksForAll →
    SearchRequest.checkPageNo request.pageNo = .ok page →
    search request = .ok ⟨items, 1, items.length, items.length, none⟩
  nothing : ∀ page : UInt32, 1 ≤ page.toNat →
    ((∃ failure, list page = .error failure ∧ failure.kind = .notFound) ↔ items = [])
  pages : items ≠ [] → ∃ slice : UInt32 → List E,
    (∀ page : UInt32, 1 ≤ page.toNat →
      list page = .ok ⟨slice page, page, Ranking.pageSize settings, items.length, none⟩) ∧
    Ranking.pagesTogether (Ranking.pageCount settings items.length) slice = items ∧
    ∀ page : UInt32, Ranking.pageCount settings items.length < page.toNat → slice page = []

theorem showAlike [Searchable E F] {fields : List (WeightedField F)} {corpus : Action τ (List E)}
    {items : List E} (operation other : Operation)
    (hcorpus : (corpus session db).answer = .ok items)
    (hlength : items.length < 0x10000000000000000)
    (hpages : Ranking.pageCount settings items.length < 0x100000000) :
    ShowAlike settings
      (fun request => (searching settings operation fields request corpus session db).answer)
      (fun page => (listing settings other page corpus session db).answer) items where
  searched request page hall hpage := searching_answer (request.check_of_asksForAll hall hpage) hcorpus
  nothing page hpage := by
    rw [listing_answer hpage hcorpus]
    cases items with
    | nil => exact iff_of_true ⟨_, rfl, rfl⟩ rfl
    | cons item rest => simp
  pages hsome := by
    refine ⟨Ranking.paginate settings items, fun page hpage => ?_,
      Ranking.pagesTogether_paginate hlength hpages, fun page hpage =>
        Ranking.paginate_eq_nil hlength hpage⟩
    have hnot : items.isEmpty = false := List.isEmpty_eq_false_iff.mpr hsome
    rw [listing_answer hpage hcorpus, hnot]
    rfl

/-- Searches without a query and listings show the same categories by name, and the same active
advertisements, the newest first.  Times that are stored as text are in the order of its bytes. -/
theorem browsing_agrees_with_listing (hsupplied : session.backend.Supplied)
    (hdecodes : db.Decodes session.backend)
    (hcategories : db.categories.length < 0x10000000000000000)
    (hadvertisements : db.advertisements.length < 0x10000000000000000)
    (hcategoryPages : Ranking.pageCount settings db.categories.length < 0x100000000)
    (hactivePages : Ranking.pageCount settings
      (db.advertisements.filter fun row => row.isActive).length < 0x100000000) :
    (∃ items, db.ListsCategories session.backend items ∧
      ShowAlike settings (fun request => (searchCategories settings request session db).answer)
        (fun page => (listCategories settings page session db).answer) items) ∧
    (∃ items, db.ListsActive session.backend items ∧
      ShowAlike settings (fun request => (searchAdvertisements settings request session db).answer)
        (fun page => (listAdvertisements settings page session db).answer) items) ∧
    ∀ s t : String,
      Backend.embedded.compareStamps s t = .lt ↔ Utf8.encode s < Utf8.encode t := by
  have hread : ∃ items, (Store.listCategories session db).answer = .ok items ∧
      db.ListsCategories session.backend items := listCategories_ok hdecodes.categories
  obtain ⟨categories, hloaded, hlisted⟩ := hread
  obtain ⟨active, hloaded', hlisted'⟩ := activeAdvertisements_ok hsupplied fun row hrow _ =>
    hdecodes.readJoined hrow
  have hlength : categories.length = db.categories.length := hlisted.length_eq
  have hlength' : active.length = (db.advertisements.filter fun row => row.isActive).length :=
    hlisted'.length_eq
  have hfewer : (db.advertisements.filter fun row => row.isActive).length ≤
      db.advertisements.length := List.length_filter_le _ _
  refine ⟨⟨categories, hlisted, ?_⟩, ⟨active, hlisted', ?_⟩, fun s t => compareStamps_embedded⟩
  · exact showAlike .searchCategories .listCategories hloaded (by omega) (by rwa [hlength])
  · exact showAlike .searchAdvertisements .listAdvertisements hloaded' (by omega)
      (by rwa [hlength'])

theorem listed_board_browses :
    let db := Board.listedBoard.run .empty Board.listedHistory
    ∃ items first second : List Advertisement,
      (searchAdvertisements Ranking.sampleSettings ⟨some (.str " "), some (.num (.whole 2))⟩
        Board.listedSession db).answer = .ok ⟨items, 1, 2, 2, none⟩ ∧
      (listAdvertisements Ranking.sampleSettings 1 Board.listedSession db).answer =
        .ok ⟨first, 1, 1, 2, none⟩ ∧
      (listAdvertisements Ranking.sampleSettings 2 Board.listedSession db).answer =
        .ok ⟨second, 2, 1, 2, none⟩ ∧
      first ++ second = items := by
  intro db
  have hactive : (db.advertisements.filter fun row => row.isActive).length = 2 := rfl
  obtain ⟨-, ⟨items, hlisted, hshown⟩, -⟩ :=
    @browsing_agrees_with_listing _ Board.listedSession db Ranking.sampleSettings .embedded
      Board.listedBoard_legible.decodes (by decide) (by decide) (by decide) (by decide)
  have hcount : items.length = 2 := hlisted.length_eq.trans hactive
  have hsome : items ≠ [] := by
    rintro rfl
    simp at hcount
  have hblank : isBlankText " " = true := by decide
  have hpage : SearchRequest.checkPageNo (some (.num (.whole 2))) = .ok 2 := by
    simp [SearchRequest.checkPageNo, checkPage, Decimal.isInt64]
  have hsearched := hshown.searched ⟨some (.str " "), some (.num (.whole 2))⟩ 2 hblank hpage
  obtain ⟨slice, hpages, htogether, -⟩ := hshown.pages hsome
  have hboth : Ranking.pagesTogether 2 slice = slice 1 ++ slice 2 := by
    simp [Ranking.pagesTogether, List.range_succ]
  have htwo : Ranking.pageCount Ranking.sampleSettings 2 = 2 := by decide
  rw [hcount] at hsearched hpages htogether
  rw [htwo, hboth] at htogether
  exact ⟨items, slice 1, slice 2, hsearched, hpages 1 (by decide), hpages 2 (by decide), htogether⟩

end Service
end Noticeboard
