import Noticeboard.Proofs.Browsing
import Noticeboard.Proofs.OwnTrigrams
import Noticeboard.Proofs.PatchedRows
import Noticeboard.Proofs.RankedParts
import Noticeboard.Proofs.SearchGrammar

/-!
# Searching for a title

Whoever searches for the title of an active advertisement finds the advertisement, as long as there
is a letter or a number in the title and no word of it ends in a capital sigma.  The title is then
as similar to the query as can be, which passes every threshold up to one.  A query takes a sigma
at the end of a word for the final one, and a title does not; such a title may not even be found.
-/

namespace Noticeboard

open Store Text

namespace Ranking

/-! ## Matches on pages -/

section Pages

variable {E F : Type} [Searchable E F] {settings : EngineSettings}
  {fields : List (WeightedField F)} {query : String} {corpus items : List E} {entity : E}

theorem exists_page (hmem : entity ∈ items) (hlength : items.length < 0x10000000000000000)
    (hpages : pageCount settings items.length < 0x100000000) :
    ∃ page : UInt32, 1 ≤ page.toNat ∧ entity ∈ paginate settings items page := by
  rw [← pagesTogether_paginate hlength hpages, pagesTogether, List.mem_flatMap] at hmem
  obtain ⟨k, hk, hpage⟩ := hmem
  have hlast : k + 1 < 0x100000000 := by
    have hcount := List.mem_range.mp hk
    omega
  have hnumber : (UInt32.ofNat (k + 1)).toNat = k + 1 := UInt32.toNat_ofNat_of_lt hlast
  exact ⟨UInt32.ofNat (k + 1), by omega, hpage⟩

theorem mem_ranking (hmem : entity ∈ corpus) (hmatches : Matches settings fields query entity) :
    entity ∈ ranking settings fields query corpus := by
  rw [ranking, candidates_perm.mem_iff, matching, List.mem_filter]
  exact ⟨hmem, decide_eq_true hmatches⟩

/-- With a match, every page is answered with its slice of the ranking. -/
theorem rank_of_mem (hmem : entity ∈ ranking settings fields query corpus) (page : UInt32) :
    rank settings fields ⟨some query, page⟩ corpus =
      .ok ⟨paginate settings (ranking settings fields query corpus) page, page, pageSize settings,
        (ranking settings fields query corpus).length, some query⟩ := by
  have hsome : (candidates settings fields query corpus).isEmpty = false := by
    rw [List.isEmpty_eq_false_iff]
    intro hnone
    rw [ranking, hnone] at hmem
    contradiction
  simp [rank, pageOfCandidates, hsome, ranking, map_paginate]

theorem rank_of_none (hnone : ∀ entity ∈ corpus, ¬ Matches settings fields query entity)
    (page : UInt32) :
    rank settings fields ⟨some query, page⟩ corpus =
      .error (.nothingMatches (Searchable.label E) query) := by
  have hmatching : matching settings fields query corpus = [] := by
    simpa [matching, List.filter_eq_nil_iff] using hnone
  have hempty : (candidates settings fields query corpus).isEmpty = true := by
    have hlength : (ranking settings fields query corpus).length = 0 := by
      rw [length_ranking, hmatching, List.length_nil]
    rw [ranking, List.length_map, List.length_eq_zero_iff] at hlength
    rw [hlength, List.isEmpty_nil]
  simp [rank, pageOfCandidates, hempty]

end Pages

/-- A title with the trigrams of the query is similar enough for every threshold up to one. -/
theorem matches_title {settings : EngineSettings} {query : String} {advertisement : Advertisement}
    (hsame : TrigramSet.ofText query = TrigramSet.ofText advertisement.title)
    (hsome : (TrigramSet.ofText query).isEmpty = false)
    (hthreshold : settings.matchThreshold ≤ 1.0) :
    Matches settings advertisementFields query advertisement := by
  have hsimilar : (TrigramSet.ofText query).similarityIn Float
      (fieldGrams advertisement AdvertisementField.title) = 1.0 := by
    show (TrigramSet.ofText query).similarity (TrigramSet.ofText advertisement.title) = 1.0
    rw [← hsame, TrigramSet.similarity_self hsome]
  refine ⟨(.title, 1.5), List.mem_cons_self, by decide +kernel, ?_, ?_⟩
  · rw [hsimilar]
    decide +kernel
  · rw [hsimilar]
    exact hthreshold

end Ranking

theorem SearchRequest.check_of_text {request : SearchRequest} {text : String} {number : UInt32}
    (htext : request.query = some (.str text)) (hnumber : checkPageNo request.pageNo = .ok number) :
    request.check = .ok ⟨normalizeQuery text, number⟩ := by
  unfold check
  rw [htext, hnumber]
  rfl

namespace Service

variable {τ E : Type} {settings : EngineSettings}

/-- Every page of a search for this text is answered with its slice of one list, and the record is
in this list.  It stands on one of the pages, as long as they all have numbers. -/
def FoundBy (settings : EngineSettings) (search : SearchRequest → Except Failure (Page E))
    (text : String) (item : E) : Prop :=
  ∃ found : List E, item ∈ found ∧
    (∀ (request : SearchRequest) (number : UInt32), request.query = some (.str text) →
      SearchRequest.checkPageNo request.pageNo = .ok number →
      search request = .ok ⟨Ranking.paginate settings found number, number,
        Ranking.pageSize settings, found.length, normalizeQuery text⟩) ∧
    (found.length < 0x10000000000000000 →
      Ranking.pageCount settings found.length < 0x100000000 →
      ∃ number : UInt32, 1 ≤ number.toNat ∧ item ∈ Ranking.paginate settings found number)

theorem foundBy_of_matches {session : Session τ} {db : Database τ} {items : List Advertisement}
    {text query : String} {item : Advertisement}
    (hloaded : (activeAdvertisements session db).answer = .ok items)
    (hquery : normalizeQuery text = some query) (hitem : item ∈ items)
    (hmatches : Ranking.Matches settings advertisementFields query item) :
    FoundBy settings (fun request => (searchAdvertisements settings request session db).answer)
      text item := by
  have hmem := Ranking.mem_ranking hitem hmatches
  refine ⟨Ranking.ranking settings advertisementFields query items, hmem,
    fun request number htext hnumber => ?_, fun hlength hpages =>
      Ranking.exists_page hmem hlength hpages⟩
  have hranked := Ranking.rank_of_mem hmem number
  rw [← hquery] at hranked
  exact (searching_answer (SearchRequest.check_of_text htext hnumber) hloaded).trans hranked

/-- The scores of what is listed are 64-bit integers. -/
def ListedWhole (db : Database τ) : Prop :=
  ∀ row ∈ db.advertisements, row.isActive = true → ∃ n : Int64, row.score = .whole n

theorem activeAdvertisements_of_listedWhole {session : Session τ} {db : Database τ}
    (hsupplied : session.backend.Supplied) (horderly : db.Orderly session.backend)
    (hwhole : ListedWhole db) :
    ∃ items, (activeAdvertisements session db).answer = .ok items ∧
      db.ListsActive session.backend items := by
  refine activeAdvertisements_ok hsupplied fun row hrow hactive => ?_
  obtain ⟨n, hscore⟩ := hwhole row hrow hactive
  exact horderly.readJoined hrow hscore

end Service

namespace Board

/-- A query with the trigrams of a title finds the active advertisements of this title. -/
theorem found_by_title {τ : Type} {board : Board τ} {turns : List Turn}
    {settings : EngineSettings} {session : Session τ} {text query : String}
    (hquery : normalizeQuery text = some query)
    (hsame : TrigramSet.ofText query = TrigramSet.ofText text)
    (hsome : (TrigramSet.ofText query).isEmpty = false) (hsupplied : board.backend.Supplied)
    (hclock : ∀ turn ∈ turns, board.backend.Timely turn.now)
    (hwhole : board.backend.SumsWhole ∨ Service.ListedWhole (board.run .empty turns))
    (hthreshold : settings.matchThreshold ≤ 1.0) (hsession : session.backend = board.backend) :
    ∀ row ∈ (board.run .empty turns).advertisements, row.isActive = true → row.title = text →
      ∃ advertisement : Advertisement, advertisement.id = row.id ∧
        Service.FoundBy settings (fun request =>
          (Service.searchAdvertisements settings request session (board.run .empty turns)).answer)
          text advertisement := by
  intro row hrow hactive htitle
  rw [← hsession] at hsupplied
  have horderly : (board.run .empty turns).Orderly session.backend := hsession ▸ run_orderly hclock
  have hscores : Service.ListedWhole (board.run .empty turns) :=
    hwhole.elim (fun hsums row hrow _ => run_scoresWhole hsums turns row hrow) id
  obtain ⟨items, hloaded, rows, hperm, -, hreads⟩ :=
    Service.activeAdvertisements_of_listedWhole hsupplied horderly hscores
  have hlisted : row ∈ rows := by
    rw [hperm.mem_iff, List.mem_filter]
    exact ⟨hrow, hactive⟩
  obtain ⟨advertisement, hitem, hread⟩ := item_of_row hreads row hlisted
  obtain ⟨category, n, created, updated, -, -, -, -, rfl⟩ := readJoined_eq_ok_iff.mp hread
  refine ⟨_, rfl, Service.foundBy_of_matches hloaded hquery hitem ?_⟩
  apply Ranking.matches_title _ hsome hthreshold
  rw [hsame, ← htitle]

/-- A text with a letter or a number in it is a query of its own.  If no capital sigma ends a word
of it, the query has the trigrams of the text and finds every active advertisement of this title,
with every threshold up to one, after every run that leaves a list to search: sums of points that
are no 64-bit integers are refused, or no active advertisement has such a score. -/
theorem text_finds_itself {text : String}
    (hletters : ∃ c ∈ text.toList.flatMap lowerChar, isAlphanumeric c = true) :
    ∃ query, normalizeQuery text = some query ∧
      (sigmaEndsWord [] text.toList = false →
        TrigramSet.ofText query = TrigramSet.ofText text ∧ similarity query text = 1.0 ∧
        ∀ (τ : Type) (board : Board τ) (turns : List Turn) (settings : EngineSettings)
          (session : Session τ), board.backend.Supplied →
          (∀ turn ∈ turns, board.backend.Timely turn.now) →
          board.backend.SumsWhole ∨ Service.ListedWhole (board.run .empty turns) →
          settings.matchThreshold ≤ 1.0 → session.backend = board.backend →
          ∀ row ∈ (board.run .empty turns).advertisements, row.isActive = true →
            row.title = text → ∃ advertisement : Advertisement, advertisement.id = row.id ∧
              Service.FoundBy settings (fun request =>
                (Service.searchAdvertisements settings request session
                  (board.run .empty turns)).answer) text advertisement) := by
  have hquery := normalizeQuery_of_letters hletters
  refine ⟨lower (trim text), hquery, fun hsigma => ?_⟩
  have hsame := ofText_lower_trim hsigma
  have hsome : (TrigramSet.ofText (lower (trim text))).isEmpty = false := by
    rw [hsame]
    exact TrigramSet.isEmpty_ofText hletters
  have hsimilar : similarity (lower (trim text)) text = 1.0 := by
    rw [similarity, ← hsame]
    exact TrigramSet.similarity_self hsome
  exact ⟨hsame, hsimilar, fun τ board turns settings session hsupplied hclock hwhole hthreshold
    hsession => found_by_title hquery hsame hsome hsupplied hclock hwhole hthreshold hsession⟩

/-- Two titles with capital sigmas: at the beginning of words, and at the end of one. -/
def sigmaHistory : List Turn :=
  [sampleTurn "1" (.service (.createAdvertisement (.user "ann")
      ⟨⟨"ΣΤΟΛΗ ΣΚΙ", none, 25000⟩, .new ⟨"Games", none⟩⟩)),
    sampleTurn "2" (.store (.createAdvertisement "eve" ⟨⟨"ΑΣ", none, 300⟩, "c1"⟩)),
    sampleTurn "3" (.service (.approveAdvertisement (.staff "dan") "a1" true)),
    sampleTurn "4" (.service (.approveAdvertisement (.staff "dan") "a2" true))]

/-- The tables after these calls, all of them at one time. -/
def sigmaTables {τ : Type} (now : τ) : Database τ where
  categories := [⟨"c1", "games", none, now, now⟩]
  advertisements :=
    [⟨"a1", "ΣΤΟΛΗ ΣΚΙ", none, "ann", 25000, "c1", .whole 0, true, now, now⟩,
      ⟨"a2", "ΑΣ", none, "eve", 300, "c1", .whole 0, true, now, now⟩]

theorem run_sigmaHistory :
    listedBoard.run .empty sigmaHistory = sigmaTables (Backend.embedded.stamp sampleNow) :=
  rfl

theorem sigmaTables_listedWhole {τ : Type} (now : τ) : Service.ListedWhole (sigmaTables now) := by
  intro row hrow _
  rcases List.mem_pair.mp hrow with rfl | rfl
  · exact ⟨0, rfl⟩
  · exact ⟨0, rfl⟩

theorem sigmaHistory_timely : ∀ turn ∈ sigmaHistory, listedBoard.backend.Timely turn.now := by
  have hyears : ∀ turn ∈ sigmaHistory, 0 ≤ turn.now.date.year ∧ turn.now.date.year ≤ 9999 := by
    decide
  exact fun turn hturn => .embedded (hyears turn hturn)

/-- Sigmas at the beginning of words do not keep a title from being found, in a file or on a
server. -/
theorem ski_suit_finds_itself :
    let asked := sampleBoard.session (sampleTurn "5" (.store .listCategories))
    normalizeQuery "ΣΤΟΛΗ ΣΚΙ" = some "στολη σκι" ∧
      similarity "στολη σκι" "ΣΤΟΛΗ ΣΚΙ" = 1.0 ∧
      (∃ advertisement : Advertisement, advertisement.id = "a1" ∧
        Service.FoundBy .standard (fun request =>
          (Service.searchAdvertisements .standard request listedSession
            (listedBoard.run .empty sigmaHistory)).answer) "ΣΤΟΛΗ ΣΚΙ" advertisement) ∧
      ∃ advertisement : Advertisement, advertisement.id = "a1" ∧
        Service.FoundBy .standard (fun request =>
          (Service.searchAdvertisements .standard request asked
            (sampleBoard.run .empty sigmaHistory)).answer) "ΣΤΟΛΗ ΣΚΙ" advertisement := by
  intro asked
  have hletters : ∃ c ∈ "ΣΤΟΛΗ ΣΚΙ".toList.flatMap lowerChar, isAlphanumeric c = true :=
    ⟨'σ', by decide +kernel, by decide +kernel⟩
  have hsigma : sigmaEndsWord [] "ΣΤΟΛΗ ΣΚΙ".toList = false := by decide +kernel
  have hlower : normalizeQuery "ΣΤΟΛΗ ΣΚΙ" = some "στολη σκι" := by decide +kernel
  have hthreshold : EngineSettings.standard.matchThreshold ≤ 1.0 := by decide +kernel
  obtain ⟨query, hquery, hfinds⟩ := text_finds_itself hletters
  obtain ⟨-, hsimilar, hsearch⟩ := hfinds hsigma
  obtain rfl : "στολη σκι" = query := Option.some.inj (hlower.symm.trans hquery)
  refine ⟨hlower, hsimilar, ?_, ?_⟩
  · have hwhole : Service.ListedWhole (listedBoard.run .empty sigmaHistory) :=
      run_sigmaHistory ▸ sigmaTables_listedWhole _
    have hrow : (sigmaTables (Backend.embedded.stamp sampleNow)).advertisements[0] ∈
        (listedBoard.run .empty sigmaHistory).advertisements := by
      rw [run_sigmaHistory]
      exact List.mem_cons_self
    exact hsearch String listedBoard sigmaHistory .standard listedSession .embedded
      sigmaHistory_timely (.inr hwhole) hthreshold rfl _ hrow rfl rfl
  · have htables : sampleBoard.run .empty sigmaHistory = sigmaTables sampleNow := rfl
    have hrow : (sigmaTables sampleNow).advertisements[0] ∈
        (sampleBoard.run .empty sigmaHistory).advertisements := by
      rw [htables]
      exact List.mem_cons_self
    exact hsearch Time.Instant sampleBoard sigmaHistory .standard asked .server
      (fun turn _ => .server turn.now) (.inl Backend.sumsWhole_server) hthreshold rfl _ hrow rfl rfl

/-- What is read of the two rows. -/
def skiSuit : Advertisement :=
  ⟨"a1", "ΣΤΟΛΗ ΣΚΙ", none, "ann", 25000, "c1", "games", 0, true, sampleNow, sampleNow⟩

def ace : Advertisement :=
  ⟨"a2", "ΑΣ", none, "eve", 300, "c1", "games", 0, true, sampleNow, sampleNow⟩

/-- A title that ends in a capital sigma is not found on any page. -/
theorem final_sigma_is_not_found :
    let db := listedBoard.run .empty sigmaHistory
    (∃ c ∈ "ΑΣ".toList.flatMap lowerChar, isAlphanumeric c = true) ∧
      normalizeQuery "ΑΣ" = some "ας" ∧
      TrigramSet.ofText "ας" ≠ TrigramSet.ofText "ΑΣ" ∧ similarity "ας" "ΑΣ" = 0.2 ∧
      EngineSettings.standard.matchThreshold ≤ 1.0 ∧
      (∃ row ∈ db.advertisements, row.isActive = true ∧ row.title = "ΑΣ") ∧
      ∀ (request : SearchRequest) (number : UInt32), request.query = some (.str "ΑΣ") →
        SearchRequest.checkPageNo request.pageNo = .ok number →
        (Service.searchAdvertisements .standard request listedSession db).answer =
          .error (.nothingMatches "advertisements" "ας") := by
  have hlower : normalizeQuery "ΑΣ" = some "ας" := by decide +kernel
  have hgrams : TrigramSet.ofText "ας" ≠ TrigramSet.ofText "ΑΣ" := by
    intro hsame
    have hmembers := congrArg TrigramSet.members hsame
    revert hmembers
    decide +kernel
  have horderly : (listedBoard.run .empty sigmaHistory).Orderly listedSession.backend :=
    run_orderly sigmaHistory_timely
  rw [run_sigmaHistory] at horderly ⊢
  refine ⟨⟨'σ', by decide +kernel, by decide +kernel⟩, hlower, hgrams, by decide +kernel,
    by decide +kernel, ⟨_, List.mem_cons_of_mem _ List.mem_cons_self, rfl, rfl⟩, ?_⟩
  intro request number htext hnumber
  obtain ⟨items, hloaded, rows, hperm, -, hreads⟩ :=
    Service.activeAdvertisements_of_listedWhole .embedded horderly (sigmaTables_listedWhole _)
  have hnone : ∀ item ∈ items, ¬ Ranking.Matches .standard advertisementFields "ας" item := by
    intro item hitem
    obtain ⟨row, hrow, hread⟩ := row_of_item hreads item hitem
    have hmem := (List.mem_filter.mp (hperm.mem_iff.mp hrow)).1
    rcases List.mem_pair.mp hmem with rfl | rfl
    · obtain rfl : skiSuit = item := Except.ok.inj (Option.some.inj hread)
      decide +kernel
    · obtain rfl : ace = item := Except.ok.inj (Option.some.inj hread)
      decide +kernel
  have hchecked := SearchRequest.check_of_text htext hnumber
  rw [hlower] at hchecked
  exact (Service.searching_answer hchecked hloaded).trans (Ranking.rank_of_none hnone number)

end Board
end Noticeboard
