import Mathlib.Data.List.Forall2
import Noticeboard.Proofs.ByteOrder
import Noticeboard.Proofs.Faults
import Noticeboard.Proofs.SortedCandidates
import Noticeboard.Proofs.Timeline

/-!
# What a listing loads

The store lists categories by the bytes of their names, and active advertisements by the times that
are stored with them, the latest first.  If the rows can be read and every advertisement has its
category, each row is listed exactly once.
-/

namespace Noticeboard

open Text

namespace Store

variable {τ α β ε : Type} {backend : Backend τ} {session : Session τ} {db : Database τ}

/-! ## Reading row by row -/

section Rows

variable {R : α → β → Prop} {rows : List α} {items : List β}

theorem row_of_item (h : List.Forall₂ R rows items) : ∀ item ∈ items, ∃ row ∈ rows, R row item := by
  induction h with
  | nil => simp
  | @cons row item rows items hfirst _ ih =>
      intro other hother
      rcases List.mem_cons.mp hother with rfl | hrest
      · exact ⟨row, List.mem_cons_self, hfirst⟩
      · obtain ⟨found, hfound, hread⟩ := ih other hrest
        exact ⟨found, List.mem_cons_of_mem row hfound, hread⟩

theorem item_of_row (h : List.Forall₂ R rows items) : ∀ row ∈ rows, ∃ item ∈ items, R row item :=
  row_of_item h.flip

/-- What holds of rows one after another holds of what is read of them. -/
theorem pairwise_of_forall₂ {Q : α → α → Prop} {S : β → β → Prop} (h : List.Forall₂ R rows items)
    (hrows : rows.Pairwise Q)
    (hstep : ∀ a ∈ rows, ∀ b ∈ rows, ∀ item other, R a item → R b other → Q a b → S item other) :
    items.Pairwise S := by
  induction h with
  | nil => exact .nil
  | @cons row item rows items hfirst hrest ih =>
      have hpairs := List.pairwise_cons.mp hrows
      have htail : items.Pairwise S := ih hpairs.2 fun a ha b hb =>
        hstep a (List.mem_cons_of_mem row ha) b (List.mem_cons_of_mem row hb)
      refine .cons (fun other hother => ?_) htail
      obtain ⟨later, hlater, hread⟩ := row_of_item hrest other hother
      exact hstep row List.mem_cons_self later (List.mem_cons_of_mem row hlater) item other hfirst
        hread (hpairs.1 later hlater)

theorem filterMap_mapM_of_forall {f : α → Option (Except ε β)} {l : List α}
    (h : ∀ a ∈ l, ∃ b, f a = some (.ok b)) :
    ∃ bs, (l.filterMap f).mapM id = .ok bs ∧
      List.Forall₂ (fun a b => f a = some (.ok b)) l bs := by
  induction l with
  | nil => exact ⟨[], rfl, .nil⟩
  | cons a rest ih =>
      have hrest : ∀ a ∈ rest, ∃ b, f a = some (.ok b) :=
        fun a ha => h a (List.mem_cons_of_mem _ ha)
      obtain ⟨b, hb⟩ := h a List.mem_cons_self
      obtain ⟨bs, hbs, hreads⟩ := ih hrest
      refine ⟨b :: bs, ?_, .cons hb hreads⟩
      rw [List.filterMap_cons_some hb, List.mapM_cons, hbs]
      rfl

theorem mapM_of_forall {f : α → Except ε β} {l : List α} (h : ∀ a ∈ l, ∃ b, f a = .ok b) :
    ∃ bs, l.mapM f = .ok bs ∧ List.Forall₂ (fun a b => f a = .ok b) l bs := by
  have hall := filterMap_mapM_of_forall (f := fun a => some (f a)) (l := l) (by simpa using h)
  simpa [List.filterMap_eq_map, List.mapM_map, Function.comp_def] using hall

end Rows

/-- Tables of which every row can be read, and every advertisement with its category. -/
structure Database.Decodes (backend : Backend τ) (db : Database τ) : Prop where
  references : ∀ row ∈ db.advertisements, db.hasCategory row.categoryId = true
  categories : ∀ row ∈ db.categories, ∃ category, backend.readCategory row = .ok category
  advertisements : ∀ row ∈ db.advertisements, ∀ categoryName,
    ∃ advertisement, backend.readAdvertisement row categoryName = .ok advertisement

theorem Database.Legible.decodes (h : db.Legible backend) : db.Decodes backend where
  references := h.orderly.consistent.advertisementReferences
  categories _ := readCategory_ok h.orderly.stamped
  advertisements row hrow categoryName := by
    have htimes := h.orderly.stamped.advertisements row hrow
    obtain ⟨n, hscore⟩ := h.whole row hrow
    exact readAdvertisement_ok categoryName hscore htimes.1 htimes.2

theorem Database.Decodes.readJoined (h : db.Decodes backend) {row : AdvertisementRow τ}
    (hrow : row ∈ db.advertisements) :
    ∃ advertisement, Store.readJoined backend db row = some (.ok advertisement) := by
  obtain ⟨category, hcategory⟩ := category?_of_hasCategory (h.references row hrow)
  obtain ⟨advertisement, hread⟩ := h.advertisements row hrow category.name
  refine ⟨advertisement, ?_⟩
  simp [Store.readJoined, hcategory, hread]

/-- The category of this id has this name. -/
def Database.Names (db : Database τ) (id name : String) : Prop :=
  (db.category? id).map CategoryRow.name = some name

/-- A record was read of a row and of the category of the row. -/
structure AdvertisementRow.ReadAs (backend : Backend τ) (db : Database τ)
    (row : AdvertisementRow τ) (advertisement : Advertisement) : Prop where
  shown : row.ShownBy advertisement
  created : backend.readStamp "created_at" row.createdAt = .ok advertisement.createdAt
  named : db.Names advertisement.categoryId advertisement.categoryName

theorem readJoined_eq_ok {row : AdvertisementRow τ} {advertisement : Advertisement}
    (hread : readJoined backend db row = some (.ok advertisement)) :
    row.ReadAs backend db advertisement := by
  obtain ⟨category, hcategory, hrow⟩ := Option.map_eq_some_iff.mp hread
  simp only [Backend.readAdvertisement, bind_eq_ok, pure_eq_ok] at hrow
  obtain ⟨score, hscore, created, hcreated, updated, -, rfl⟩ := hrow
  have hnamed : db.Names row.categoryId category.name := by
    simp [Database.Names, hcategory]
  exact ⟨⟨rfl, rfl, rfl, read_eq_ok hscore⟩, hcreated, hnamed⟩

/-! ## The order of a listing -/

theorem compareStamps_embedded {s t : String} :
    Backend.embedded.compareStamps s t = .lt ↔ Utf8.encode s < Utf8.encode t := by
  rw [Utf8.encode_lt_iff]
  exact compareOfLessAndEq_eq_lt

/-- Later times come first, and among equal times ids go by their bytes. -/
def ListedBefore (backend : Backend τ) (a b : AdvertisementRow τ) : Prop :=
  backend.compareStamps b.createdAt a.createdAt = .lt ∨
    b.createdAt = a.createdAt ∧ Utf8.encode a.id ≤ Utf8.encode b.id

theorem Backend.Supplied.transCmp (h : backend.Supplied) : Std.TransCmp backend.compareStamps := by
  cases h with
  | embedded => exact inferInstanceAs (Std.TransCmp (Ord.compare : String → String → Ordering))
  | server => exact inferInstanceAs (Std.TransCmp Time.Instant.compare)

theorem Backend.Supplied.eq_of_compareStamps (h : backend.Supplied) {s t : τ}
    (hequal : backend.compareStamps s t = .eq) : s = t := by
  cases h with
  | embedded => exact Std.LawfulEqOrd.eq_of_compare hequal
  | server => exact Time.Instant.eq_of_compare_eq hequal

theorem listedBefore_of_compare (hsupplied : backend.Supplied) {a b : AdvertisementRow τ}
    (h : ((backend.compareStamps b.createdAt a.createdAt).then (Ord.compare a.id b.id)).isLE =
      true) : ListedBefore backend a b := by
  rcases Ordering.isLE_then_iff_or.mp h with hlater | ⟨hequal, hid⟩
  · exact .inl hlater
  · exact .inr ⟨hsupplied.eq_of_compareStamps hequal, Utf8.compare_isLE_iff.mp hid⟩

theorem pairwise_newerFirst (hsupplied : backend.Supplied) (rows : List (AdvertisementRow τ)) :
    (rows.mergeSort (newerFirst backend)).Pairwise (ListedBefore backend) := by
  have htrans : Std.TransCmp backend.compareStamps := hsupplied.transCmp
  have hstamps : Std.TransCmp fun a b : AdvertisementRow τ =>
      backend.compareStamps b.createdAt a.createdAt :=
    Ranking.transCmp_on (fun s t => backend.compareStamps t s) AdvertisementRow.createdAt
  have hrows : Std.TransCmp fun a b : AdvertisementRow τ =>
      (backend.compareStamps b.createdAt a.createdAt).then (Ord.compare a.id b.id) :=
    inferInstanceAs (Std.TransCmp (compareLex
      (fun a b : AdvertisementRow τ => backend.compareStamps b.createdAt a.createdAt)
      (compareOn AdvertisementRow.id)))
  have hsorted := Ranking.pairwise_mergeSort_cmp (fun a b : AdvertisementRow τ =>
    (backend.compareStamps b.createdAt a.createdAt).then (Ord.compare a.id b.id)) rows
  exact hsorted.imp fun hab => listedBefore_of_compare hsupplied hab

theorem pairwise_names (rows : List (CategoryRow τ)) :
    (rows.mergeSort fun a b => decide (a.name ≤ b.name)).Pairwise
      fun a b => Utf8.encode a.name ≤ Utf8.encode b.name := by
  have hsorted : (rows.mergeSort fun a b => decide (a.name ≤ b.name)).Pairwise
      fun a b => decide (a.name ≤ b.name) = true := by
    apply List.pairwise_mergeSort
    · intro a b c hab hbc
      simp only [decide_eq_true_eq] at hab hbc ⊢
      exact le_trans hab hbc
    · intro a b
      simpa using le_total a.name b.name
  exact hsorted.imp fun hab => Utf8.encode_le_iff.mpr (of_decide_eq_true hab)

/-! ## Listings -/

/-- The records of all categories, each once, by name. -/
def Database.ListsCategories (backend : Backend τ) (db : Database τ) (items : List Category) :
    Prop :=
  ∃ rows : List (CategoryRow τ), rows.Perm db.categories ∧
    rows.Pairwise (fun a b => Utf8.encode a.name ≤ Utf8.encode b.name) ∧
    List.Forall₂ (fun row item => backend.readCategory row = .ok item) rows items

/-- The records of all active advertisements, each once, the newest first. -/
def Database.ListsActive (backend : Backend τ) (db : Database τ) (items : List Advertisement) :
    Prop :=
  ∃ rows : List (AdvertisementRow τ),
    rows.Perm (db.advertisements.filter fun row => row.isActive) ∧
    rows.Pairwise (ListedBefore backend) ∧
    List.Forall₂ (fun row item => readJoined backend db row = some (.ok item)) rows items

theorem Database.ListsCategories.length_eq {items : List Category}
    (h : db.ListsCategories backend items) : items.length = db.categories.length := by
  obtain ⟨rows, hperm, -, hreads⟩ := h
  rw [← hreads.length_eq, hperm.length_eq]

theorem Database.ListsActive.length_eq {items : List Advertisement}
    (h : db.ListsActive backend items) :
    items.length = (db.advertisements.filter fun row => row.isActive).length := by
  obtain ⟨rows, hperm, -, hreads⟩ := h
  rw [← hreads.length_eq, hperm.length_eq]

theorem listCategories_ok
    (hread : ∀ row ∈ db.categories, ∃ category, session.backend.readCategory row = .ok category) :
    ∃ items, (listCategories session db).answer = .ok items ∧
      db.ListsCategories session.backend items := by
  have hperm := List.mergeSort_perm db.categories fun a b => decide (a.name ≤ b.name)
  obtain ⟨items, hanswer, hreads⟩ := mapM_of_forall fun row hrow =>
    hread row (hperm.mem_iff.mp hrow)
  exact ⟨items, hanswer, _, hperm, pairwise_names db.categories, hreads⟩

theorem activeAdvertisements_ok (hsupplied : session.backend.Supplied)
    (hread : ∀ row ∈ db.advertisements, row.isActive = true →
      ∃ advertisement, readJoined session.backend db row = some (.ok advertisement)) :
    ∃ items, (activeAdvertisements session db).answer = .ok items ∧
      db.ListsActive session.backend items := by
  have hperm := List.mergeSort_perm (db.advertisements.filter fun row => row.isActive)
    (newerFirst session.backend)
  obtain ⟨items, hanswer, hreads⟩ := filterMap_mapM_of_forall fun row hrow => by
    have hactive := List.mem_filter.mp (hperm.mem_iff.mp hrow)
    exact hread row hactive.1 hactive.2
  exact ⟨items, hanswer, _, hperm, pairwise_newerFirst hsupplied _, hreads⟩

end Store

/-! ## A board with listings -/

namespace Board

open Store

theorem scoresWhole_of_scores {τ : Type} {db : Database τ} {scores : List Score}
    (h : db.advertisements.map AdvertisementRow.score = scores)
    (hwhole : ∀ score ∈ scores, ∃ n : Int64, score = .whole n) : db.ScoresWhole := by
  intro row hrow
  exact hwhole row.score (h ▸ List.mem_map_of_mem hrow)

/-- Two advertisements that were published, the later one first, and one that was not. -/
def listedHistory : List Turn :=
  [sampleTurn "1" (.service (.createAdvertisement (.user "ann")
      ⟨⟨"Road bike", none, 25000⟩, .new ⟨"Bikes", none⟩⟩)),
    { sampleTurn "2" (.service (.createAdvertisement (.user "bob")
        ⟨⟨"Canoe", some "For two", 40000⟩, .new ⟨"Boats", none⟩⟩)) with
      now := .sinceEpoch 46800 0 },
    sampleTurn "3" (.store (.createAdvertisement "eve" ⟨⟨"Tandem", none, 60000⟩, "c1"⟩)),
    sampleTurn "4" (.service (.approveAdvertisement (.staff "dan") "a2" true)),
    sampleTurn "5" (.service (.approveAdvertisement (.staff "dan") "a1" true))]

def listedBoard : Board String :=
  embedded ⟨2, 3, -1⟩ .standard

def listedSession : Session String :=
  listedBoard.session (sampleTurn "6" (.store .activeAdvertisements))

theorem listedHistory_ordinary : ∀ turn ∈ listedHistory, turn.now.Ordinary := by
  have htimes : ∀ turn ∈ listedHistory,
      (0 ≤ turn.now.date.year ∧ turn.now.date.year ≤ 9999) ∧ turn.now.nano < 1000000000 := by
    decide
  exact fun turn hturn => ⟨(htimes turn hturn).1, (htimes turn hturn).2⟩

theorem listedBoard_legible :
    (listedBoard.run .empty listedHistory).Legible listedBoard.backend where
  orderly := run_orderly fun turn hturn => .embedded (listedHistory_ordinary turn hturn).year
  whole := by
    have hscores : (listedBoard.run .empty listedHistory).advertisements.map
        AdvertisementRow.score = [.whole 0, .whole 0, .whole 0] := rfl
    exact scoresWhole_of_scores hscores (by simp)

end Board
end Noticeboard
