import Noticeboard.Proofs.NamedCategories
import Noticeboard.Proofs.VeiledWrites

/-!
# What a patch does to a row

An update reads the row, checks it with the patch applied to it, and writes it.  When that succeeds
and which tables it leaves is said here by the row alone, for both kinds of database.
-/

namespace Noticeboard

open Store

variable {τ α β : Type}

/-! ## Outcomes that succeed -/

namespace Store

/-- A success with this answer, which leaves these tables. -/
def Outcome.Yields (outcome : Outcome τ α) (answer : α) (after : Database τ) : Prop :=
  outcome.answer = .ok answer ∧ outcome.database = after

theorem Outcome.meets_iff_yields {outcome : Outcome τ α} {good : α → Database τ → Prop} :
    (outcome.Meets good fun _ _ => True) ↔ ∀ a after, outcome.Yields a after → good a after := by
  constructor
  · rintro h a _ ⟨hanswer, rfl⟩
    exact h.of_ok hanswer
  · intro h
    unfold Outcome.Meets
    split
    next a hanswer => exact h a _ ⟨hanswer, rfl⟩
    next => trivial

theorem Outcome.yields_of_answer {outcome : Outcome τ α} {answer : α}
    (h : outcome.answer = .ok answer) : outcome.Yields answer outcome.database :=
  ⟨h, rfl⟩

namespace Action

variable {session : Session τ} {db after : Database τ} {answer : α}

theorem yields_bind {action : Action τ β} {next : β → Action τ α} :
    ((action >>= next) session db).Yields answer after ↔
      ∃ b mid, (action session db).Yields b mid ∧ (next b session mid).Yields answer after := by
  show (Action.bind action next session db).Yields answer after ↔ _
  unfold Action.bind
  cases hanswer : (action session db).answer with
  | ok b => simp [Outcome.Yields, hanswer]
  | error failure => simp [Outcome.Yields, hanswer]

theorem yields_pure {a : α} :
    ((pure a : Action τ α) session db).Yields answer after ↔ answer = a ∧ after = db := by
  show Except.ok a = Except.ok answer ∧ db = after ↔ _
  simp only [Except.ok.injEq, eq_comm]

theorem yields_fail {failure : Failure} :
    ((fail failure : Action τ α) session db).Yields answer after ↔ False := by
  simp [fail, Outcome.Yields]

theorem yields_ofExcept {result : Except Failure α} :
    ((ofExcept result : Action τ α) session db).Yields answer after ↔
      result = .ok answer ∧ after = db := by
  show result = .ok answer ∧ db = after ↔ _
  rw [eq_comm (a := db)]

theorem yields_query {look : Backend τ → Database τ → Except Failure α} :
    (query look session db).Yields answer after ↔
      look session.backend db = .ok answer ∧ after = db := by
  show ((ofExcept (look session.backend db) : Action τ α) session db).Yields answer after ↔ _
  exact yields_ofExcept

theorem yields_session {found : Session τ} :
    (Action.session session db).Yields found after ↔ found = session ∧ after = db := by
  show ((pure session : Action τ (Session τ)) session db).Yields found after ↔ _
  exact yields_pure

theorem yields_execute {statement : Statement τ α} {explain : DatabaseFault → Failure} :
    (execute statement explain session db).Yields answer after ↔
      statement session.triggers db = .ok (answer, after) := by
  unfold execute
  cases statement session.triggers db with
  | ok result =>
      obtain ⟨found, changed⟩ := result
      simp [Outcome.Yields]
  | error fault => simp [Outcome.Yields]

theorem Reads.yields_iff {action : Action τ α} (h : action.Reads) :
    (action session db).Yields answer after ↔
      (action session db).answer = .ok answer ∧ after = db := by
  have hsame : (action session db).database = db := h session db
  rw [Outcome.Yields, hsame, eq_comm (a := db)]

/-! A step that writes nothing hands on the tables it was given. -/

section

variable {next : β → Action τ α}

theorem Reads.yields_bind {action : Action τ β} (h : action.Reads) :
    ((action >>= next) session db).Yields answer after ↔
      ∃ b, (action session db).answer = .ok b ∧ (next b session db).Yields answer after := by
  simp only [Action.yields_bind, h.yields_iff, and_assoc, exists_and_left, exists_eq_left]

theorem yields_pure_bind {b : β} :
    ((pure b >>= next : Action τ α) session db).Yields answer after ↔
      (next b session db).Yields answer after := by
  simp only [yields_bind, yields_pure, and_assoc, exists_and_left, exists_eq_left]

theorem yields_ofExcept_bind {result : Except Failure β} :
    ((ofExcept result >>= next) session db).Yields answer after ↔
      ∃ b, result = .ok b ∧ (next b session db).Yields answer after := by
  simp only [yields_bind, yields_ofExcept, and_assoc, exists_and_left, exists_eq_left]

theorem yields_query_bind {look : Backend τ → Database τ → Except Failure β} :
    ((query look >>= next) session db).Yields answer after ↔
      ∃ b, look session.backend db = .ok b ∧ (next b session db).Yields answer after := by
  simp only [yields_bind, yields_query, and_assoc, exists_and_left, exists_eq_left]

theorem yields_session_bind {next : Session τ → Action τ α} :
    ((Action.session >>= next) session db).Yields answer after ↔
      (next session session db).Yields answer after := by
  simp only [yields_bind, yields_session, and_assoc, exists_and_left, exists_eq_left]

theorem yields_execute_bind {statement : Statement τ β} {explain : DatabaseFault → Failure} :
    ((execute statement explain >>= next) session db).Yields answer after ↔
      ∃ b mid, statement session.triggers db = .ok (b, mid) ∧
        (next b session mid).Yields answer after := by
  simp only [yields_bind, yields_execute]

end
end Action
end Store

/-! ## Patched advertisements -/

/-- The row after a patch, written at a time. -/
def AdvertisementPatch.applied (patch : AdvertisementPatch) (stamp : τ)
    (row : AdvertisementRow τ) : AdvertisementRow τ :=
  { row with
    title := patch.title.getD row.title
    description := patch.description.apply row.description
    priceCents := patch.priceCents.getD row.priceCents
    categoryId := patch.categoryId.getD row.categoryId
    updatedAt := stamp }

/-- What an update of an advertisement asks for: the row can be read, a category that is given as
well, and the patched title and price pass their check. -/
structure AdvertisementPatch.Fits (patch : AdvertisementPatch) (backend : Backend τ)
    (db : Database τ) (row : AdvertisementRow τ) : Prop where
  readable : ∃ existing, readJoined backend db row = some (.ok existing)
  checked : checkAdvertisement (patch.title.getD row.title)
    (patch.priceCents.getD row.priceCents) = .ok ()
  placed : ∀ categoryId, patch.categoryId = some categoryId →
    ∃ category, lookUpCategory categoryId backend db = .ok category

namespace Store

variable {backend : Backend τ} {session : Session τ} {db after : Database τ} {id : String}

/-! ## Writing one row -/

/-- Two changes of the row with a key come to the same, if they do so on that row. -/
theorem map_congr_of_key {ρ : Type} {key : ρ → String} {rows : List ρ} {row : ρ}
    {change change' : ρ → ρ} (hkeys : (rows.map key).Nodup) (hrow : row ∈ rows)
    (h : change row = change' row) :
    (rows.map fun other => if key other = key row then change other else other) =
      rows.map fun other => if key other = key row then change' other else other := by
  apply List.map_congr_left
  intro other hother
  by_cases hkey : key other = key row
  · rw [if_pos hkey, if_pos hkey, List.inj_on_of_nodup_map hkeys hother hrow hkey, h]
  · rw [if_neg hkey, if_neg hkey]

theorem changeAdvertisement_congr {row : AdvertisementRow τ}
    {change change' : AdvertisementRow τ → AdvertisementRow τ}
    (hids : (db.advertisements.map AdvertisementRow.id).Nodup)
    (hrow : db.advertisement? id = some row) (h : change row = change' row) :
    Statement.changeAdvertisement db id change = Statement.changeAdvertisement db id change' := by
  have hid : row.id = id := key_eq_of_find? hrow
  subst hid
  unfold Statement.changeAdvertisement
  rw [map_congr_of_key hids (List.mem_of_find?_eq_some hrow) h]

theorem changeCategory_congr {row : CategoryRow τ} {change change' : CategoryRow τ → CategoryRow τ}
    (hids : (db.categories.map CategoryRow.id).Nodup)
    (hrow : db.category? id = some row) (h : change row = change' row) :
    changeCategory db id change = changeCategory db id change' := by
  have hid : row.id = id := key_eq_of_find? hrow
  subst hid
  unfold changeCategory
  rw [map_congr_of_key hids (List.mem_of_find?_eq_some hrow) h]

theorem advertisement?_changed {row : AdvertisementRow τ}
    {change : AdvertisementRow τ → AdvertisementRow τ} (hrow : db.advertisement? id = some row)
    (hchange : ∀ row, (change row).id = row.id) :
    (Statement.changeAdvertisement db id change).advertisement? id = some (change row) := by
  have hid : row.id = id := key_eq_of_find? hrow
  rw [Service.advertisement?_changeAdvertisement hchange, hrow, Option.map_some, if_pos hid]

theorem category?_changed {row : CategoryRow τ} {change : CategoryRow τ → CategoryRow τ}
    (hrow : db.category? id = some row) (hchange : ∀ row, (change row).id = row.id) :
    (changeCategory db id change).category? id = some (change row) := by
  have hid : row.id = id := key_eq_of_find? hrow
  have hkey : ((fun other : CategoryRow τ => other.id == id) ∘
      fun other => if other.id = id then change other else other) =
        fun other => other.id == id := by
    funext other
    by_cases hother : other.id = id <;> simp [hother, hchange]
  unfold Database.category? at hrow ⊢
  simp only [changeCategory, List.find?_map, hkey, hrow, Option.map_some, if_pos hid]

theorem changeAdvertisement_twice {first second : AdvertisementRow τ → AdvertisementRow τ}
    (hfirst : ∀ row, (first row).id = row.id) :
    Statement.changeAdvertisement (Statement.changeAdvertisement db id first) id second =
      Statement.changeAdvertisement db id fun row => second (first row) := by
  simp only [Statement.changeAdvertisement, List.map_map]
  congr 2
  funext row
  by_cases hrow : row.id = id <;> simp [hrow, hfirst]

theorem changeCategory_twice {first second : CategoryRow τ → CategoryRow τ}
    (hfirst : ∀ row, (first row).id = row.id) :
    changeCategory (changeCategory db id first) id second =
      changeCategory db id fun row => second (first row) := by
  simp only [changeCategory, List.map_map]
  congr 2
  funext row
  by_cases hrow : row.id = id <;> simp [hrow, hfirst]

/-! ## Reading rows -/

theorem readJoined_eq_ok_iff {row : AdvertisementRow τ} {advertisement : Advertisement} :
    readJoined backend db row = some (.ok advertisement) ↔
      ∃ category n created updated, db.category? row.categoryId = some category ∧
        row.score = .whole n ∧ backend.readStamp "created_at" row.createdAt = .ok created ∧
        backend.readStamp "updated_at" row.updatedAt = .ok updated ∧
        advertisement = ⟨row.id, row.title, row.description, row.creatorId, row.priceCents,
          row.categoryId, category.name, n, row.isActive, created, updated⟩ := by
  have hscore (n : Int64) : row.score.read = .ok n ↔ row.score = .whole n := by
    cases row.score <;> simp [Score.read]
  simp only [readJoined, Option.map_eq_some_iff, Backend.readAdvertisement, bind_eq_ok, pure_eq_ok,
    hscore]
  constructor
  · rintro ⟨category, hcategory, n, hn, created, hcreated, updated, hupdated, rfl⟩
    exact ⟨category, n, created, updated, hcategory, hn, hcreated, hupdated, rfl⟩
  · rintro ⟨category, n, created, updated, hcategory, hn, hcreated, hupdated, rfl⟩
    exact ⟨category, hcategory, n, hn, created, hcreated, updated, hupdated, rfl⟩

theorem readCategory_eq_ok_iff {row : CategoryRow τ} {category : Category} :
    backend.readCategory row = .ok category ↔
      ∃ created updated, backend.readStamp "created_at" row.createdAt = .ok created ∧
        backend.readStamp "updated_at" row.updatedAt = .ok updated ∧
        category = ⟨row.id, row.name, row.description, created, updated⟩ := by
  simp only [Backend.readCategory, bind_eq_ok, pure_eq_ok]
  constructor
  · rintro ⟨created, hcreated, updated, hupdated, rfl⟩
    exact ⟨created, updated, hcreated, hupdated, rfl⟩
  · rintro ⟨created, updated, hcreated, hupdated, rfl⟩
    exact ⟨created, hcreated, updated, hupdated, rfl⟩

theorem lookUpCategory_eq_ok_iff {category : Category} :
    lookUpCategory id backend db = .ok category ↔
      ∃ row, db.category? id = some row ∧ backend.readCategory row = .ok category := by
  unfold lookUpCategory
  cases db.category? id <;> simp

theorem hasCategory_of_find {row : CategoryRow τ} (h : db.category? id = some row) :
    db.hasCategory id = true :=
  hasCategory_iff.mpr ⟨row, List.mem_of_find?_eq_some h, key_eq_of_find? h⟩

theorem lookUpCategory_id {category : Category} (h : lookUpCategory id backend db = .ok category) :
    category.id = id ∧ db.hasCategory id = true := by
  obtain ⟨row, hrow, hread⟩ := lookUpCategory_eq_ok_iff.mp h
  have hid : row.id = id := key_eq_of_find? hrow
  exact ⟨(readCategory_eq_ok hread).1.trans hid, hasCategory_of_find hrow⟩

end Store

namespace AdvertisementPatch

variable {patch : AdvertisementPatch} {backend : Backend τ} {session : Session τ}
  {db after : Database τ} {id : String}

/-- A category that fits is there. -/
theorem Fits.hasCategory {row : AdvertisementRow τ} (h : patch.Fits backend db row) :
    db.hasCategory (patch.categoryId.getD row.categoryId) = true := by
  cases hgiven : patch.categoryId with
  | none =>
      obtain ⟨existing, hread⟩ := h.readable
      obtain ⟨category, -, -, -, hcategory, -⟩ := readJoined_eq_ok_iff.mp hread
      exact hasCategory_of_find hcategory
  | some categoryId =>
      obtain ⟨category, hcategory⟩ := h.placed categoryId hgiven
      exact (lookUpCategory_id hcategory).2

/-- An update by its parts: a read, the checks, the write and a second read. -/
theorem updateAdvertisement_parts {answer : Advertisement} :
    (updateAdvertisement id patch session db).Yields answer after ↔
      ∃ existing, (getAdvertisement id session db).answer = .ok existing ∧
        checkAdvertisement (patch.title.getD existing.title)
          (patch.priceCents.getD existing.priceCents) = .ok () ∧
        (∀ categoryId, patch.categoryId = some categoryId →
          ∃ category, lookUpCategory categoryId session.backend db = .ok category) ∧
        (∃ found, Statement.updateAdvertisement id (patch.title.getD existing.title)
          (patch.description.apply existing.description)
          (patch.priceCents.getD existing.priceCents)
          (patch.categoryId.getD existing.categoryId) session.stamp session.triggers db =
            .ok (found, after)) ∧
        (getAdvertisement id session after).answer = .ok answer := by
  unfold updateAdvertisement
  cases hgiven : patch.categoryId with
  | none =>
      simp only [(getAdvertisement_reads _).yields_bind, Action.yields_ofExcept_bind,
        Action.yields_pure_bind, Action.yields_session_bind, Action.yields_execute_bind,
        (getAdvertisement_reads _).yields_iff]
      constructor
      · rintro ⟨existing, hread, _, hchecked, found, written, hwrite, hanswer, rfl⟩
        exact ⟨existing, hread, hchecked, nofun, ⟨found, hwrite⟩, hanswer⟩
      · rintro ⟨existing, hread, hchecked, -, ⟨found, hwrite⟩, hanswer⟩
        exact ⟨existing, hread, (), hchecked, found, after, hwrite, hanswer, rfl⟩
  | some categoryId =>
      simp only [(getAdvertisement_reads _).yields_bind, Action.yields_ofExcept_bind, getCategory,
        Action.yields_query_bind, Action.yields_pure_bind, Action.yields_session_bind,
        Action.yields_execute_bind, (getAdvertisement_reads _).yields_iff]
      constructor
      · rintro ⟨existing, hread, _, hchecked, category, hcategory, found, written, hwrite, hanswer,
          rfl⟩
        have hid : category.id = categoryId := (lookUpCategory_id hcategory).1
        have hplaced : ∀ wanted, some categoryId = some wanted →
            ∃ there, lookUpCategory wanted session.backend db = .ok there := by
          rintro _ ⟨⟩
          exact ⟨category, hcategory⟩
        rw [hid] at hwrite
        exact ⟨existing, hread, hchecked, hplaced, ⟨found, hwrite⟩, hanswer⟩
      · rintro ⟨existing, hread, hchecked, hplaced, ⟨found, hwrite⟩, hanswer⟩
        obtain ⟨category, hcategory⟩ := hplaced categoryId rfl
        have hid : category.id = categoryId := (lookUpCategory_id hcategory).1
        refine ⟨existing, hread, (), hchecked, category, hcategory, found, after, ?_, hanswer, rfl⟩
        rw [hid]
        exact hwrite

theorem update_yields_iff {answer : Advertisement}
    (hids : (db.advertisements.map AdvertisementRow.id).Nodup) :
    (updateAdvertisement id patch session db).Yields answer after ↔
      ∃ row, db.advertisement? id = some row ∧ patch.Fits session.backend db row ∧
        after = Statement.changeAdvertisement db id (patch.applied session.stamp) ∧
        (getAdvertisement id session after).answer = .ok answer := by
  rw [updateAdvertisement_parts]
  simp only [Statement.updateAdvertisement_eq_ok_iff]
  constructor
  · rintro ⟨existing, hread, hchecked, hplaced, ⟨found, hwrite⟩, hanswer⟩
    obtain ⟨row, hrow, hjoined⟩ := getAdvertisement_eq_ok_iff.mp hread
    obtain ⟨category, n, created, updated, -, -, -, -, rfl⟩ := readJoined_eq_ok_iff.mp hjoined
    rcases hwrite with ⟨-, -, -, -, hafter⟩ | ⟨habsent, -⟩
    · exact ⟨row, hrow, ⟨⟨_, hjoined⟩, hchecked, hplaced⟩,
        hafter.trans (changeAdvertisement_congr hids hrow rfl), hanswer⟩
    · rw [hasAdvertisement_of_find hrow] at habsent
      contradiction
  · rintro ⟨row, hrow, hfits, hafter, hanswer⟩
    have hcategory := hfits.hasCategory
    obtain ⟨⟨existing, hjoined⟩, hchecked, hplaced⟩ := hfits
    have hread := getAdvertisement_eq_ok_iff.mpr ⟨row, hrow, hjoined⟩
    obtain ⟨category, n, created, updated, -, -, -, -, rfl⟩ := readJoined_eq_ok_iff.mp hjoined
    have hthere : db.hasAdvertisement id = true := hasAdvertisement_of_find hrow
    obtain ⟨-, hprice⟩ := checkAdvertisement_eq_ok_iff.mp hchecked
    refine ⟨_, hread, hchecked, hplaced, ⟨true, .inl ⟨hthere, hprice, hcategory, rfl, ?_⟩⟩, hanswer⟩
    exact hafter.trans (changeAdvertisement_congr hids hrow rfl)

end AdvertisementPatch

/-! ## Patched categories -/

/-- The stored form of a name that is given. -/
def storedName (given : String) : String :=
  Text.lower (Text.trim given)

theorem normalizeCategoryName_eq_ok_iff {given name : String} :
    normalizeCategoryName given = .ok name ↔
      (storedName given).isEmpty = false ∧ name = storedName given := by
  unfold normalizeCategoryName storedName
  cases hempty : (Text.lower (Text.trim given)).isEmpty <;> simp [hempty, eq_comm]

namespace CategoryPatch

def rename (patch : CategoryPatch) (old : String) : String :=
  (patch.name.map storedName).getD old

/-- The row after a patch, written at a time. -/
def applied (patch : CategoryPatch) (stamp : τ) (row : CategoryRow τ) : CategoryRow τ :=
  { row with
    name := patch.rename row.name
    description := patch.description.apply row.description
    updatedAt := stamp }

/-- What an update of a category asks for: a name that is given is not blank, no other category has
it, and no trigger refuses the write. -/
structure Fits (patch : CategoryPatch) (triggers : Triggers) (db : Database τ)
    (row : CategoryRow τ) : Prop where
  named : ∀ given, patch.name = some given → (storedName given).isEmpty = false
  free : ∀ other ∈ db.categories, other.name = patch.rename row.name → other.id = row.id
  permitted : triggers.permit .updateCategory = .ok ()

variable {patch : CategoryPatch} {session : Session τ} {db after : Database τ} {id : String}
  {answer : Category}

theorem patchedName_eq_ok_iff {old name : String} :
    patchedName patch old = .ok name ↔
      (∀ given, patch.name = some given → (storedName given).isEmpty = false) ∧
        name = patch.rename old := by
  unfold patchedName rename
  cases patch.name with
  | none => exact pure_eq_ok.trans ⟨fun h => ⟨nofun, h⟩, And.right⟩
  | some given => simp [normalizeCategoryName_eq_ok_iff]

theorem normalized_eq_ok_iff {name : Option String} :
    patch.name.mapM normalizeCategoryName = .ok name ↔
      (∀ given, patch.name = some given → (storedName given).isEmpty = false) ∧
        name = patch.name.map storedName := by
  cases patch.name with
  | none => exact pure_eq_ok.trans ⟨fun h => ⟨nofun, h⟩, And.right⟩
  | some given =>
      rw [Option.mapM_some]
      constructor
      · intro h
        obtain ⟨stored, hstored, rfl⟩ := map_eq_ok.mp h
        obtain ⟨hnamed, rfl⟩ := normalizeCategoryName_eq_ok_iff.mp hstored
        refine ⟨?_, rfl⟩
        rintro _ ⟨⟩
        exact hnamed
      · rintro ⟨hnamed, rfl⟩
        exact map_eq_ok.mpr ⟨_, normalizeCategoryName_eq_ok_iff.mpr ⟨hnamed given rfl, rfl⟩, rfl⟩

/-- The write that both kinds of database make, for a row that is there. -/
theorem write_eq_ok_iff {row : CategoryRow τ} {name : String} {description : Option String}
    {stamp : τ} {triggers : Triggers} {found : Bool}
    (hids : (db.categories.map CategoryRow.id).Nodup) (hrow : db.category? id = some row)
    (hname : name = patch.rename row.name)
    (hdescription : description = patch.description.apply row.description) :
    Statement.updateCategory id name description stamp triggers db = .ok (found, after) ↔
      triggers.permit .updateCategory = .ok () ∧
        (∀ other ∈ db.categories, other.name = patch.rename row.name → other.id = row.id) ∧
        found = true ∧ after = changeCategory db id (patch.applied stamp) := by
  subst hname hdescription
  have hid : row.id = id := key_eq_of_find? hrow
  have hthere := hasCategory_of_find hrow
  have hsame : changeCategory db id (fun other => { other with
      name := patch.rename row.name
      description := patch.description.apply row.description
      updatedAt := stamp }) = changeCategory db id (patch.applied stamp) :=
    changeCategory_congr hids hrow rfl
  rw [Statement.updateCategory_eq_ok_iff, hsame]
  simp [hthere, hid]

theorem merge_yields_iff (hids : (db.categories.map CategoryRow.id).Nodup) :
    (mergeCategory id patch session db).Yields answer after ↔
      ∃ row existing, db.category? id = some row ∧
        session.backend.readCategory row = .ok existing ∧ patch.Fits session.triggers db row ∧
        after = changeCategory db id (patch.applied session.stamp) ∧
        answer = { existing with
          name := patch.rename existing.name
          description := patch.description.apply existing.description
          updatedAt := session.now.toMicros } := by
  unfold mergeCategory
  simp only [getCategory, Action.yields_query_bind, Action.yields_ofExcept_bind,
    Action.yields_session_bind, Action.yields_execute_bind, Action.yields_pure,
    patchedName_eq_ok_iff]
  constructor
  · rintro ⟨existing, hread, name, ⟨hnamed, rfl⟩, found, written, hwrite, rfl, rfl⟩
    obtain ⟨row, hrow, hread⟩ := lookUpCategory_eq_ok_iff.mp hread
    obtain ⟨created, updated, -, -, rfl⟩ := readCategory_eq_ok_iff.mp hread
    obtain ⟨hpermitted, hfree, -, hafter⟩ := (write_eq_ok_iff hids hrow rfl rfl).mp hwrite
    have hfits : patch.Fits session.triggers db row := ⟨hnamed, hfree, hpermitted⟩
    exact ⟨row, _, hrow, hread, hfits, hafter, rfl⟩
  · rintro ⟨row, existing, hrow, hread, hfits, hafter, rfl⟩
    have hfound : lookUpCategory id session.backend db = .ok existing :=
      lookUpCategory_eq_ok_iff.mpr ⟨row, hrow, hread⟩
    obtain ⟨created, updated, -, -, rfl⟩ := readCategory_eq_ok_iff.mp hread
    have hwrite := (write_eq_ok_iff hids hrow rfl rfl).mpr
      ⟨hfits.permitted, hfits.free, rfl, hafter⟩
    exact ⟨_, hfound, _, ⟨hfits.named, rfl⟩, true, after, hwrite, rfl, rfl⟩

theorem patch_yields_iff (hids : (db.categories.map CategoryRow.id).Nodup) :
    (patchCategory id patch session db).Yields answer after ↔
      ∃ row, db.category? id = some row ∧ patch.Fits session.triggers db row ∧
        after = changeCategory db id (patch.applied session.stamp) ∧
        session.backend.readCategory (patch.applied session.stamp row) = .ok answer := by
  unfold patchCategory
  simp only [Action.yields_ofExcept_bind, Action.yields_session_bind, Action.yields_execute_bind,
    normalized_eq_ok_iff]
  constructor
  · rintro ⟨name, ⟨hnamed, rfl⟩, found, written, hwrite, hanswer⟩
    rcases Statement.patchCategory_eq_ok_iff.mp hwrite with ⟨row, hrow, hchange, rfl⟩ | ⟨-, rfl, -⟩
    · obtain ⟨hread, rfl⟩ := Action.yields_ofExcept.mp hanswer
      obtain ⟨hpermitted, hfree, -, hafter⟩ := (write_eq_ok_iff hids hrow rfl rfl).mp hchange
      exact ⟨row, hrow, ⟨hnamed, hfree, hpermitted⟩, hafter, hread⟩
    · exact (Action.yields_fail.mp hanswer).elim
  · rintro ⟨row, hrow, hfits, hafter, hread⟩
    have hchange := (write_eq_ok_iff hids hrow rfl rfl).mpr
      ⟨hfits.permitted, hfits.free, rfl, hafter⟩
    have hwrite := Statement.patchCategory_eq_ok_iff.mpr (.inl ⟨row, hrow, hchange, rfl⟩)
    refine ⟨_, ⟨hfits.named, rfl⟩, _, after, hwrite, ?_⟩
    exact Action.yields_ofExcept.mpr ⟨hread, rfl⟩

end CategoryPatch
end Noticeboard
