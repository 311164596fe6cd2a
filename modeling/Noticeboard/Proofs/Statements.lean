import Mathlib.Logic.Unique
import Noticeboard.Proofs.Outcome

/-!
# When a write succeeds

For each statement, when it succeeds and which tables it leaves.  A statement that changes one row
answers whether the row was there, so success without a change is told apart from a change.
-/

namespace Noticeboard.Store

theorem bind_eq_ok {ε α β : Type} {first : Except ε α} {next : α → Except ε β} {b : β} :
    first >>= next = .ok b ↔ ∃ a, first = .ok a ∧ next a = .ok b := by
  cases first <;> simp [bind, Except.bind]

theorem pure_eq_ok {ε α : Type} {a b : α} : (pure a : Except ε α) = .ok b ↔ b = a := by
  simp [pure, Except.pure, eq_comm]

theorem map_eq_ok {ε α β : Type} {f : α → β} {result : Except ε α} {b : β} :
    f <$> result = .ok b ↔ ∃ a, result = .ok a ∧ b = f a := by
  cases result <;> simp [Functor.map, Except.map, eq_comm]

theorem throw_ne_ok {ε α : Type} {e : ε} {a : α} : (throw e : Except ε α) ≠ .ok a := by
  simp [throw, throwThe, MonadExceptOf.throw]

theorem ite_eq_ok {ε α : Type} {c : Prop} [Decidable c] {first second : Except ε α} {a : α} :
    (if c then first else second) = .ok a ↔ c ∧ first = .ok a ∨ ¬c ∧ second = .ok a := by
  by_cases hc : c <;> simp [hc]

theorem bind_eq_error {ε α β : Type} {first : Except ε α} {next : α → Except ε β} {e : ε} :
    first >>= next = .error e ↔ first = .error e ∨ ∃ a, first = .ok a ∧ next a = .error e := by
  cases first <;> simp [bind, Except.bind]

theorem pure_ne_error {ε α : Type} {a : α} {e : ε} : (pure a : Except ε α) ≠ .error e := by
  simp [pure, Except.pure]

theorem throw_eq_error {ε α : Type} {e e' : ε} : (throw e : Except ε α) = .error e' ↔ e' = e := by
  simp [throw, throwThe, MonadExceptOf.throw, eq_comm]

theorem ite_eq_error {ε α : Type} {c : Prop} [Decidable c] {first second : Except ε α} {e : ε} :
    (if c then first else second) = .error e ↔
      c ∧ first = .error e ∨ ¬c ∧ second = .error e := by
  by_cases hc : c <;> simp [hc]

theorem ok_of_toOption {ε α : Type} {result : Except ε α} {a : α}
    (h : result.toOption = some a) : result = .ok a := by
  cases result with
  | error e => contradiction
  | ok b => exact congrArg Except.ok (Option.some.inj h)

/-- What is found under a key has it. -/
theorem key_eq_of_find? {α : Type} {key : α → String} {rows : List α} {row : α} {wanted : String}
    (h : (rows.find? fun other => key other == wanted) = some row) : key row = wanted := by
  simpa using List.find?_some h

variable {τ : Type}

/-- The result of a write with its tables changed. -/
def mapTables {σ α : Type} (f : Database σ → Database τ)
    (result : Except DatabaseFault (α × Database σ)) : Except DatabaseFault (α × Database τ) :=
  result.map fun (a, after) => (a, f after)

section

variable {σ α β : Type} (f : Database σ → Database τ)

@[simp] theorem mapTables_pure (a : α) (db : Database σ) :
    mapTables f (pure (a, db)) = pure (a, f db) :=
  rfl

@[simp] theorem mapTables_bind (first : Except DatabaseFault β)
    (next : β → Except DatabaseFault (α × Database σ)) :
    mapTables f (first >>= next) = first >>= fun b => mapTables f (next b) := by
  cases first <;> rfl

@[simp] theorem bind_mapTables (first : Except DatabaseFault (α × Database σ))
    (next : α × Database τ → Except DatabaseFault β) :
    mapTables f first >>= next = first >>= fun (a, after) => next (a, f after) := by
  cases first <;> rfl

@[simp] theorem mapTables_ite (c : Prop) [Decidable c]
    (first second : Except DatabaseFault (α × Database σ)) :
    mapTables f (if c then first else second) =
      if c then mapTables f first else mapTables f second := by
  split
  · rfl
  · rfl

end

/-- The time of a session as the database stores it. -/
def Session.stamp (session : Session τ) : τ :=
  session.backend.stamp session.now

def changeCategory (db : Database τ) (id : String) (change : CategoryRow τ → CategoryRow τ) :
    Database τ :=
  { db with categories := db.categories.map fun row => if row.id = id then change row else row }

def setScore (db : Database τ) (id : String) (score : Score) : Database τ :=
  Statement.changeAdvertisement db id fun row => { row with score }

namespace Statement

variable {triggers : Triggers} {db after : Database τ}

theorem insertCategory_eq_ok_iff {row : CategoryRow τ} {u : Unit} :
    insertCategory row triggers db = .ok (u, after) ↔
      triggers.permit .insertCategory = .ok () ∧ db.hasCategory row.id = false ∧
        (∀ other ∈ db.categories, other.name ≠ row.name) ∧
        after = { db with categories := db.categories ++ [row] } := by
  unfold insertCategory
  simp [bind_eq_ok, ite_eq_ok, pure_eq_ok, throw_ne_ok, Unique.exists_iff, -bind_pure_comp]

theorem updateCategory_eq_ok_iff {id name : String} {description : Option String} {updatedAt : τ}
    {found : Bool} :
    updateCategory id name description updatedAt triggers db = .ok (found, after) ↔
      db.hasCategory id = true ∧ triggers.permit .updateCategory = .ok () ∧
          (∀ other ∈ db.categories, other.name = name → other.id = id) ∧ found = true ∧
          after = changeCategory db id (fun row => { row with name, description, updatedAt }) ∨
        db.hasCategory id = false ∧ found = false ∧ after = db := by
  unfold updateCategory changeCategory
  simp [bind_eq_ok, ite_eq_ok, pure_eq_ok, throw_ne_ok, Unique.exists_iff, -bind_pure_comp]

theorem patchCategory_eq_ok_iff {id : String} {name : Option String} {description : Edit String}
    {updatedAt : τ} {found : Option (CategoryRow τ)} :
    patchCategory id name description updatedAt triggers db = .ok (found, after) ↔
      (∃ row, db.category? id = some row ∧
          updateCategory id (name.getD row.name) (description.apply row.description) updatedAt
            triggers db = .ok (true, after) ∧
          found = some { row with
            name := name.getD row.name
            description := description.apply row.description
            updatedAt }) ∨
        db.category? id = none ∧ found = none ∧ after = db := by
  unfold patchCategory
  cases hrow : db.category? id with
  | none => simp [pure_eq_ok]
  | some row =>
      have hpresent : db.hasCategory id = true := by
        simpa [Database.hasCategory, Database.category?] using
          ⟨row, List.mem_of_find?_eq_some hrow, key_eq_of_find? hrow⟩
      constructor
      · intro h
        obtain ⟨⟨done, changed⟩, hwrite, hanswer⟩ := bind_eq_ok.mp h
        obtain ⟨rfl, rfl⟩ := Prod.mk.inj (pure_eq_ok.mp hanswer)
        rcases updateCategory_eq_ok_iff.mp hwrite with ⟨-, -, -, rfl, -⟩ | ⟨habsent, -⟩
        · exact .inl ⟨row, rfl, hwrite, rfl⟩
        · rw [hpresent] at habsent
          contradiction
      · rintro (⟨same, hsame, hwrite, rfl⟩ | ⟨hnone, -⟩)
        · obtain rfl := Option.some.inj hsame
          exact bind_eq_ok.mpr ⟨_, hwrite, rfl⟩
        · contradiction

theorem deleteCategory_eq_ok_iff {id : String} {found : Bool} :
    deleteCategory id triggers db = .ok (found, after) ↔
      db.hasCategory id = true ∧ triggers.permit .deleteCategory = .ok () ∧
          permitDrop triggers db (db.isIn id) = .ok () ∧ found = true ∧
          after = db.dropCategory id ∨
        db.hasCategory id = false ∧ found = false ∧ after = db := by
  unfold deleteCategory
  simp [bind_eq_ok, ite_eq_ok, pure_eq_ok, Unique.exists_iff, -bind_pure_comp]

theorem insertAdvertisement_eq_ok_iff {row : AdvertisementRow τ} {u : Unit} :
    insertAdvertisement row triggers db = .ok (u, after) ↔
      triggers.permit .insertAdvertisement = .ok () ∧ triggers.contains .dropCategory = false ∧
        0 ≤ row.priceCents ∧ db.hasAdvertisement row.id = false ∧
        db.hasCategory row.categoryId = true ∧
        after = { db with advertisements := db.advertisements ++ [row] } := by
  unfold insertAdvertisement
  simp [bind_eq_ok, ite_eq_ok, pure_eq_ok, throw_ne_ok, Unique.exists_iff, -bind_pure_comp]

theorem updateAdvertisement_eq_ok_iff {id title : String} {description : Option String}
    {priceCents : Int64} {categoryId : String} {updatedAt : τ} {found : Bool} :
    updateAdvertisement id title description priceCents categoryId updatedAt triggers db =
        .ok (found, after) ↔
      db.hasAdvertisement id = true ∧ 0 ≤ priceCents ∧ db.hasCategory categoryId = true ∧
          found = true ∧
          after = changeAdvertisement db id
            (fun row => { row with title, description, priceCents, categoryId, updatedAt }) ∨
        db.hasAdvertisement id = false ∧ found = false ∧ after = db := by
  unfold updateAdvertisement
  simp [bind_eq_ok, ite_eq_ok, pure_eq_ok, throw_ne_ok, Unique.exists_iff, -bind_pure_comp]

theorem setActive_eq_ok_iff {id : String} {active : Bool} {updatedAt : τ} {found : Bool} :
    setActive id active updatedAt triggers db = .ok (found, after) ↔
      db.hasAdvertisement id = true ∧ found = true ∧
          after = changeAdvertisement db id
            (fun row => { row with isActive := active, updatedAt }) ∨
        db.hasAdvertisement id = false ∧ found = false ∧ after = db := by
  unfold setActive
  cases db.hasAdvertisement id <;> simp [eq_comm]

theorem deleteAdvertisement_eq_ok_iff {id : String} {found : Bool} :
    deleteAdvertisement id triggers db = .ok (found, after) ↔
      db.hasAdvertisement id = true ∧ permitDrop triggers db (· == id) = .ok () ∧ found = true ∧
          after = db.dropAdvertisements (· == id) ∨
        db.hasAdvertisement id = false ∧ found = false ∧ after = db := by
  unfold deleteAdvertisement
  simp [bind_eq_ok, ite_eq_ok, pure_eq_ok, Unique.exists_iff, -bind_pure_comp]

theorem insertModerator_eq_ok_iff {row : ModeratorRow} {u : Unit} :
    insertModerator row triggers db = .ok (u, after) ↔
      triggers.permit .insertModerator = .ok () ∧
        (row ∈ db.moderators ∧ after = db ∨
          row ∉ db.moderators ∧ db.hasAdvertisement row.advertisementId = true ∧
            after = { db with moderators := db.moderators ++ [row] }) := by
  unfold insertModerator
  simp [bind_eq_ok, ite_eq_ok, pure_eq_ok, throw_ne_ok, Unique.exists_iff, -bind_pure_comp]

theorem insertComment_eq_ok_iff {row : CommentRow τ} {u : Unit} :
    insertComment row triggers db = .ok (u, after) ↔
      triggers.permit .insertComment = .ok () ∧ (∀ other ∈ db.comments, other.id ≠ row.id) ∧
        db.hasAdvertisement row.advertisementId = true ∧
        after = { db with comments := db.comments ++ [row] } := by
  unfold insertComment
  simp [bind_eq_ok, ite_eq_ok, pure_eq_ok, throw_ne_ok, Unique.exists_iff, -bind_pure_comp]

theorem deleteComment_eq_ok_iff {id : String} {at? : Option String} :
    deleteComment id triggers db = .ok (at?, after) ↔
      (∃ row, db.comment? id = some row ∧ triggers.permit .deleteComment = .ok () ∧
          at? = some row.advertisementId ∧
          after = { db with comments := db.comments.filter fun row => row.id != id }) ∨
        db.comment? id = none ∧ at? = none ∧ after = db := by
  unfold deleteComment
  cases db.comment? id with
  | none => simp [pure_eq_ok]
  | some row => simp [bind_eq_ok, pure_eq_ok, Unique.exists_iff, -bind_pure_comp]

/-- A like whose advertisement disappears leaves neither of them. -/
theorem insertReaction_eq_ok_iff {kind : ReactionKind} {row : ReactionRow τ} {u : Unit} :
    insertReaction kind row triggers db = .ok (u, after) ↔
      permitReaction triggers kind = .ok () ∧ (∀ other ∈ db.reactions kind, other.id ≠ row.id) ∧
        (∀ other ∈ db.reactions kind,
          other.userId = row.userId → other.advertisementId ≠ row.advertisementId) ∧
        db.hasAdvertisement row.advertisementId = true ∧
        ((kind = .like ∧ .dropAdvertisement ∈ triggers) ∧
            (∃ found, deleteAdvertisement row.advertisementId triggers (db.addReaction kind row) =
              .ok (found, after)) ∨
          ¬(kind = .like ∧ .dropAdvertisement ∈ triggers) ∧ after = db.addReaction kind row) := by
  unfold insertReaction
  simp [bind_eq_ok, ite_eq_ok, pure_eq_ok, throw_ne_ok, Unique.exists_iff, -bind_pure_comp]

theorem addScore_eq_ok_iff {add : Score → Except DatabaseFault Score} {id : String}
    {found : Bool} :
    addScore add id triggers db = .ok (found, after) ↔
      (∃ row score, db.advertisement? id = some row ∧ triggers.permit .addScore = .ok () ∧
          add row.score = .ok score ∧ found = true ∧ after = setScore db id score) ∨
        db.advertisement? id = none ∧ found = false ∧ after = db := by
  unfold addScore setScore
  cases db.advertisement? id with
  | none => simp [pure_eq_ok]
  | some row => simp [bind_eq_ok, pure_eq_ok, Unique.exists_iff, -bind_pure_comp]

end Statement
end Noticeboard.Store
