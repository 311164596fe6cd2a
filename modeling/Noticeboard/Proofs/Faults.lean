import Noticeboard.Proofs.Integrity

/-!
# Where failures come from

A failure that is a refusal tells the caller what was wrong with the call.  Checks of what is given
fail with refusals.  A write on which no trigger is set faults at a key or at a reference only, and
where that can happen the fault is turned into a refusal.  Rows that the store wrote can be read, so
that a read fails only if there is no row.
-/

namespace Noticeboard

open Store

variable {τ α β : Type}

/-- The failures that a caller is answerable for. -/
def Failure.IsRefusal (failure : Failure) : Prop :=
  failure.kind = .invalidInput ∨ failure.kind = .notFound ∨ failure.kind = .unauthorized ∨
    failure.kind = .conflict

instance (failure : Failure) : Decidable failure.IsRefusal :=
  inferInstanceAs (Decidable (_ ∨ _))

/-! ## Checks of what is given -/

theorem normalizeCategoryName_refusal {given : String} {failure : Failure}
    (h : normalizeCategoryName given = .error failure) : failure.IsRefusal := by
  unfold normalizeCategoryName at h
  generalize Text.lower (Text.trim given) = normalized at h
  simp only [ite_eq_error, Except.error.injEq, reduceCtorEq, and_false, or_false] at h
  obtain ⟨-, rfl⟩ := h
  decide

theorem checkAdvertisement_refusal {title : String} {priceCents : Int64} {failure : Failure}
    (h : checkAdvertisement title priceCents = .error failure) : failure.IsRefusal := by
  simp only [checkAdvertisement, ite_eq_error, Except.error.injEq, reduceCtorEq, and_false,
    or_false] at h
  rcases h with ⟨-, rfl⟩ | ⟨-, -, rfl⟩
  · decide
  · decide

theorem checkComment_refusal {content : String} {failure : Failure}
    (h : checkComment content = .error failure) : failure.IsRefusal := by
  simp only [checkComment, ite_eq_error, Except.error.injEq, reduceCtorEq, and_false,
    or_false] at h
  obtain ⟨-, rfl⟩ := h
  decide

theorem checkPage_refusal {page : Int} {failure : Failure}
    (h : checkPage page = .error failure) : failure.IsRefusal := by
  simp only [checkPage, ite_eq_error, Except.error.injEq, reduceCtorEq, and_false,
    false_or] at h
  rcases h with ⟨-, rfl⟩ | ⟨-, -, rfl⟩
  · exact .inl rfl
  · exact .inl rfl

theorem SearchRequest.check_refusal {request : SearchRequest} {failure : Failure}
    (h : request.check = .error failure) : failure.IsRefusal := by
  simp only [SearchRequest.check, bind_eq_error, pure_ne_error, and_false, exists_false,
    or_false] at h
  rcases h with hquery | ⟨query, -, hpage⟩
  · unfold checkQuery at hquery
    split at hquery <;> simp at hquery
    subst hquery
    exact .inl rfl
  · unfold checkPageNo at hpage
    split at hpage
    · simp at hpage
    · simp at hpage
    · rw [ite_eq_error] at hpage
      rcases hpage with ⟨-, hpage⟩ | ⟨-, hpage⟩
      · exact checkPage_refusal hpage
      · obtain rfl := Except.error.inj hpage
        exact .inl rfl
    · split at hpage
      · exact checkPage_refusal hpage
      · obtain rfl := Except.error.inj hpage
        exact .inl rfl
    · obtain rfl := Except.error.inj hpage
      exact .inl rfl

/-! ## Faults of writes

Without triggers a write only faults at a key or a reference. -/

namespace Store

section Faults

variable {triggers : Triggers} {db : Database τ} {fault : DatabaseFault}

@[simp] theorem Triggers.permit_nil (write : RowWrite) : Triggers.permit [] write = .ok () :=
  rfl

@[simp] theorem permitDrop_nil (gone : String → Bool) :
    Statement.permitDrop [] db gone = .ok () := by
  simp [Statement.permitDrop]

inductive KeyFault : DatabaseFault → Prop where
  | unique (message : String) : KeyFault (.unique message)
  | foreignKey (message : String) : KeyFault (.foreignKey message)

theorem insertCategory_fault {row : CategoryRow τ} (hnone : triggers = [])
    (h : Statement.insertCategory row triggers db = .error fault) :
    ∃ message, fault = .unique message := by
  subst hnone
  simp [Statement.insertCategory, bind_eq_error, ite_eq_error, throw_eq_error, pure_ne_error,
    throw_ne_ok, -bind_pure_comp] at h
  rcases h with ⟨-, rfl⟩ | ⟨-, -, rfl⟩
  · exact ⟨_, rfl⟩
  · exact ⟨_, rfl⟩

theorem updateCategory_fault {id name : String} {description : Option String} {updatedAt : τ}
    (hnone : triggers = [])
    (h : Statement.updateCategory id name description updatedAt triggers db = .error fault) :
    ∃ message, fault = .unique message := by
  subst hnone
  simp [Statement.updateCategory, bind_eq_error, ite_eq_error, throw_eq_error, pure_ne_error,
    throw_ne_ok, -bind_pure_comp] at h
  obtain ⟨-, -, rfl⟩ := h
  exact ⟨_, rfl⟩

theorem deleteCategory_ne_error {id : String} (hnone : triggers = []) :
    Statement.deleteCategory id triggers db ≠ .error fault := by
  subst hnone
  simp [Statement.deleteCategory, bind_eq_error, ite_eq_error, pure_ne_error, -bind_pure_comp]

theorem insertAdvertisement_fault {row : AdvertisementRow τ} (hnone : triggers = [])
    (h : Statement.insertAdvertisement row triggers db = .error fault)
    (hprice : 0 ≤ row.priceCents) : KeyFault fault := by
  subst hnone
  have hnot : ¬ row.priceCents < 0 := Int64.not_lt.mpr hprice
  simp [Statement.insertAdvertisement, hnot, bind_eq_error, ite_eq_error, throw_eq_error,
    pure_ne_error, throw_ne_ok, -bind_pure_comp] at h
  rcases h with ⟨-, rfl⟩ | ⟨-, -, rfl⟩
  · exact .unique _
  · exact .foreignKey _

theorem updateAdvertisement_ne_error {id title : String} {description : Option String}
    {priceCents : Int64} {categoryId : String} {updatedAt : τ} (hnone : triggers = [])
    (hprice : 0 ≤ priceCents) (hcategory : db.hasCategory categoryId = true) :
    Statement.updateAdvertisement id title description priceCents categoryId updatedAt triggers db ≠
      .error fault := by
  subst hnone
  have hnot : ¬ priceCents < 0 := Int64.not_lt.mpr hprice
  simp [Statement.updateAdvertisement, hnot, hcategory, ite_eq_error, pure_ne_error,
    -bind_pure_comp]

theorem setActive_ne_error {id : String} {active : Bool} {updatedAt : τ} (hnone : triggers = []) :
    Statement.setActive id active updatedAt triggers db ≠ .error fault := by
  subst hnone
  simp [Statement.setActive, ite_eq_error]

theorem deleteAdvertisement_ne_error {id : String} (hnone : triggers = []) :
    Statement.deleteAdvertisement id triggers db ≠ .error fault := by
  subst hnone
  simp [Statement.deleteAdvertisement, bind_eq_error, ite_eq_error, pure_ne_error,
    -bind_pure_comp]

theorem insertModerator_fault {row : ModeratorRow} (hnone : triggers = [])
    (h : Statement.insertModerator row triggers db = .error fault) : KeyFault fault := by
  subst hnone
  simp [Statement.insertModerator, bind_eq_error, ite_eq_error, throw_eq_error, pure_ne_error,
    throw_ne_ok, -bind_pure_comp] at h
  obtain ⟨-, -, rfl⟩ := h
  exact .foreignKey _

theorem insertComment_fault {row : CommentRow τ} (hnone : triggers = [])
    (h : Statement.insertComment row triggers db = .error fault) : KeyFault fault := by
  subst hnone
  simp [Statement.insertComment, bind_eq_error, ite_eq_error, throw_eq_error, pure_ne_error,
    throw_ne_ok, -bind_pure_comp] at h
  rcases h with ⟨-, rfl⟩ | ⟨-, -, rfl⟩
  · exact .unique _
  · exact .foreignKey _

theorem deleteComment_ne_error {id : String} (hnone : triggers = []) :
    Statement.deleteComment id triggers db ≠ .error fault := by
  subst hnone
  unfold Statement.deleteComment
  split
  · simp [bind_eq_error, pure_ne_error, -bind_pure_comp]
  · exact pure_ne_error

theorem insertReaction_fault {kind : ReactionKind} {row : ReactionRow τ} (hnone : triggers = [])
    (h : Statement.insertReaction kind row triggers db = .error fault) : KeyFault fault := by
  subst hnone
  have hpermit : Statement.permitReaction [] kind = .ok () := by cases kind <;> rfl
  simp [Statement.insertReaction, hpermit, bind_eq_error, ite_eq_error, throw_eq_error,
    pure_ne_error, throw_ne_ok, -bind_pure_comp] at h
  rcases h with ⟨-, rfl⟩ | ⟨-, ⟨-, rfl⟩ | ⟨-, -, rfl⟩⟩
  · exact .unique _
  · exact .unique _
  · exact .foreignKey _

theorem addScore_ne_error {add : Score → Except DatabaseFault Score} {id : String}
    (hnone : triggers = []) (hadd : ∀ score, ∃ sum, add score = .ok sum) :
    Statement.addScore add id triggers db ≠ .error fault := by
  subst hnone
  unfold Statement.addScore
  split
  next row _ =>
    obtain ⟨sum, hsum⟩ := hadd row.score
    simp [hsum, bind_eq_error, pure_ne_error, -bind_pure_comp]
  next => exact pure_ne_error

end Faults

/-! ## What a fault becomes -/

theorem onRepeat_refusal {conflict : Failure} {message : String} (h : conflict.IsRefusal) :
    (onRepeat conflict (.unique message)).IsRefusal :=
  h

theorem onMissing_refusal {id : String} {fault : DatabaseFault} (h : KeyFault fault) :
    (onMissing id fault).IsRefusal := by
  cases h with
  | unique message => exact .inr (.inr (.inr rfl))
  | foreignKey message => exact .inr (.inl rfl)

theorem reactionFailure_refusal {kind : ReactionKind} {id : String} {fault : DatabaseFault}
    (h : KeyFault fault) : (reactionFailure kind id fault).IsRefusal := by
  cases h with
  | unique message => cases kind <;> exact .inr (.inr (.inr rfl))
  | foreignKey message => exact .inr (.inl rfl)

/-! ## Reads -/

/-- Tables of which every row can be read. -/
structure Database.Legible (backend : Backend τ) (db : Database τ) : Prop where
  orderly : db.Orderly backend
  whole : db.ScoresWhole

theorem mapM_eq_error {ε : Type} {f : α → Except ε β} {l : List α} {e : ε}
    (h : l.mapM f = .error e) : ∃ a ∈ l, f a = .error e := by
  induction l with
  | nil =>
      rw [List.mapM_nil] at h
      exact absurd h pure_ne_error
  | cons a rest ih =>
      rw [List.mapM_cons, bind_eq_error] at h
      rcases h with hfirst | ⟨b, -, hrest⟩
      · exact ⟨a, List.mem_cons_self, hfirst⟩
      · rcases bind_eq_error.mp hrest with htail | ⟨bs, -, hdone⟩
        · obtain ⟨c, hc, hfailed⟩ := ih htail
          exact ⟨c, List.mem_cons_of_mem a hc, hfailed⟩
        · exact absurd hdone pure_ne_error

section Reads

variable {session : Session τ} {db : Database τ} {failure : Failure}

theorem Database.Legible.revision {after : Database τ} (h : db.Legible session.backend)
    (htimely : session.backend.Timely session.now) (hrevision : Revision session db after) :
    after.Legible session.backend where
  orderly := h.orderly.changed htimely hrevision.changed
  whole := h.whole.revision hrevision

theorem getCategory_refusal {id : String} (h : db.Legible session.backend)
    (hfailed : (getCategory id session db).answer = .error failure) : failure.IsRefusal := by
  simp only [getCategory, Action.query, lookUpCategory] at hfailed
  split at hfailed
  next row hrow =>
    obtain ⟨category, hread⟩ := readCategory_ok h.orderly.stamped (List.mem_of_find?_eq_some hrow)
    rw [hread] at hfailed
    contradiction
  next =>
    obtain rfl := Except.error.inj hfailed
    exact .inr (.inl rfl)

theorem findCategoryByName_refusal {name : String} (h : db.Legible session.backend)
    (hfailed : (findCategoryByName name session db).answer = .error failure) :
    failure.IsRefusal := by
  simp only [findCategoryByName, Action.query] at hfailed
  split at hfailed
  next row hrow =>
    obtain ⟨category, hread⟩ := readCategory_ok h.orderly.stamped (List.mem_of_find?_eq_some hrow)
    rw [hread] at hfailed
    contradiction
  next =>
    obtain rfl := Except.error.inj hfailed
    exact .inr (.inl rfl)

theorem listCategories_ne_error (h : db.Legible session.backend) :
    (listCategories session db).answer ≠ .error failure := by
  intro hfailed
  obtain ⟨row, hrow, hunread⟩ := mapM_eq_error hfailed
  obtain ⟨category, hread⟩ := readCategory_ok h.orderly.stamped (List.mem_mergeSort.mp hrow)
  rw [hread] at hunread
  contradiction

theorem getAdvertisement_refusal {id : String} (h : db.Legible session.backend)
    (hfailed : (getAdvertisement id session db).answer = .error failure) : failure.IsRefusal := by
  cases hrow : db.advertisement? id with
  | some row =>
      obtain ⟨advertisement, hread⟩ :=
        getAdvertisement_ok h.orderly hrow (h.whole.not_offScale id)
      rw [hread] at hfailed
      contradiction
  | none =>
      simp only [getAdvertisement, Action.query, hrow, Option.bind_none] at hfailed
      obtain rfl := Except.error.inj hfailed
      exact .inr (.inl rfl)

theorem activeAdvertisements_ne_error (h : db.Legible session.backend) :
    (activeAdvertisements session db).answer ≠ .error failure := by
  intro hfailed
  obtain ⟨joined, hjoined, rfl⟩ := mapM_eq_error hfailed
  obtain ⟨row, hrow, hread⟩ := List.mem_filterMap.mp hjoined
  have hmem : row ∈ db.advertisements := (List.mem_filter.mp (List.mem_mergeSort.mp hrow)).1
  obtain ⟨category, -, hunread⟩ := Option.map_eq_some_iff.mp hread
  obtain ⟨n, hscore⟩ := h.whole row hmem
  obtain ⟨hcreated, hupdated⟩ := h.orderly.stamped.advertisements row hmem
  obtain ⟨advertisement, hok⟩ := readAdvertisement_ok category.name hscore hcreated hupdated
  rw [hok] at hunread
  contradiction

theorem getComment_refusal {id : String} (h : db.Legible session.backend)
    (hfailed : (getComment id session db).answer = .error failure) : failure.IsRefusal := by
  cases hrow : db.comment? id with
  | some row =>
      obtain ⟨comment, hread⟩ := getComment_ok h.orderly hrow
      rw [hread] at hfailed
      contradiction
  | none =>
      simp only [getComment, Action.query, hrow] at hfailed
      obtain rfl := Except.error.inj hfailed
      exact .inr (.inl rfl)

/-- A record that was read names a category that is there. -/
theorem hasCategory_of_getAdvertisement {id : String} {advertisement : Advertisement}
    (hread : (getAdvertisement id session db).answer = .ok advertisement) :
    db.hasCategory advertisement.categoryId = true := by
  simp only [getAdvertisement, Action.query] at hread
  split at hread
  next read hjoined =>
    obtain ⟨row, -, hcategory⟩ := Option.bind_eq_some_iff.mp hjoined
    obtain ⟨category, hfound, rfl⟩ := Option.map_eq_some_iff.mp hcategory
    simp only [Backend.readAdvertisement, bind_eq_ok, pure_eq_ok] at hread
    obtain ⟨_, -, _, -, _, -, rfl⟩ := hread
    apply hasCategory_iff.mpr
    exact ⟨category, List.mem_of_find?_eq_some hfound, key_eq_of_find? hfound⟩
  next => contradiction

end Reads

end Store
end Noticeboard
