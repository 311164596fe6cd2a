import Noticeboard.Proofs.ComposedPatches
import Noticeboard.Proofs.SingleReads

/-!
# Names as keys

In a database file of the program's own the name of a category is a key.  A given name leads to the
key by trimming and lower-casing, whether it is looked for, created or put in the place of another,
so that a name can be taken exactly if it is not found.
-/

namespace Noticeboard

open Store

variable {τ α : Type}

/-! ## Keys of names -/

theorem Text.lower_eq_empty_iff {text : String} : Text.lower text = "" ↔ text = "" := by
  rw [Text.lower, String.ofList_eq_empty_iff, ← String.toList_eq_nil_iff]
  cases text.toList with
  | nil => simp [Text.lowerAfter]
  | cons c rest => simp [Text.lowerAfter_cons, Text.lowerHere_ne_nil]

theorem storedName_isEmpty (given : String) :
    (storedName given).isEmpty = Text.isBlankText given := by
  rw [Bool.eq_iff_iff, ← trim_isEmpty_iff, String.isEmpty_iff, String.isEmpty_iff, storedName,
    Text.lower_eq_empty_iff]

namespace Store

variable {session : Session τ} {db after : Database τ}

/-! ## Conflicts -/

/-- The action meets a conflict exactly in this case, in which it writes nothing, and succeeds in
any other. -/
structure Outcome.ConflictsIf (outcome : Outcome τ α) (db : Database τ) (taken : Prop) : Prop where
  conflict : (∃ failure, outcome.answer = .error failure ∧ failure.kind = .conflict) ↔ taken
  success : (∃ a, outcome.answer = .ok a) ↔ ¬ taken
  unchanged : taken → outcome.database = db

theorem Outcome.ConflictsIf.of_cases {outcome : Outcome τ α} {taken : Prop}
    (htaken : taken → outcome.Meets (fun _ _ => False)
      fun failure after => failure.kind = .conflict ∧ after = db)
    (hfree : ¬ taken → ∃ a, outcome.answer = .ok a) : outcome.ConflictsIf db taken := by
  have hconflict (h : taken) : ∃ failure, outcome.answer = .error failure ∧
      failure.kind = .conflict ∧ outcome.database = db := by
    cases hanswer : outcome.answer with
    | ok a => exact ((htaken h).of_ok hanswer).elim
    | error failure => exact ⟨failure, rfl, (htaken h).of_error hanswer⟩
  by_cases h : taken
  · obtain ⟨failure, hanswer, hkind, hsame⟩ := hconflict h
    exact ⟨iff_of_true ⟨failure, hanswer, hkind⟩ h, by simp [hanswer, h], fun _ => hsame⟩
  · obtain ⟨a, hanswer⟩ := hfree h
    exact ⟨by simp [hanswer, h], iff_of_true ⟨a, hanswer⟩ h, fun htaken => absurd htaken h⟩

theorem Statement.insertCategory_taken {row : CategoryRow τ} {triggers : Triggers}
    (hpermitted : triggers.permit .insertCategory = .ok ())
    (hfresh : db.hasCategory row.id = false)
    (htaken : ∃ other ∈ db.categories, other.name = row.name) :
    Statement.insertCategory row triggers db = .error (repeatedKey "categories.name") := by
  have hany : (db.categories.any fun other => other.name == row.name) = true := by
    simpa using htaken
  simp only [Statement.insertCategory, hpermitted, hfresh, hany, if_true]
  rfl

theorem Statement.updateCategory_taken {id name : String} {description : Option String} {stamp : τ}
    {triggers : Triggers} (hpermitted : triggers.permit .updateCategory = .ok ())
    (hthere : db.hasCategory id = true)
    (htaken : ∃ other ∈ db.categories, other.id ≠ id ∧ other.name = name) :
    Statement.updateCategory id name description stamp triggers db =
      .error (repeatedKey "categories.name") := by
  have hany : (db.categories.any fun other => other.name == name && other.id != id) = true := by
    simpa [and_comm] using htaken
  simp only [Statement.updateCategory, hpermitted, hthere, hany, if_true]
  rfl

/-! ## New categories -/

theorem insertCategory_yields_iff {draft : CategoryDraft} {category : Category} :
    (insertCategory draft session db).Yields category after ↔
      Text.isBlankText draft.name = false ∧
        session.triggers.permit .insertCategory = .ok () ∧
        db.hasCategory session.ids.category = false ∧
        (∀ other ∈ db.categories, other.name ≠ storedName draft.name) ∧
        after = { db with categories := db.categories ++ [⟨session.ids.category,
          storedName draft.name, draft.description, session.stamp, session.stamp⟩] } ∧
        category = ⟨session.ids.category, storedName draft.name, draft.description,
          session.now.toMicros, session.now.toMicros⟩ := by
  unfold insertCategory
  simp only [Action.yields_ofExcept_bind, Action.yields_session_bind, Action.yields_execute_bind,
    Action.yields_pure, normalizeCategoryName_eq_ok_iff, storedName_isEmpty,
    Statement.insertCategory_eq_ok_iff]
  constructor
  · rintro ⟨name, ⟨hblank, rfl⟩, _, written, hwrite, rfl, rfl⟩
    obtain ⟨hpermitted, hfresh, hfree, hafter⟩ := hwrite
    exact ⟨hblank, hpermitted, hfresh, hfree, hafter, rfl⟩
  · rintro ⟨hblank, hpermitted, hfresh, hfree, hafter, rfl⟩
    refine ⟨_, ⟨hblank, rfl⟩, (), after, ?_, rfl, rfl⟩
    exact ⟨hpermitted, hfresh, hfree, hafter⟩

/-- A name that is not blank can be given to a new category exactly if no other has it. -/
theorem createCategory_conflictsIf {draft : CategoryDraft}
    (hblank : Text.isBlankText draft.name = false)
    (hpermitted : session.triggers.permit .insertCategory = .ok ())
    (hfresh : db.hasCategory session.ids.category = false) :
    (createCategory draft session db).ConflictsIf db
      (∃ row ∈ db.categories, row.name = storedName draft.name) := by
  refine .of_cases (fun htaken => ?_) fun hfree => ?_
  · have hname : normalizeCategoryName draft.name = .ok (storedName draft.name) :=
      normalizeCategoryName_eq_ok_iff.mpr ⟨(storedName_isEmpty _).trans hblank, rfl⟩
    have hwrite : Statement.insertCategory ⟨session.ids.category, storedName draft.name,
        draft.description, session.stamp, session.stamp⟩ session.triggers db =
          .error (repeatedKey "categories.name") := by
      apply Statement.insertCategory_taken hpermitted
      · exact hfresh
      · exact htaken
    unfold createCategory insertCategory
    simp only [hname, Action.meets_bind, Action.meets_ofExcept, Action.meets_session,
      Action.meets_execute, Except.ok.injEq, reduceCtorEq, false_implies, implies_true, and_true,
      forall_eq']
    rw [Session.stamp] at hwrite
    simp [hwrite, onRepeat, repeatedKey, Failure.kind]
  · have hfree' : ∀ other ∈ db.categories, other.name ≠ storedName draft.name :=
      fun other hother hname => hfree ⟨other, hother, hname⟩
    obtain ⟨hanswer, -⟩ :=
      insertCategory_yields_iff.mpr ⟨hblank, hpermitted, hfresh, hfree', rfl, rfl⟩
    exact ⟨_, hanswer⟩

/-! ## Renamed categories -/

/-- A category that can be read can be given a name exactly if no other has it. -/
theorem mergeCategory_conflictsIf {id given : String} {patch : CategoryPatch} {existing : Category}
    (hids : (db.categories.map CategoryRow.id).Nodup)
    (hread : lookUpCategory id session.backend db = .ok existing)
    (hgiven : patch.name = some given) (hblank : Text.isBlankText given = false)
    (hpermitted : session.triggers.permit .updateCategory = .ok ()) :
    (mergeCategory id patch session db).ConflictsIf db
      (∃ row ∈ db.categories, row.id ≠ id ∧ row.name = storedName given) := by
  have hnamed : (storedName given).isEmpty = false := (storedName_isEmpty given).trans hblank
  obtain ⟨row, hrow, hrowRead⟩ := lookUpCategory_eq_ok_iff.mp hread
  have hid : row.id = id := key_eq_of_find? hrow
  refine .of_cases (fun htaken => ?_) fun hfree => ?_
  · have hname : patchedName patch existing.name = .ok (storedName given) := by
      rw [patchedName, hgiven]
      exact normalizeCategoryName_eq_ok_iff.mpr ⟨hnamed, rfl⟩
    have hwrite : Statement.updateCategory id (storedName given)
        (patch.description.apply existing.description) session.stamp session.triggers db =
          .error (repeatedKey "categories.name") :=
      Statement.updateCategory_taken hpermitted (hasCategory_of_find hrow) htaken
    unfold mergeCategory getCategory
    simp only [hread, hname, Action.meets_bind, Action.meets_query, Action.meets_ofExcept,
      Action.meets_session, Action.meets_execute, Except.ok.injEq, reduceCtorEq, false_implies,
      implies_true, and_true, forall_eq']
    rw [Session.stamp] at hwrite
    simp [hwrite, onRepeat, repeatedKey, Failure.kind]
  · have hfits : patch.Fits session.triggers db row := by
      refine ⟨?_, fun other hother hname => ?_, hpermitted⟩
      · rintro _ hother
        obtain rfl := Option.some.inj (hgiven.symm.trans hother)
        exact hnamed
      · by_contra hne
        rw [CategoryPatch.rename, hgiven] at hname
        exact hfree ⟨other, hother, hid ▸ hne, hname⟩
    obtain ⟨hanswer, -⟩ := (CategoryPatch.merge_yields_iff hids).mpr
      ⟨row, existing, hrow, hrowRead, hfits, rfl, rfl⟩
    exact ⟨_, hanswer⟩

/-! ## One space of names -/

/-- The names of categories in a database file of the program's own: what is found under a name,
and when it may be given to a new category or to one that is there. -/
structure Database.NamesAreKeys (session : Session String) (db : Database String) : Prop where
  found : ∀ name, Text.isBlankText name = false →
    ((∃ category, (findCategoryByName name session db).answer = .ok category) ↔
      ∃ row ∈ db.categories, row.name = storedName name)
  only : ∀ name category, (findCategoryByName name session db).answer = .ok category →
    ∃ row, (db.categories.filter fun other => other.name == storedName name) = [row] ∧
      session.backend.readCategory row = .ok category
  creates : ∀ draft : CategoryDraft, Text.isBlankText draft.name = false →
    session.triggers.permit .insertCategory = .ok () →
    db.hasCategory session.ids.category = false →
    (createCategory draft session db).ConflictsIf db
      (∃ category, (findCategoryByName draft.name session db).answer = .ok category)
  renames : ∀ id name (patch : CategoryPatch), db.hasCategory id = true → patch.name = some name →
    Text.isBlankText name = false → session.triggers.permit .updateCategory = .ok () →
    (updateCategory id patch session db).ConflictsIf db
      (∃ row ∈ db.categories, row.id ≠ id ∧ row.name = storedName name)
  own : ∀ row ∈ db.categories, ∃ category, session.backend.readCategory row = .ok category ∧
    (findCategoryByName category.name session db).answer = .ok category

theorem Database.namesAreKeys {session : Session String} {db : Database String}
    (hbackend : session.backend = .embedded) (hconsistent : db.Consistent) (hchecked : db.Checked)
    (hstamped : db.Stamped session.backend) : db.NamesAreKeys session := by
  have hread {name : String} {category : Category} :
      (findCategoryByName name session db).answer = .ok category ↔
        ∃ row ∈ db.categories, row.name = storedName name ∧
          session.backend.readCategory row = .ok category := by
    refine findCategoryByName_eq_ok_iff hconsistent.categoryNames fun row _ => ?_
    rw [hbackend]
    rfl
  have hfound (name : String) :
      (∃ category, (findCategoryByName name session db).answer = .ok category) ↔
        ∃ row ∈ db.categories, row.name = storedName name := by
    constructor
    · rintro ⟨category, hcategory⟩
      obtain ⟨row, hrow, hname, -⟩ := hread.mp hcategory
      exact ⟨row, hrow, hname⟩
    · rintro ⟨row, hrow, hname⟩
      obtain ⟨category, hcategory⟩ := readCategory_ok hstamped hrow
      exact ⟨category, hread.mpr ⟨row, hrow, hname, hcategory⟩⟩
  constructor
  case found => exact fun name _ => hfound name
  case only =>
    intro name category hcategory
    obtain ⟨row, hrow, hname, hrowRead⟩ := hread.mp hcategory
    exact ⟨row, hname ▸ filter_key_eq_singleton hconsistent.categoryNames hrow, hrowRead⟩
  case creates =>
    intro draft hblank hpermitted hfresh
    rw [hfound]
    exact createCategory_conflictsIf hblank hpermitted hfresh
  case renames =>
    intro id name patch hthere hgiven hblank hpermitted
    obtain ⟨row, hrow⟩ := category?_of_hasCategory hthere
    obtain ⟨existing, hexisting⟩ := readCategory_ok hstamped (List.mem_of_find?_eq_some hrow)
    have hlookUp := lookUpCategory_eq_ok_iff.mpr ⟨row, hrow, hexisting⟩
    have hmerges : session.backend.patchesInPlace = false := by
      rw [hbackend]
      rfl
    rw [updateCategory_eq, hmerges]
    exact mergeCategory_conflictsIf hconsistent.categoryIds hlookUp hgiven hblank hpermitted
  case own =>
    intro row hrow
    obtain ⟨category, hcategory⟩ := readCategory_ok hstamped hrow
    exact ⟨category, hcategory,
      findCategoryByName_of_mem hbackend hconsistent hchecked hrow hcategory⟩

end Store

namespace Board

variable {board : Board String} {turns : List Turn}

/-- After any run of a board on a file of its own, whose clock shows years of four digits, the names
of its categories are keys. -/
theorem run_namesAreKeys (hbackend : board.backend = .embedded)
    (hclock : ∀ turn ∈ turns, board.backend.Timely turn.now) (session : Session String)
    (hsession : session.backend = .embedded) : (board.run .empty turns).NamesAreKeys session := by
  have horderly : (board.run .empty turns).Orderly board.backend := run_orderly hclock
  rw [hbackend, ← hsession] at horderly
  exact Database.namesAreKeys hsession horderly.consistent (run_checked .empty turns)
    horderly.stamped

theorem renamed_board_namesAreKeys :
    let db := listedBoard.run .empty renamedHistory
    (∃ category, (findCategoryByName " SMALL Boats" listedSession db).answer = .ok category) ∧
      (∃ failure, (createCategory ⟨"Small boats", none⟩ listedSession db).answer =
        .error failure ∧ failure.kind = .conflict) ∧
      ∃ category, (updateCategory "c2" ⟨some "SMALL BOATS ", .keep⟩ listedSession db).answer =
        .ok category := by
  intro db
  have hclock : ∀ turn ∈ renamedHistory, 0 ≤ turn.now.date.year ∧ turn.now.date.year ≤ 9999 := by
    decide
  have hkeys := @run_namesAreKeys listedBoard renamedHistory rfl
    (fun turn hturn => .embedded (hclock turn hturn)) listedSession rfl
  have hnames : (db.categories.map fun row => (row.id, row.name)) =
      [("c1", "bikes"), ("c2", "small boats")] := by decide +kernel
  have hids (id : String) : db.hasCategory id = true ↔ id ∈ ["c1", "c2"] := by
    have hids : db.categories.map CategoryRow.id = ["c1", "c2"] := by
      simpa [Function.comp_def] using congrArg (List.map Prod.fst) hnames
    rw [← hids, List.mem_map, hasCategory_iff]
  have hfound {name : String} (hblank : Text.isBlankText name = false)
      (hstored : storedName name = "small boats") :
      ∃ category, (findCategoryByName name listedSession db).answer = .ok category := by
    have hboats : ("c2", "small boats") ∈ db.categories.map fun row => (row.id, row.name) := by
      rw [hnames]
      decide
    obtain ⟨row, hrow, hsame⟩ := List.mem_map.mp hboats
    exact (hkeys.found name hblank).mpr ⟨row, hrow, hstored ▸ (Prod.mk.inj hsame).2⟩
  refine ⟨hfound (by decide) (by decide +kernel), ?_, ?_⟩
  · have hfresh : db.hasCategory listedSession.ids.category = false := by
      rw [Bool.eq_false_iff, ne_eq, hids]
      decide
    have hcreates := hkeys.creates ⟨"Small boats", none⟩ (by decide) rfl hfresh
    exact hcreates.conflict.mpr (hfound (by decide) (by decide +kernel))
  · have hthere : db.hasCategory "c2" = true := (hids _).mpr (by decide)
    have hrenames := hkeys.renames "c2" _ ⟨some "SMALL BOATS ", .keep⟩ hthere rfl (by decide) rfl
    have hstored : storedName "SMALL BOATS " = "small boats" := by decide +kernel
    refine hrenames.success.mpr ?_
    rintro ⟨row, hrow, hother, hname⟩
    have hrow : (row.id, row.name) ∈ db.categories.map fun row => (row.id, row.name) :=
      List.mem_map_of_mem hrow
    simp [hnames, hname, hstored, hother] at hrow

end Board
end Noticeboard
