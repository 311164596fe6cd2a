import Noticeboard.Proofs.AccessRights
import Noticeboard.Proofs.SeededNames

/-!
# Seeding twice

A run of the seeding goes through the names that its generator gives, and creates each of them or
passes over it.  On an empty store it creates all of them.  A second run with the same start gets
the same names again, also behind one that it passes over, so that it passes over those of the first
run and creates the rest.
-/

namespace Noticeboard

open Store

theorem Store.Action.yields_within {τ α : Type} {session : Session τ} {db after : Database τ}
    {change : Session τ → Session τ} {action : Action τ α} {answer : α} :
    (action.within change session db).Yields answer after ↔
      (action (change session) db).Yields answer after :=
  Iff.rfl

/-- A name that is taken makes a conflict, whatever id the new category would have. -/
theorem Store.createCategory_taken {τ : Type} {session : Session τ} {db : Database τ}
    {draft : CategoryDraft} (hblank : Text.isBlankText draft.name = false)
    (hpermitted : session.triggers.permit .insertCategory = .ok ())
    (htaken : ∃ row ∈ db.categories, row.name = storedName draft.name) :
    (createCategory draft session db).Fails (.categoryExists (storedName draft.name)) db := by
  have hname : normalizeCategoryName draft.name = .ok (storedName draft.name) :=
    normalizeCategoryName_eq_ok_iff.mpr ⟨(storedName_isEmpty _).trans hblank, rfl⟩
  have hwrite : ∃ columns, Statement.insertCategory ⟨session.ids.category, storedName draft.name,
      draft.description, session.stamp, session.stamp⟩ session.triggers db =
        .error (repeatedKey columns) := by
    cases hid : db.hasCategory session.ids.category with
    | false => exact ⟨_, Statement.insertCategory_taken hpermitted hid htaken⟩
    | true =>
        refine ⟨"categories.id", ?_⟩
        simp only [Statement.insertCategory, hpermitted, hid, if_true]
        rfl
  obtain ⟨columns, hwrite⟩ := hwrite
  rw [Outcome.fails_iff_meets]
  unfold createCategory insertCategory
  simp only [hname, Action.meets_bind, Action.meets_ofExcept, Action.meets_session,
    Action.meets_execute, Except.ok.injEq, reduceCtorEq, false_implies, implies_true, and_true,
    forall_eq']
  rw [Session.stamp] at hwrite
  simp [hwrite, onRepeat, repeatedKey]

namespace Seeding

variable {τ : Type} {session : Session τ} {db mid after : Database τ} {given : CategoryDraft}
  {generator : Generator} {categoryId : Nat → String} {index count : Nat}

/-! ## One category -/

theorem createOne_created {category : Category}
    (h : (Store.createCategory given session db).Yields category after) :
    (createOne given session db).Yields false after := by
  obtain ⟨hanswer, hdatabase⟩ : (Service.createCategory actor given session db).Agrees
      (Store.createCategory given session db) := Service.calling_agrees ⟨rfl, rfl⟩
  rw [h.1] at hanswer
  unfold createOne Outcome.Yields
  dsimp only
  rw [hanswer]
  exact ⟨rfl, hdatabase.trans h.2⟩

theorem createOne_passes {failure : Failure}
    (h : (Store.createCategory given session db).Fails failure db)
    (hconflict : failure.kind = .conflict) : (createOne given session db).Yields true db := by
  obtain ⟨hanswer, hdatabase⟩ : (Service.createCategory actor given session db).Agrees
      (Store.createCategory given session db) := Service.calling_agrees ⟨rfl, rfl⟩
  rw [h.1] at hanswer
  unfold createOne Outcome.Yields
  dsimp only
  rw [hanswer]
  exact ⟨if_pos hconflict, hdatabase.trans h.2⟩

/-- The row of a new category, whose name is its own stored form. -/
def newRow (session : Session τ) (id : String) (given : CategoryDraft) : CategoryRow τ :=
  ⟨id, given.name, given.description, session.stamp, session.stamp⟩

/-- The tables with some more categories. -/
def withCategories (db : Database τ) (rows : List (CategoryRow τ)) : Database τ :=
  { db with categories := db.categories ++ rows }

theorem withCategories_nil (db : Database τ) : withCategories db [] = db := by
  rw [withCategories, List.append_nil]

theorem withCategories_cons (db : Database τ) (row : CategoryRow τ) (rows : List (CategoryRow τ)) :
    withCategories db (row :: rows) = withCategories (withCategories db [row]) rows := by
  simp only [withCategories, List.append_assoc, List.singleton_append]

/-- The session in which the category of a number is created. -/
def withId (session : Session τ) (id : String) : Session τ :=
  { session with ids := { session.ids with category := id } }

theorem createOne_new {id : String} (hpermitted : session.triggers.permit .insertCategory = .ok ())
    (hfresh : ∀ row ∈ db.categories, row.id ≠ id)
    (hfree : ∀ row ∈ db.categories, row.name ≠ (draft index generator).1.name) :
    (createOne (draft index generator).1 (withId session id) db).Yields false
      (withCategories db [newRow session id (draft index generator).1]) := by
  have hid : db.hasCategory id = false := by
    rw [Bool.eq_false_iff, ne_eq, hasCategory_iff]
    rintro ⟨row, hrow, hsame⟩
    exact hfresh row hrow hsame
  apply createOne_created
  refine insertCategory_yields_iff.mpr
    ⟨name_not_blank index generator, hpermitted, hid, ?_, ?_, rfl⟩
  · rwa [storedName_draft]
  · rw [storedName_draft]
    rfl

theorem createOne_taken {id : String}
    (hpermitted : session.triggers.permit .insertCategory = .ok ())
    (htaken : ∃ row ∈ db.categories, row.name = (draft index generator).1.name) :
    (createOne (draft index generator).1 (withId session id) db).Yields true db := by
  rw [← storedName_draft] at htaken
  exact createOne_passes
    (Store.createCategory_taken (name_not_blank index generator) hpermitted htaken) rfl

/-! ## A run -/

theorem seed_succ_yields {skipped : Nat} {last : Generator} :
    (seed categoryId index (count + 1) generator session db).Yields (skipped, last) after ↔
      ∃ passed mid others,
        (createOne (draft index generator).1 (withId session (categoryId index)) db).Yields
          passed mid ∧
        (seed categoryId (index + 1) count (draft index generator).2 session mid).Yields
          (others, last) after ∧
        skipped = (if passed then 1 else 0) + others := by
  have hstep : seed categoryId index (count + 1) generator =
      (createOne (τ := τ) (draft index generator).1).within
        (fun session => withId session (categoryId index)) >>= fun passed =>
      seed categoryId (index + 1) count (draft index generator).2 >>= fun rest =>
      pure ((if passed then 1 else 0) + rest.1, rest.2) := rfl
  rw [hstep, Action.yields_bind]
  refine exists_congr fun passed => exists_congr fun mid => ?_
  simp only [Action.yields_within, Action.yields_bind, Action.yields_pure]
  constructor
  · rintro ⟨hfirst, ⟨others, _⟩, _, hrest, heq, rfl⟩
    obtain ⟨rfl, rfl⟩ := Prod.mk.inj heq
    exact ⟨others, hfirst, hrest, rfl⟩
  · rintro ⟨others, hfirst, hrest, rfl⟩
    exact ⟨hfirst, (others, last), after, hrest, rfl, rfl⟩

theorem seed_append {more passed others : Nat} {next last : Generator}
    (hfirst : (seed categoryId index count generator session db).Yields (passed, next) mid)
    (hrest : (seed categoryId (index + count) more next session mid).Yields (others, last) after) :
    (seed categoryId index (count + more) generator session db).Yields
      (passed + others, last) after := by
  induction count generalizing index generator passed db with
  | zero =>
      obtain ⟨heq, rfl⟩ := Action.yields_pure.mp hfirst
      obtain ⟨rfl, rfl⟩ := Prod.mk.inj heq
      rwa [Nat.zero_add, Nat.zero_add]
  | succ count ih =>
      obtain ⟨skips, between, skipped, hone, hmany, rfl⟩ := seed_succ_yields.mp hfirst
      rw [Nat.succ_add, seed_succ_yields, Nat.add_assoc]
      refine ⟨skips, between, skipped + others, hone, ih hmany ?_, rfl⟩
      rw [show index + 1 + count = index + (count + 1) by omega]
      exact hrest

/-- As many are passed over as there are, at the most. -/
theorem seed_skipped_le {skipped : Nat} {last : Generator}
    (h : (seed categoryId index count generator session db).Yields (skipped, last) after) :
    skipped ≤ count := by
  induction count generalizing index generator skipped db with
  | zero =>
      obtain ⟨heq, -⟩ := Action.yields_pure.mp h
      exact (Prod.mk.inj heq).1.le
  | succ count ih =>
      obtain ⟨passed, mid, others, -, hmany, rfl⟩ := seed_succ_yields.mp h
      have hone : (if passed then 1 else 0) ≤ 1 := by split <;> decide
      have hothers := ih hmany
      omega

/-- A run over names that are all taken leaves the tables alone. -/
theorem seed_passes (hpermitted : session.triggers.permit .insertCategory = .ok ())
    (htaken : ∀ given ∈ drafts index count generator,
      ∃ row ∈ db.categories, row.name = given.name) :
    (seed categoryId index count generator session db).Yields
      (count, generatorAfter count generator) db := by
  induction count generalizing index generator with
  | zero => exact Action.yields_pure.mpr ⟨rfl, rfl⟩
  | succ count ih =>
      rw [drafts, List.forall_mem_cons] at htaken
      rw [seed_succ_yields, generatorAfter_succ index, Nat.add_comm count]
      exact ⟨true, db, count, createOne_taken hpermitted htaken.1, ih htaken.2, rfl⟩

/-- The rows of the drafts of a run. -/
def newRows (session : Session τ) (categoryId : Nat → String) (index count : Nat)
    (generator : Generator) : List (CategoryRow τ) :=
  List.zipWith (newRow session) ((List.range' index count).map categoryId)
    (drafts index count generator)

theorem newRows_succ : newRows session categoryId index (count + 1) generator =
    newRow session (categoryId index) (draft index generator).1 ::
      newRows session categoryId (index + 1) count (draft index generator).2 := by
  rw [newRows, List.range'_succ, List.map_cons, drafts, List.zipWith_cons_cons]
  rfl

theorem length_newRows : (newRows session categoryId index count generator).length = count := by
  rw [newRows, List.length_zipWith, List.length_map, List.length_range', length_drafts, min_self]

theorem ids_newRows : (newRows session categoryId index count generator).map CategoryRow.id =
    (List.range' index count).map categoryId := by
  induction count generalizing index generator with
  | zero => rfl
  | succ count ih => rw [newRows_succ, List.map_cons, ih, List.range'_succ, List.map_cons]; rfl

theorem names_newRows : (newRows session categoryId index count generator).map CategoryRow.name =
    (drafts index count generator).map CategoryDraft.name := by
  induction count generalizing index generator with
  | zero => rfl
  | succ count ih => rw [newRows_succ, List.map_cons, ih, drafts, List.map_cons]; rfl

/-- A run over names that are all free, with ids that are new, passes over none. -/
theorem seed_creates (hpermitted : session.triggers.permit .insertCategory = .ok ())
    (hids : (db.categories.map CategoryRow.id ++ (List.range' index count).map categoryId).Nodup)
    (hnames : (db.categories.map CategoryRow.name ++
      (drafts index count generator).map CategoryDraft.name).Nodup) :
    (seed categoryId index count generator session db).Yields
      (0, generatorAfter count generator)
      (withCategories db (newRows session categoryId index count generator)) := by
  induction count generalizing index generator db with
  | zero => exact Action.yields_pure.mpr ⟨rfl, withCategories_nil db⟩
  | succ count ih =>
      rw [List.range'_succ, List.map_cons] at hids
      rw [drafts, List.map_cons] at hnames
      have hfresh : ∀ row ∈ db.categories, row.id ≠ categoryId index := fun row hrow =>
        (List.nodup_append.mp hids).2.2 _ (List.mem_map_of_mem hrow) _ List.mem_cons_self
      have hfree : ∀ row ∈ db.categories, row.name ≠ (draft index generator).1.name :=
        fun row hrow =>
          (List.nodup_append.mp hnames).2.2 _ (List.mem_map_of_mem hrow) _ List.mem_cons_self
      rw [seed_succ_yields, generatorAfter_succ index, newRows_succ, withCategories_cons]
      refine ⟨false, _, 0, createOne_new hpermitted hfresh hfree, ?_, rfl⟩
      rw [List.append_cons] at hids hnames
      apply ih
      · simpa [withCategories, newRow] using hids
      · simpa [withCategories, newRow] using hnames

/-- A run with new ids on an empty store creates all of its categories. -/
theorem seed_empty (generator : Generator)
    (hpermitted : session.triggers.permit .insertCategory = .ok ())
    (hids : ((List.range count).map categoryId).Nodup) :
    (seed categoryId 0 count generator session .empty).Yields (0, generatorAfter count generator)
      (withCategories .empty (newRows session categoryId 0 count generator)) := by
  rw [List.range_eq_range'] at hids
  exact seed_creates hpermitted hids (nodup_names 0 count generator)

/-- A run on tables that hold the first `count` of its names passes over these, and creates those
behind them. -/
theorem seed_again (count more : Nat) (generator : Generator)
    (hpermitted : session.triggers.permit .insertCategory = .ok ())
    (hnames : db.categories.map CategoryRow.name =
      (drafts 0 count generator).map CategoryDraft.name)
    (hids : (db.categories.map CategoryRow.id ++
      (List.range' count more).map categoryId).Nodup) :
    (seed categoryId 0 (count + more) generator session db).Yields
      (count, generatorAfter (count + more) generator)
      (withCategories db
        (newRows session categoryId count more (generatorAfter count generator))) := by
  have htaken : ∀ given ∈ drafts 0 count generator,
      ∃ row ∈ db.categories, row.name = given.name := by
    intro given hgiven
    have hname : given.name ∈ db.categories.map CategoryRow.name := by
      rw [hnames]
      exact List.mem_map_of_mem hgiven
    exact List.mem_map.mp hname
  have hall := nodup_names 0 (count + more) generator
  rw [drafts_add, Nat.zero_add, List.map_append, ← hnames] at hall
  have hrest := seed_append (seed_passes hpermitted htaken)
    (by rw [Nat.zero_add]; exact seed_creates hpermitted hids hall)
  rwa [generatorAfter_add]

/-- A report tells how many were passed over, and counts the others as new. -/
theorem perform_report {settings : EngineSettings} {start : UInt64} {searches skipped : Nat}
    {url : String} {report : Report} {last : Generator}
    (hseed : (seed categoryId 0 count ⟨start⟩ session db).Yields (skipped, last) mid)
    (h : (perform settings categoryId ⟨count, searches, start, url⟩ session db).answer =
      .ok report) :
    report.seeded = count - skipped ∧ report.skipped = skipped := by
  have hyields := Outcome.yields_of_answer h
  unfold perform at hyields
  obtain ⟨found, between, hfound, hsearch⟩ := Action.yields_bind.mp hyields
  obtain ⟨matched, _, -, hreport⟩ := Action.yields_bind.mp hsearch
  obtain ⟨rfl, -⟩ := Action.yields_pure.mp hreport
  obtain rfl : found = (skipped, last) := Except.ok.inj (hfound.1.symm.trans hseed.1)
  exact ⟨rfl, rfl⟩

/-- On an empty store a run creates all of its categories.  A run of the same start on what the
first has left meets a conflict for each of these, leaves them alone, and creates the rest. -/
theorem seeded_twice (start : UInt64) {n m : Nat} (hle : n ≤ m) {first second : Session τ}
    (hfirst : first.triggers.permit .insertCategory = .ok ())
    (hsecond : second.triggers.permit .insertCategory = .ok ()) {ids later : Nat → String}
    (hids : ((List.range n).map ids ++ (List.range' n (m - n)).map later).Nodup) :
    (∃ stored rows created,
      (seed ids 0 n ⟨start⟩ first .empty).Yields (0, generatorAfter n ⟨start⟩) stored ∧
      stored = withCategories .empty rows ∧ rows.length = n ∧
      (seed later 0 m ⟨start⟩ second stored).Yields (n, generatorAfter m ⟨start⟩)
        (withCategories stored created) ∧ created.length = m - n ∧
      (rows ++ created).map CategoryRow.name = (drafts 0 m ⟨start⟩).map CategoryDraft.name ∧
      ∀ settings searches url report,
        ((perform settings ids ⟨n, searches, start, url⟩ first .empty).answer = .ok report →
          report.seeded = n ∧ report.skipped = 0) ∧
        ((perform settings later ⟨m, searches, start, url⟩ second stored).answer = .ok report →
          report.seeded = m - n ∧ report.skipped = n)) ∧
    (∀ generator : Generator,
      words[generator.step.value % words.length]? = some (pickWord generator).1 ∧
      nouns[generator.step.value % nouns.length]? = some (pickNoun generator).1) ∧
    ∀ (session : Session τ) db after categoryId count skipped last,
      (seed categoryId 0 count ⟨start⟩ session db).Yields (skipped, last) after →
        skipped ≤ count := by
  obtain ⟨more, rfl⟩ := Nat.exists_eq_add_of_le hle
  rw [Nat.add_sub_cancel_left] at hids ⊢
  have honce := seed_empty ⟨start⟩ hfirst hids.of_append_left
  have hmore : ((withCategories .empty (newRows first ids 0 n ⟨start⟩)).categories.map
      CategoryRow.id ++ (List.range' n more).map later).Nodup := by
    show ((newRows first ids 0 n ⟨start⟩).map CategoryRow.id ++ _).Nodup
    rwa [ids_newRows, ← List.range_eq_range']
  have htwice := seed_again n more ⟨start⟩ hsecond names_newRows hmore
  have hnames : (newRows first ids 0 n ⟨start⟩ ++
      newRows second later n more (generatorAfter n ⟨start⟩)).map CategoryRow.name =
        (drafts 0 (n + more) ⟨start⟩).map CategoryDraft.name := by
    rw [List.map_append, names_newRows, names_newRows, drafts_add, Nat.zero_add, List.map_append]
  refine ⟨?seeded, ?picked, ?bounded⟩
  case seeded =>
    refine ⟨_, newRows first ids 0 n ⟨start⟩, _, honce, rfl, length_newRows, htwice,
      length_newRows, hnames, fun settings searches url report => ⟨fun hreport => ?_,
      fun hreport => ?_⟩⟩
    · exact perform_report honce hreport
    · have hcounts := perform_report htwice hreport
      rwa [Nat.add_sub_cancel_left] at hcounts
  case picked =>
    intro generator
    exact ⟨pick_eq words words_length_pos generator, pick_eq nouns nouns_length_pos generator⟩
  case bounded =>
    intro session db after categoryId count skipped last hseeded
    exact seed_skipped_le hseeded

theorem three_seeded_after_one :
    let session := (Board.embedded ⟨2, 3, -1⟩ .standard).session
      (sampleTurn "1" (.store .activeAdvertisements))
    let ids (number : Nat) := "c" ++ toString number
    ((List.range 1).map ids ++ (List.range' 1 2).map ids).Nodup ∧
      ∃ stored created,
        (seed ids 0 1 ⟨42⟩ session .empty).Yields (0, generatorAfter 1 ⟨42⟩) stored ∧
        (seed ids 0 3 ⟨42⟩ session stored).Yields (1, generatorAfter 3 ⟨42⟩)
          (withCategories stored created) ∧
        (withCategories stored created).categories.map CategoryRow.name =
          ["outdoor audio rugs 0", "sports vintage records 1", "office outdoor tents 2"] := by
  intro session ids
  have hids : ((List.range 1).map ids ++ (List.range' 1 2).map ids).Nodup := by decide
  obtain ⟨⟨_, rows, created, honce, rfl, -, htwice, -, hnames, -⟩, -, -⟩ :=
    @seeded_twice String 42 1 3 (by decide) session session rfl rfl ids ids hids
  exact ⟨hids, _, created, honce, htwice, hnames.trans rfl⟩

end Seeding
end Noticeboard
