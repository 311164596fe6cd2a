import Noticeboard.Proofs.NameKeys
import Noticeboard.Proofs.TwoBackends

/-!
# Refused patches of categories

An embedded database reads a category before it looks at the patch.  A server writes it with one
statement and has to settle the new name before that.  So a category that is missing and a name that
is blank are found in a different order, and only then do the two kinds of database refuse a patch
for different reasons.

A server takes no text with the null character, whatever is asked of it.  Its tables say nothing of
that, and ids and patches are supposed to be free of this character.
-/

namespace Noticeboard

open Store

/-- Whether a text is without the null character, which no server takes. -/
def Text.isNullFree (text : String) : Bool :=
  !text.toList.contains '\x00'

def CategoryPatch.isNullFree (patch : CategoryPatch) : Bool :=
  patch.name.all Text.isNullFree &&
    match patch.description with
    | .set text => Text.isNullFree text
    | .keep => true
    | .clear => true

def CategoryPatch.blanksName (patch : CategoryPatch) : Bool :=
  patch.name.any Text.isBlankText

theorem CategoryPatch.normalized (patch : CategoryPatch) :
    patch.name.mapM normalizeCategoryName =
      if patch.blanksName then .error .emptyCategoryName
      else .ok (patch.name.map storedName) := by
  unfold blanksName
  cases patch.name with
  | none => rfl
  | some given =>
      rw [Option.mapM_some, Option.any_some, Option.map_some, ← storedName_isEmpty]
      show (if (storedName given).isEmpty then .error .emptyCategoryName
        else .ok (storedName given) : Except Failure String).map some = _
      split
      · rfl
      · rfl

namespace Store

variable {σ τ α : Type}

/-- The kind of an outcome's failure, if it is one. -/
def Outcome.failureKind? (outcome : Outcome τ α) : Option Failure.Kind :=
  match outcome.answer with
  | .ok _ => none
  | .error failure => some failure.kind

theorem Outcome.Pairs.failureKind? {β : Type} {first : Outcome σ α} {second : Outcome τ β}
    (h : first.Pairs second (fun _ _ _ _ => True) fun f g _ _ => f.kind = g.kind) :
    first.failureKind? = second.failureKind? := by
  unfold Outcome.failureKind?
  rcases h.cases with ⟨_, _, hfirst, hsecond, -⟩ | ⟨_, _, hfirst, hsecond, hkind⟩
  · rw [hfirst, hsecond]
  · simp only [hfirst, hsecond, hkind]

/-- An embedded database and a server hold the same rows, whatever texts the embedded one has for
the times. -/
def SameRows (tables : Database String) (db : Database Time.Instant) : Prop :=
  tables.mapTimes Time.readStored = db.mapTimes Except.ok

/-- Two writes with the same result but for what stands for the tables. -/
theorem paired_of_mapTables {υ β : Type} {f : Database σ → Database υ} {g : Database τ → Database υ}
    {first : Except DatabaseFault (β × Database σ)} {second : Except DatabaseFault (β × Database τ)}
    (h : mapTables f first = mapTables g second) : Paired (fun _ _ => True) Eq first second := by
  cases first with
  | ok _ =>
      cases second with
      | ok _ => exact paired_ok trivial
      | error _ => contradiction
  | error fault =>
      cases second with
      | ok _ => contradiction
      | error _ => exact paired_error (Except.error.inj h)

theorem kind_onRepeat {conflict conflict' : Failure} (h : conflict.kind = conflict'.kind)
    (fault : DatabaseFault) :
    (onRepeat conflict fault).kind = (onRepeat conflict' fault).kind := by
  cases fault <;> first | exact h | rfl

/-! ## A category that is there -/

section There

variable {e : Session String} {s : Session Time.Instant} {tables : Database String}
  {db : Database Time.Instant} {id : String}

theorem SameRows.category? (h : SameRows tables db) {stored : CategoryRow Time.Instant}
    (hstored : db.category? id = some stored) :
    ∃ row, tables.category? id = some row ∧
      row.mapTimes Time.readStored = stored.mapTimes Except.ok := by
  have hrow := category?_mapTimes Time.readStored tables id
  rw [h, category?_mapTimes, hstored] at hrow
  exact Option.map_eq_some_iff.mp hrow.symm

theorem SameRows.category?_none (h : SameRows tables db) (hmissing : db.category? id = none) :
    tables.category? id = none := by
  have hrow := category?_mapTimes Time.readStored tables id
  rw [h, category?_mapTimes, hmissing] at hrow
  exact Option.map_eq_none_iff.mp hrow.symm

/-- A write meets the same fault in the same rows, whatever their times are. -/
theorem SameRows.updateCategory (h : SameRows tables db) (id name : String)
    (description : Option String) (stamp : String) (stamp' : Time.Instant) (triggers : Triggers) :
    Paired (fun _ _ => True) Eq
      (Statement.updateCategory id name description stamp triggers tables)
      (Statement.updateCategory id name description stamp' triggers db) := by
  -- with the times forgotten the rows are equal, and what the write looks at is no time
  have hrows : tables.mapTimes (fun _ => ()) = db.mapTimes fun _ => () := by
    have htwice := congrArg (Database.mapTimes fun _ => ()) h
    simp only [Database.mapTimes, List.map_map] at htwice
    exact htwice
  apply paired_of_mapTables (f := Database.mapTimes fun _ => ()) (g := Database.mapTimes fun _ => ())
  rw [← Statement.updateCategory_mapTimes, ← Statement.updateCategory_mapTimes, hrows]

/-- A category that is there is refused the same patches by both, for the same reasons. -/
theorem patches_refused_alike (hembedded : e.backend = .embedded) (hserver : s.backend = .server)
    (htriggers : e.triggers = s.triggers) (h : SameRows tables db)
    {stored : CategoryRow Time.Instant} (hstored : db.category? id = some stored)
    (patch : CategoryPatch) :
    (mergeCategory id patch e tables).Pairs (patchCategory id patch s db) (fun _ _ _ _ => True)
      fun f g _ _ => f.kind = g.kind := by
  obtain ⟨row, hrow, hsame⟩ := h.category? hstored
  obtain ⟨-, hname, hdescription, hcreated, hupdated⟩ := CategoryRow.mk.inj hsame
  have hread : (getCategory id e tables).answer =
      .ok ⟨row.id, row.name, row.description, stored.createdAt, stored.updatedAt⟩ := by
    show lookUpCategory id e.backend tables = _
    rw [lookUpCategory_eq_ok_iff, hembedded]
    refine ⟨row, hrow, readCategory_eq_ok_iff.mpr ⟨_, _, ?_, ?_, rfl⟩⟩
    · simp [Backend.embedded, hcreated, Except.mapError]
    · simp [Backend.embedded, hupdated, Except.mapError]
  unfold mergeCategory patchCategory
  apply ((getCategory_reads id).bind_agrees hread ⟨rfl, rfl⟩).pairs
  apply Action.pairs_bind
  apply Action.pairs_ofExcept
  rw [patchedName_eq_mapM]
  cases patch.name.mapM normalizeCategoryName with
  | error failure => exact paired_error rfl
  | ok name =>
      apply paired_ok
      apply Action.pairs_bind
      apply Action.pairs_session
      apply Action.pairs_bind
      apply Action.pairs_execute
      -- what one read before is what the other patches in place, so both write the same values
      rw [htriggers, patchCategory_of_category? hstored, hname, hdescription]
      have hwrites := h.updateCategory id (name.getD stored.name)
        (patch.description.apply stored.description) (e.backend.stamp e.now)
        (s.backend.stamp s.now) s.triggers
      rcases hwrites.cases with ⟨_, _, hfirst, hsecond, -⟩ | ⟨fault, _, hfirst, hsecond, rfl⟩
      · have hanswers (answer : Category) :
            (Action.ofExcept (.ok answer) : Action Time.Instant Category) = pure answer :=
          rfl
        rw [hfirst, hsecond]
        apply paired_ok
        dsimp only
        rw [readCategory_server hserver, hanswers]
        exact Action.pairs_pure trivial
      · rw [hfirst, hsecond]
        exact paired_error (kind_onRepeat (by rfl) fault)

end There

/-! ## Reasons -/

theorem Statement.updateCategory_fault {id name : String} {description : Option String} {stamp : τ}
    {triggers : Triggers} {db : Database τ} {fault : DatabaseFault}
    (hpermitted : triggers.permit .updateCategory = .ok ())
    (h : Statement.updateCategory id name description stamp triggers db = .error fault) :
    fault = repeatedKey "categories.name" := by
  unfold Statement.updateCategory at h
  rw [hpermitted] at h
  split at h
  · by_cases hrepeated : (db.categories.any fun other => other.name == name && other.id != id) = true
    · rw [if_pos hrepeated] at h
      exact (Except.error.inj h).symm
    · rw [if_neg hrepeated] at h
      contradiction
  · contradiction

theorem patchCategory_reasons {s : Session Time.Instant} {db : Database Time.Instant} {id : String}
    (hserver : s.backend = .server) (hpermitted : s.triggers.permit .updateCategory = .ok ())
    (patch : CategoryPatch) :
    (patchCategory id patch s db).Meets (fun _ _ => True) fun failure _ =>
      failure.kind = .invalidInput ∨ failure.kind = .notFound ∨ failure.kind = .conflict := by
  unfold patchCategory
  simp only [Action.meets_bind, Action.meets_ofExcept, Action.meets_session, Action.meets_execute]
  refine ⟨fun name _ => ⟨fun found after _ => ?_, fun fault hfault => ?_⟩, fun failure hname => ?_⟩
  · cases found with
    | some written => simp [readCategory_server hserver]
    | none => exact (Action.meets_fail _).mpr (.inr (.inl rfl))
  · cases hrow : db.category? id with
    | some row =>
        rw [patchCategory_of_category? hrow] at hfault
        cases hwrite : Statement.updateCategory id (name.getD row.name)
            (patch.description.apply row.description) (s.backend.stamp s.now) s.triggers db with
        | ok written =>
            rw [hwrite] at hfault
            contradiction
        | error other =>
            rw [hwrite] at hfault
            obtain rfl := Except.error.inj hfault
            obtain rfl := Statement.updateCategory_fault hpermitted hwrite
            exact .inr (.inr rfl)
    | none =>
        simp only [Statement.patchCategory, hrow] at hfault
        contradiction
  · rw [patch.normalized] at hname
    split at hname
    · obtain rfl := Except.error.inj hname
      exact .inl rfl
    · contradiction

theorem Outcome.Meets.failureKind? {outcome : Outcome τ α} (kinds : Failure.Kind → Prop)
    (h : outcome.Meets (fun _ _ => True) fun failure _ => kinds failure.kind) {kind : Failure.Kind}
    (hkind : outcome.failureKind? = some kind) : kinds kind := by
  unfold Outcome.failureKind? at hkind
  cases hanswer : outcome.answer with
  | ok a =>
      rw [hanswer] at hkind
      contradiction
  | error failure =>
      rw [hanswer] at hkind
      obtain rfl := Option.some.inj hkind
      exact h.of_error hanswer

theorem patchCategory_failureKind {s : Session Time.Instant} {db : Database Time.Instant}
    {id : String} {patch : CategoryPatch} {kind : Failure.Kind} (hserver : s.backend = .server)
    (hpermitted : s.triggers.permit .updateCategory = .ok ())
    (hkind : (patchCategory id patch s db).failureKind? = some kind) :
    kind = .invalidInput ∨ kind = .notFound ∨ kind = .conflict :=
  (patchCategory_reasons hserver hpermitted patch).failureKind?
    (fun kind => kind = .invalidInput ∨ kind = .notFound ∨ kind = .conflict) hkind

theorem failureKinds_missing {e : Session String} {s : Session Time.Instant}
    {tables : Database String} {db : Database Time.Instant} {id : String}
    (hrows : SameRows tables db) (hmissing : db.category? id = none) (patch : CategoryPatch) :
    (mergeCategory id patch e tables).failureKind? = some .notFound ∧
      (patchCategory id patch s db).failureKind? =
        some (if patch.blanksName then .invalidInput else .notFound) := by
  constructor
  · rw [Outcome.failureKind?, (mergeCategory_missing (hrows.category?_none hmissing) patch).1]
    rfl
  · rw [Outcome.failureKind?, (patchCategory_missing hmissing patch).1, patch.normalized]
    cases patch.blanksName <;> rfl

/-- In the same rows both kinds of database refuse the same patches of a category, and for the same
reason unless the category is missing and the patch gives a blank name.  The embedded database then
misses the category and the server objects to the name.  Without a trigger in the way a patch is only
ever refused for a bad input, a missing category or a conflict. -/
theorem updateCategory_refusals {e : Session String} {s : Session Time.Instant}
    {tables : Database String} {db : Database Time.Instant} (hembedded : e.backend = .embedded)
    (hserver : s.backend = .server) (htriggers : e.triggers = s.triggers)
    (hrows : SameRows tables db) (id : String) (patch : CategoryPatch) :
    Text.isNullFree id = true → patch.isNullFree = true →
    ((updateCategory id patch e tables).failureKind? = (updateCategory id patch s db).failureKind? ↔
        ¬ (db.category? id = none ∧ patch.blanksName = true)) ∧
      (db.category? id = none → patch.blanksName = true →
        (updateCategory id patch e tables).failureKind? = some .notFound ∧
          (updateCategory id patch s db).failureKind? = some .invalidInput) ∧
      (s.triggers.permit .updateCategory = .ok () → ∀ kind,
        (updateCategory id patch e tables).failureKind? = some kind ∨
            (updateCategory id patch s db).failureKind? = some kind →
          kind = .invalidInput ∨ kind = .notFound ∨ kind = .conflict) := by
  intro _ _
  have hmerges : updateCategory id patch e tables = mergeCategory id patch e tables := by
    rw [updateCategory_eq, hembedded]
    rfl
  have hpatches : updateCategory id patch s db = patchCategory id patch s db := by
    rw [updateCategory_eq, hserver]
    rfl
  rw [hmerges, hpatches]
  cases hstored : db.category? id with
  | some stored =>
      have halike : (mergeCategory id patch e tables).failureKind? =
          (patchCategory id patch s db).failureKind? :=
        (patches_refused_alike hembedded hserver htriggers hrows hstored patch).failureKind?
      rw [halike]
      refine ⟨by simp, nofun, ?_⟩
      rintro hpermitted kind (hkind | hkind)
      · exact patchCategory_failureKind hserver hpermitted hkind
      · exact patchCategory_failureKind hserver hpermitted hkind
  | none =>
      obtain ⟨hfirst, hsecond⟩ : (mergeCategory id patch e tables).failureKind? = some .notFound ∧
          (patchCategory id patch s db).failureKind? =
            some (if patch.blanksName then .invalidInput else .notFound) :=
        failureKinds_missing hrows hstored patch
      refine ⟨?_, fun _ hblank => ⟨hfirst, by rw [hsecond, if_pos hblank]⟩, ?_⟩
      · rw [hfirst, hsecond]
        cases patch.blanksName <;> simp
      · rintro hpermitted kind (hkind | hkind)
        · rw [hfirst] at hkind
          exact .inr (.inl (Option.some.inj hkind).symm)
        · exact patchCategory_failureKind hserver hpermitted hkind

/-- Two categories, with this for every time. -/
def twoCategories {τ : Type} (time : τ) : Database τ :=
  { Database.empty with
    categories := [⟨"c1", "bikes", none, time, time⟩, ⟨"c2", "boats", none, time, time⟩] }

theorem twoCategories_sameRows :
    SameRows (twoCategories "1970-01-01T13:00:00+01:00") (twoCategories sampleNow) := by
  have hread : Time.readStored "1970-01-01T13:00:00+01:00" = .ok sampleNow := by
    rfl
  simp only [SameRows, twoCategories, Database.mapTimes, Database.empty, List.map_cons,
    List.map_nil, CategoryRow.mapTimes, hread]

def sampleEmbedded : Session String :=
  (Board.embedded .standard .standard).session (sampleTurn "3" (.store .listCategories))

def sampleServer : Session Time.Instant :=
  (Board.server .standard .standard).session (sampleTurn "3" (.store .listCategories))

/-- Both refuse a name that another category has. -/
theorem updateCategory_refusals_taken :
    (updateCategory "c1" ⟨some " BOATS ", .clear⟩ sampleEmbedded
        (twoCategories "1970-01-01T13:00:00+01:00")).failureKind? =
      (updateCategory "c1" ⟨some " BOATS ", .clear⟩ sampleServer
        (twoCategories sampleNow)).failureKind? ∧
    (updateCategory "c1" ⟨some " BOATS ", .clear⟩ sampleServer
        (twoCategories sampleNow)).failureKind? = some .conflict := by
  have hembedded : sampleEmbedded.backend = .embedded := rfl
  have hserver : sampleServer.backend = .server := rfl
  have htriggers : sampleEmbedded.triggers = sampleServer.triggers := rfl
  constructor
  · have hrefusals := updateCategory_refusals hembedded hserver htriggers twoCategories_sameRows "c1"
      ⟨some " BOATS ", .clear⟩ (by decide) (by decide)
    apply hrefusals.1.mpr
    rintro ⟨hmissing, -⟩
    contradiction
  · rfl

/-- A blank name for a category that does not exist is refused as the one by an embedded database
and as the other by a server. -/
theorem blankName_failureKinds :
    SameRows Database.empty Database.empty ∧
      (updateCategory "nope" ⟨some " ", .keep⟩ sampleEmbedded Database.empty).failureKind? =
        some .notFound ∧
      (updateCategory "nope" ⟨some " ", .keep⟩ sampleServer Database.empty).failureKind? =
        some .invalidInput :=
  ⟨rfl, rfl, rfl⟩

end Store
end Noticeboard
