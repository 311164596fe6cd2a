import Noticeboard.Proofs.MappedTimes
import Noticeboard.Proofs.Pairs
import Noticeboard.Proofs.Readable
import Noticeboard.Proofs.TimeOrder

/-!
# An embedded database beside a server

The tables of a server determine those of an embedded database that holds the same rows, with texts
where the server has times.  Texts are read back as the times they stand for and are ordered like
them, so both databases answer the same when they are read.  What two actions leave in a pair of
such databases is related by `Outcome.Mirrors`.
-/

namespace Noticeboard

open Store

namespace Store

/-- The tables of a server as an embedded database holds them. -/
abbrev Database.stored (db : Database Time.Instant) : Database String :=
  db.mapTimes Time.Instant.storedText

/-- Two sessions, one of each kind, that have everything else in common. -/
structure Alongside (e : Session String) (s : Session Time.Instant) : Prop where
  embedded : e.backend = .embedded
  server : s.backend = .server
  triggers : e.triggers = s.triggers
  weights : e.weights = s.weights
  now : e.now = s.now
  ids : e.ids = s.ids
  ordinary : s.now.Ordinary

/-- Both succeed with the same answer, or both fail, and they leave the same rows. -/
def Outcome.Mirrors {α : Type} (first : Outcome String α) (second : Outcome Time.Instant α) :
    Prop :=
  first.Pairs second (fun a b after after' => a = b ∧ after = after'.stored)
    fun _ _ after after' => after = after'.stored

theorem Outcome.Mirrors.answer {α : Type} {first : Outcome String α}
    {second : Outcome Time.Instant α} (h : first.Mirrors second) :
    first.answer.toOption = second.answer.toOption := by
  rcases h.cases with ⟨a, _, hfirst, hsecond, rfl, -⟩ | ⟨_, _, hfirst, hsecond, -⟩
  · rw [hfirst, hsecond]
  · rw [hfirst, hsecond]
    rfl

theorem Outcome.Mirrors.database {α : Type} {first : Outcome String α}
    {second : Outcome Time.Instant α} (h : first.Mirrors second) :
    first.database = second.database.stored := by
  rcases h.cases with ⟨_, _, -, -, -, hsame⟩ | ⟨_, _, -, -, hsame⟩
  · exact hsame
  · exact hsame

theorem Database.AllTimes.mapTimes_congr {σ τ : Type} {P : σ → Prop} {f g : σ → τ}
    {tables : Database σ} (h : tables.AllTimes P) (hfg : ∀ t, P t → f t = g t) :
    tables.mapTimes f = tables.mapTimes g := by
  have hreactions (kind : ReactionKind) :
      (tables.reactions kind).map (ReactionRow.mapTimes f) =
        (tables.reactions kind).map (ReactionRow.mapTimes g) := by
    apply List.map_congr_left
    intro row hrow
    simp only [ReactionRow.mapTimes, hfg _ (h.reactions kind row hrow)]
  unfold Database.mapTimes
  congr 1
  · apply List.map_congr_left
    intro row hrow
    obtain ⟨hcreated, hupdated⟩ := h.categories row hrow
    simp only [CategoryRow.mapTimes, hfg _ hcreated, hfg _ hupdated]
  · apply List.map_congr_left
    intro row hrow
    obtain ⟨hcreated, hupdated⟩ := h.advertisements row hrow
    simp only [AdvertisementRow.mapTimes, hfg _ hcreated, hfg _ hupdated]
  · apply List.map_congr_left
    intro row hrow
    simp only [CommentRow.mapTimes, hfg _ (h.comments row hrow)]
  · exact hreactions .like
  · exact hreactions .save

/-- What the embedded database holds can be read as what the server holds. -/
theorem readStored_stored {db : Database Time.Instant} (h : db.AllTimes Time.Instant.Storable) :
    db.stored.mapTimes Time.readStored = db.mapTimes Except.ok := by
  have htwice : db.stored.mapTimes Time.readStored =
      db.mapTimes fun t => Time.readStored t.storedText := by
    simp only [Database.mapTimes, List.map_map]
    rfl
  rw [htwice]
  exact h.mapTimes_congr fun t ht => ht.readStored_storedText

variable {α β : Type} {e : Session String} {s : Session Time.Instant}
  {db : Database Time.Instant}

/-! ## Rules -/

section Rules

variable {action : Action String β} {action' : Action Time.Instant β}
  {next : β → Action String α} {next' : β → Action Time.Instant α}

theorem Action.Reads.mirrors (h : action.Reads) (h' : action'.Reads)
    (hanswer : (action e db.stored).answer = (action' s db).answer) :
    (action e db.stored).Mirrors (action' s db) := by
  apply h.pairs h'
  rw [hanswer]
  exact paired_self (fun _ _ => ⟨rfl, rfl⟩) fun _ _ => rfl

theorem mirrors_bind (h : (action e db.stored).Mirrors (action' s db))
    (hnext : ∀ b after, (next b e after.stored).Mirrors (next' b s after)) :
    ((action >>= next) e db.stored).Mirrors ((action' >>= next') s db) := by
  apply Action.pairs_bind
  apply h.mono
  · rintro b _ _ after ⟨rfl, rfl⟩
    exact hnext b after
  · exact fun _ _ _ _ hsame => hsame

theorem Action.Reads.bind_mirrors (h : action.Reads) (h' : action'.Reads)
    (hanswer : (action e db.stored).answer = (action' s db).answer)
    (hnext : ∀ b, (action' s db).answer = .ok b →
      (next b e db.stored).Mirrors (next' b s db)) :
    ((action >>= next) e db.stored).Mirrors ((action' >>= next') s db) := by
  apply Action.pairs_bind
  apply h.pairs h'
  rw [hanswer]
  exact paired_self hnext fun _ _ => rfl

theorem ofExcept_bind_mirrors {result : Except Failure β}
    (hnext : ∀ b, result = .ok b → (next b e db.stored).Mirrors (next' b s db)) :
    ((Action.ofExcept result >>= next) e db.stored).Mirrors
      ((Action.ofExcept result >>= next') s db) := by
  apply Action.pairs_bind
  apply Action.pairs_ofExcept
  exact paired_self hnext fun _ _ => rfl

theorem session_bind_mirrors {next : Session String → Action String α}
    {next' : Session Time.Instant → Action Time.Instant α}
    (hnext : (next e e db.stored).Mirrors (next' s s db)) :
    ((Action.session >>= next) e db.stored).Mirrors ((Action.session >>= next') s db) := by
  apply Action.pairs_bind
  exact Action.pairs_session hnext

theorem execute_mirrors {statement : Statement String β} {statement' : Statement Time.Instant β}
    {explain explain' : DatabaseFault → Failure}
    (hmap : statement e.triggers db.stored =
      mapTables Database.stored (statement' s.triggers db)) :
    (Action.execute statement explain e db.stored).Mirrors
      (Action.execute statement' explain' s db) := by
  apply Action.pairs_execute
  exact paired_mapTables hmap (fun _ _ _ => ⟨rfl, rfl⟩) fun _ _ => rfl

theorem execute_bind_mirrors {statement : Statement String β}
    {statement' : Statement Time.Instant β} {explain explain' : DatabaseFault → Failure}
    (hmap : statement e.triggers db.stored =
      mapTables Database.stored (statement' s.triggers db))
    (hnext : ∀ b after, statement' s.triggers db = .ok (b, after) →
      (next b e after.stored).Mirrors (next' b s after)) :
    ((Action.execute statement explain >>= next) e db.stored).Mirrors
      ((Action.execute statement' explain' >>= next') s db) := by
  apply Action.pairs_bind
  apply Action.pairs_execute
  exact paired_mapTables hmap hnext fun _ _ => rfl

theorem transaction_mirrors {action : Action String α} {action' : Action Time.Instant α}
    (h : (action e db.stored).Mirrors (action' s db)) :
    (Action.transaction action e db.stored).Mirrors (Action.transaction action' s db) := by
  apply Action.pairs_transaction
  exact h.mono (fun _ _ _ _ hgood => hgood) fun _ _ _ _ _ => rfl

theorem pure_mirrors {a b : α} (h : a = b) :
    ((pure a : Action String α) e db.stored).Mirrors ((pure b : Action Time.Instant α) s db) :=
  Action.pairs_pure ⟨h, rfl⟩

theorem expectRow_mirrors {failure : Failure} {found : Bool} :
    (Action.expectRow failure found e db.stored).Mirrors (Action.expectRow failure found s db) :=
  Action.pairs_expectRow (fun _ => ⟨rfl, rfl⟩) fun _ => rfl

theorem Outcome.Mirrors.replying {wrap : β → Reply}
    (h : (action e db.stored).Mirrors (action' s db)) :
    (action.replying wrap e db.stored).Mirrors (action'.replying wrap s db) := by
  apply Action.pairs_replying
  apply h.mono
  · rintro _ _ _ _ ⟨rfl, rfl⟩
    exact ⟨rfl, rfl⟩
  · exact fun _ _ _ _ hsame => hsame

theorem Outcome.Mirrors.settling {action : Action String Unit} {action' : Action Time.Instant Unit}
    (h : (action e db.stored).Mirrors (action' s db)) :
    (action.settling e db.stored).Mirrors (action'.settling s db) :=
  h.replying

end Rules

/-! ## Times -/

theorem mapM_map_of_eq {ε γ : Type} {f : α → γ} {g : γ → Except ε β} {g' : α → Except ε β}
    {l : List α} (h : ∀ a ∈ l, g (f a) = g' a) : (l.map f).mapM g = l.mapM g' := by
  induction l with
  | nil => rfl
  | cons a rest ih =>
      have hrest : ∀ b ∈ rest, g (f b) = g' b := fun b hb => h b (List.mem_cons_of_mem a hb)
      rw [List.map_cons, List.mapM_cons, List.mapM_cons, h a List.mem_cons_self, ih hrest]

namespace Alongside

variable (h : Alongside e s)

include h

theorem stamp_server : s.backend.stamp s.now = s.now.toMicros := by
  rw [h.server]
  show s.now.withoutLeap.toMicros = _
  rw [h.ordinary.withoutLeap]

theorem stamp_embedded : e.backend.stamp e.now = (s.backend.stamp s.now).storedText := by
  rw [h.stamp_server, h.embedded, h.now]
  simp only [Backend.embedded]

theorem storable_stamp : s.stamp.Storable := by
  show (s.backend.stamp s.now).Storable
  rw [h.stamp_server]
  exact h.ordinary.toMicros

theorem readStamp {t : Time.Instant} (ht : t.Storable) (column : String) :
    e.backend.readStamp column t.storedText = s.backend.readStamp column t := by
  rw [h.embedded, h.server]
  simp only [Backend.embedded, Backend.server, ht.readStored_storedText]
  rfl

theorem compareStamps {t u : Time.Instant} (ht : t.Storable) (hu : u.Storable) :
    e.backend.compareStamps t.storedText u.storedText = s.backend.compareStamps t u := by
  rw [h.embedded, h.server]
  simp only [Backend.embedded, Backend.server]
  exact ht.compare_storedText hu

/-! ## Reads -/

theorem readCategory {row : CategoryRow Time.Instant} (hcreated : row.createdAt.Storable)
    (hupdated : row.updatedAt.Storable) :
    e.backend.readCategory (row.mapTimes Time.Instant.storedText) =
      s.backend.readCategory row := by
  simp only [Backend.readCategory, CategoryRow.mapTimes, h.readStamp hcreated,
    h.readStamp hupdated]

theorem readAdvertisement {row : AdvertisementRow Time.Instant}
    (hcreated : row.createdAt.Storable) (hupdated : row.updatedAt.Storable)
    (categoryName : String) :
    e.backend.readAdvertisement (row.mapTimes Time.Instant.storedText) categoryName =
      s.backend.readAdvertisement row categoryName := by
  simp only [Backend.readAdvertisement, AdvertisementRow.mapTimes, h.readStamp hcreated,
    h.readStamp hupdated]

theorem readComment {row : CommentRow Time.Instant} (hcreated : row.createdAt.Storable) :
    e.backend.readComment (row.mapTimes Time.Instant.storedText) = s.backend.readComment row := by
  simp only [Backend.readComment, CommentRow.mapTimes, h.readStamp hcreated]

theorem getCategory (hdb : db.AllTimes Time.Instant.Storable) (id : String) :
    (getCategory id e db.stored).answer = (getCategory id s db).answer := by
  simp only [Store.getCategory, Action.query, lookUpCategory, Database.stored, category?_mapTimes]
  cases hrow : db.category? id with
  | none => rfl
  | some row =>
      obtain ⟨hcreated, hupdated⟩ := hdb.categories row (List.mem_of_find?_eq_some hrow)
      exact h.readCategory hcreated hupdated

theorem listCategories (hdb : db.AllTimes Time.Instant.Storable) :
    (listCategories e db.stored).answer = (listCategories s db).answer := by
  have hsorted : db.stored.categories.mergeSort (fun a b => decide (a.name ≤ b.name)) =
      (db.categories.mergeSort fun a b => decide (a.name ≤ b.name)).map
        (CategoryRow.mapTimes Time.Instant.storedText) :=
    (List.map_mergeSort (f := CategoryRow.mapTimes Time.Instant.storedText)
      fun _ _ _ _ => rfl).symm
  show (db.stored.categories.mergeSort _).mapM e.backend.readCategory =
    (db.categories.mergeSort _).mapM s.backend.readCategory
  rw [hsorted]
  apply mapM_map_of_eq
  intro row hrow
  obtain ⟨hcreated, hupdated⟩ := hdb.categories row (List.mem_mergeSort.mp hrow)
  exact h.readCategory hcreated hupdated

theorem readJoined (hdb : db.AllTimes Time.Instant.Storable) {row : AdvertisementRow Time.Instant}
    (hrow : row ∈ db.advertisements) :
    Store.readJoined e.backend db.stored (row.mapTimes Time.Instant.storedText) =
      Store.readJoined s.backend db row := by
  obtain ⟨hcreated, hupdated⟩ := hdb.advertisements row hrow
  simp only [Store.readJoined, Database.stored, category?_mapTimes, Option.map_map,
    AdvertisementRow.mapTimes_categoryId]
  cases db.category? row.categoryId with
  | none => rfl
  | some category => exact congrArg some (h.readAdvertisement hcreated hupdated category.name)

theorem getAdvertisement (hdb : db.AllTimes Time.Instant.Storable) (id : String) :
    (getAdvertisement id e db.stored).answer = (getAdvertisement id s db).answer := by
  have hjoined : (db.stored.advertisement? id).bind (Store.readJoined e.backend db.stored) =
      (db.advertisement? id).bind (Store.readJoined s.backend db) := by
    simp only [Database.stored, advertisement?_mapTimes]
    cases hrow : db.advertisement? id with
    | none => rfl
    | some row => exact h.readJoined hdb (List.mem_of_find?_eq_some hrow)
  simp only [Store.getAdvertisement, Action.query, hjoined]

theorem activeAdvertisements (hdb : db.AllTimes Time.Instant.Storable) :
    (activeAdvertisements e db.stored).answer = (activeAdvertisements s db).answer := by
  have hactive : db.stored.advertisements.filter (fun row => row.isActive) =
      (db.advertisements.filter fun row => row.isActive).map
        (AdvertisementRow.mapTimes Time.Instant.storedText) := by
    simp only [Database.stored, Database.mapTimes, List.filter_map]
    rfl
  have hnewer : ∀ a ∈ db.advertisements.filter (fun row => row.isActive),
      ∀ b ∈ db.advertisements.filter (fun row => row.isActive),
        newerFirst s.backend a b =
          newerFirst e.backend (a.mapTimes Time.Instant.storedText)
            (b.mapTimes Time.Instant.storedText) := by
    intro a ha b hb
    obtain ⟨hacreated, -⟩ := hdb.advertisements a (List.mem_filter.mp ha).1
    obtain ⟨hbcreated, -⟩ := hdb.advertisements b (List.mem_filter.mp hb).1
    simp only [newerFirst, AdvertisementRow.mapTimes, h.compareStamps hbcreated hacreated]
  show (((db.stored.advertisements.filter fun row => row.isActive).mergeSort
      (newerFirst e.backend)).filterMap (Store.readJoined e.backend db.stored)).mapM id =
    (((db.advertisements.filter fun row => row.isActive).mergeSort
      (newerFirst s.backend)).filterMap (Store.readJoined s.backend db)).mapM id
  rw [hactive, ← List.map_mergeSort hnewer, List.filterMap_map]
  congr 1
  apply List.filterMap_congr
  intro row hrow
  exact h.readJoined hdb (List.mem_filter.mp (List.mem_mergeSort.mp hrow)).1

theorem getComment (hdb : db.AllTimes Time.Instant.Storable) (id : String) :
    (getComment id e db.stored).answer = (getComment id s db).answer := by
  simp only [Store.getComment, Action.query, Database.stored, comment?_mapTimes]
  cases hrow : db.comment? id with
  | none => rfl
  | some row => exact h.readComment (hdb.comments row (List.mem_of_find?_eq_some hrow))

end Alongside

end Store
end Noticeboard
