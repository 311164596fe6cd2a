import Noticeboard.Proofs.ExactPoints
import Noticeboard.Proofs.Listings

/-!
# The order of stored times

The embedded database sorts its listing by the texts of the times.  Those are read back as they
were, and their bytes are in the order of the points on the time line, so the listing is in the
order of time, which is the order of a ranking among equal scores.
-/

namespace Noticeboard

open Store Text

namespace Store

variable {backend : Backend String} {session : Session String} {db : Database String}

/-- A time that the store writes: no leap second, to the microsecond, its year in four digits. -/
def WrittenTime (stamp : String) : Prop :=
  ∃ t : Time.Instant, t.Storable ∧ t.storedText = stamp

theorem stamp_of_storable {t : Time.Instant} (h : t.Storable) :
    Backend.embedded.stamp t = t.storedText := by
  have hmicros : t.toMicros = t := by
    simp [Time.Instant.toMicros, h.micros]
  simp only [Backend.embedded, hmicros]

theorem readStamp_storedText {t : Time.Instant} (h : t.Storable) (column : String) :
    Backend.embedded.readStamp column t.storedText = .ok t := by
  simp only [Backend.embedded, h.readStored_storedText]
  rfl

theorem encode_storedText_lt_iff {t u : Time.Instant} (ht : t.Storable) (hu : u.Storable) :
    Utf8.encode t.storedText < Utf8.encode u.storedText ↔
      t.nanosSinceEpoch < u.nanosSinceEpoch := by
  have htexts : Ord.compare t.storedText u.storedText = t.compare u := ht.compare_storedText hu
  have hline : Ord.compare t.nanosSinceEpoch u.nanosSinceEpoch = t.compare u :=
    Time.Instant.compare_nanosSinceEpoch ht.noLeap hu.noLeap
  calc
    Utf8.encode t.storedText < Utf8.encode u.storedText ↔
        Ord.compare t.storedText u.storedText = .lt := compareStamps_embedded.symm
    _ ↔ Ord.compare t.nanosSinceEpoch u.nanosSinceEpoch = .lt := by rw [htexts, hline]
    _ ↔ t.nanosSinceEpoch < u.nanosSinceEpoch := Int.compare_eq_lt

/-- Later ones first, and among those of one time by ascending id. -/
def CreatedLater (a b : Advertisement) : Prop :=
  b.createdAt.nanosSinceEpoch < a.createdAt.nanosSinceEpoch ∨
    b.createdAt = a.createdAt ∧ Utf8.encode a.id ≤ Utf8.encode b.id

theorem readJoined_createdAt {row : AdvertisementRow String} {t : Time.Instant}
    {advertisement : Advertisement} (ht : t.Storable) (hstamp : t.storedText = row.createdAt)
    (hread : readJoined .embedded db row = some (.ok advertisement)) :
    advertisement.createdAt = t ∧ advertisement.id = row.id := by
  have hrow := readJoined_eq_ok hread
  have hcreated := hrow.created
  rw [← hstamp, readStamp_storedText ht, Except.ok.injEq] at hcreated
  exact ⟨hcreated.symm, hrow.shown.id⟩

/-- Rows in the order of their texts are read as records in the order of time. -/
theorem createdLater_of_listedBefore {row other : AdvertisementRow String}
    {a b : Advertisement} (hrow : WrittenTime row.createdAt) (hother : WrittenTime other.createdAt)
    (ha : readJoined .embedded db row = some (.ok a))
    (hb : readJoined .embedded db other = some (.ok b)) (h : ListedBefore .embedded row other) :
    CreatedLater a b := by
  obtain ⟨t, ht, hstamp⟩ := hrow
  obtain ⟨u, hu, hstamp'⟩ := hother
  have hfirst := readJoined_createdAt ht hstamp ha
  have hsecond := readJoined_createdAt hu hstamp' hb
  unfold CreatedLater
  rw [hfirst.1, hfirst.2, hsecond.1, hsecond.2]
  rcases h with hlater | ⟨hsame, hid⟩
  · rw [compareStamps_embedded, ← hstamp, ← hstamp', encode_storedText_lt_iff hu ht] at hlater
    exact .inl hlater
  · have hread := readStamp_storedText hu ""
    rw [hstamp', hsame, ← hstamp, readStamp_storedText ht] at hread
    exact .inr ⟨(Except.ok.inj hread).symm, hid⟩

theorem CreatedLater.precedes {a b : Advertisement} (h : CreatedLater a b)
    (ha : a.createdAt.nano < 1000000000) (hb : b.createdAt.nano < 1000000000) (score : Float) :
    Ranking.precedes (⟨a, score⟩ : Candidate Advertisement) ⟨b, score⟩ = true := by
  have htimes := Time.Instant.compare_nanosSinceEpoch hb ha
  have hscores : Ord.compare (Ranking.scoreKey score) (Ranking.scoreKey score) = .eq :=
    Int.compare_eq_eq.mpr rfl
  rw [Ranking.precedes_iff, Ranking.compare, hscores]
  show ((b.createdAt.compare a.createdAt).then (Ord.compare a.id b.id)).isLE = true
  rw [← htimes, Ordering.isLE_then_iff_or, Int.compare_eq_lt,
    Utf8.compare_isLE_iff]
  refine h.imp_right fun hsame => ⟨?_, hsame.2⟩
  rw [hsame.1]
  exact Int.compare_eq_eq.mpr rfl

theorem readJoined_of_whole {row : AdvertisementRow String} (hrow : row ∈ db.advertisements)
    (hcategory : db.hasCategory row.categoryId = true) (htimes : db.AllTimes WrittenTime)
    (hwhole : ∃ n : Int64, row.score = .whole n) :
    ∃ advertisement, readJoined .embedded db row = some (.ok advertisement) := by
  obtain ⟨n, hscore⟩ := hwhole
  obtain ⟨category, hfound⟩ := category?_of_hasCategory hcategory
  have hstamps {stamp : String} (h : WrittenTime stamp) : Backend.embedded.Stamps stamp := by
    obtain ⟨t, ht, rfl⟩ := h
    exact ⟨t, .embedded ht.year, by rw [stamp_of_storable ht]⟩
  have hrowTimes := htimes.advertisements row hrow
  obtain ⟨advertisement, hread⟩ := readAdvertisement_ok category.name hscore
    (hstamps hrowTimes.1) (hstamps hrowTimes.2)
  exact ⟨advertisement, by simp [readJoined, hfound, hread]⟩

end Store

/-- A listing shows exactly the active advertisements in the order of time, and a ranking would not
put any of them, with equal scores, in another order. -/
def ListsByTime (session : Session String) (db : Database String) : Prop :=
  ∃ rows items, (activeAdvertisements session db).answer = .ok items ∧
    rows.Perm (db.advertisements.filter fun row => row.isActive) ∧
    List.Forall₂ (fun row item => readJoined .embedded db row = some (.ok item)) rows items ∧
    items.Pairwise CreatedLater ∧
    items.Pairwise fun a b => ∀ score : Float,
      Ranking.precedes (⟨a, score⟩ : Candidate Advertisement) ⟨b, score⟩ = true

theorem listsByTime_of_whole {session : Session String} {db : Database String}
    (hbackend : session.backend = .embedded) (htimes : db.AllTimes WrittenTime)
    (hreferences : ∀ row ∈ db.advertisements, db.hasCategory row.categoryId = true)
    (hwhole : ∀ row ∈ db.advertisements, row.isActive = true → ∃ n : Int64, row.score = .whole n) :
    ListsByTime session db := by
  have hsupplied : session.backend.Supplied := hbackend ▸ .embedded
  obtain ⟨items, hanswer, rows, hperm, hsorted, hreads⟩ :=
    activeAdvertisements_ok hsupplied fun row hrow hactive => by
      rw [hbackend]
      exact readJoined_of_whole hrow (hreferences row hrow) htimes (hwhole row hrow hactive)
  rw [hbackend] at hsorted hreads
  have hwritten : ∀ row ∈ rows, WrittenTime row.createdAt := by
    intro row hrow
    have hactive := List.mem_filter.mp (hperm.mem_iff.mp hrow)
    exact (htimes.advertisements row hactive.1).1
  have hlater : items.Pairwise CreatedLater :=
    pairwise_of_forall₂ hreads hsorted fun row hrow other hother a b ha hb hlisted =>
      createdLater_of_listedBefore (hwritten row hrow) (hwritten other hother) ha hb hlisted
  have hnanos : ∀ item ∈ items, item.createdAt.nano < 1000000000 := by
    intro item hitem
    obtain ⟨row, hrow, hread⟩ := row_of_item hreads item hitem
    obtain ⟨t, ht, hstamp⟩ := hwritten row hrow
    rw [(readJoined_createdAt ht hstamp hread).1]
    exact ht.noLeap
  refine ⟨rows, items, hanswer, hperm, hreads, hlater, ?_⟩
  exact hlater.imp_of_mem fun ha hb hab score =>
    hab.precedes (hnanos _ ha) (hnanos _ hb) score

/-- Stored times are read as they were and are in the order of their bytes.  So, in tables in which
the store wrote all times, a listing shows the active advertisements, the newest first, just when
all of their scores are integers. -/
theorem stored_times_keep_value_and_order {session : Session String} {db : Database String}
    (hbackend : session.backend = .embedded) (htimes : db.AllTimes WrittenTime)
    (hreferences : ∀ row ∈ db.advertisements, db.hasCategory row.categoryId = true) :
    (∀ (t : Time.Instant) (column : String), t.Storable →
      Backend.embedded.readStamp column t.storedText = .ok t) ∧
    (∀ t u : Time.Instant, t.Storable → u.Storable →
      (Utf8.encode t.storedText < Utf8.encode u.storedText ↔
        t.nanosSinceEpoch < u.nanosSinceEpoch)) ∧
    (ListsByTime session db ↔
      ∀ row ∈ db.advertisements, row.isActive = true → ∃ n : Int64, row.score = .whole n) := by
  refine ⟨fun t column ht => readStamp_storedText ht column,
    fun t u ht hu => encode_storedText_lt_iff ht hu, ?_,
    listsByTime_of_whole hbackend htimes hreferences⟩
  rintro ⟨rows, items, -, hperm, hreads, -⟩ row hrow hactive
  have hlisted : row ∈ rows := by
    rw [hperm.mem_iff, List.mem_filter]
    exact ⟨hrow, hactive⟩
  obtain ⟨item, -, hread⟩ := item_of_row hreads row hlisted
  exact ⟨item.score, (readJoined_eq_ok hread).shown.score⟩

namespace Board

/-- On a clock without leap seconds the store writes no other times. -/
theorem run_written {board : Board String} (hbackend : board.backend = .embedded)
    {turns : List Turn} (hclock : ∀ turn ∈ turns, turn.now.Ordinary) :
    (board.run .empty turns).AllTimes WrittenTime := by
  refine run_keeps .empty fun turn hturn db after h hchanged => h.changed ?_ hchanged
  show WrittenTime (board.backend.stamp turn.now)
  rw [hbackend]
  exact ⟨turn.now.toMicros, (hclock turn hturn).toMicros, rfl⟩

theorem listed_in_order_of_time :
    let db := listedBoard.run .empty listedHistory
    ∃ items, (activeAdvertisements listedSession db).answer = .ok items ∧
      items.length = 2 ∧ items.Pairwise CreatedLater := by
  intro db
  obtain ⟨-, -, hlistings⟩ := @stored_times_keep_value_and_order listedSession db rfl
    (run_written rfl listedHistory_ordinary)
    (run_consistent .empty listedHistory).advertisementReferences
  obtain ⟨rows, items, hanswer, hperm, hreads, hlater, -⟩ :=
    hlistings.mpr fun row hrow _ => listedBoard_legible.whole row hrow
  have hactive : (db.advertisements.filter fun row => row.isActive).length = 2 := rfl
  refine ⟨items, hanswer, ?_, hlater⟩
  rw [← hreads.length_eq, hperm.length_eq, hactive]

/-- A listing fails, although its times are in order, if a score has left the integers. -/
theorem unlisted_past_the_limits :
    let db := offScaleBoard.run .empty (publishedHistory ++ [bobsLike, evesLike])
    db.AllTimes WrittenTime ∧ db.Consistent ∧
      ∀ session, ¬ ∃ items, (activeAdvertisements session db).answer = .ok items := by
  intro db
  have hordinary : ∀ turn ∈ publishedHistory ++ [bobsLike, evesLike], turn.now.Ordinary := by
    have hnow : ∀ turn ∈ publishedHistory ++ [bobsLike, evesLike], turn.now = sampleNow := by
      decide
    intro turn hturn
    rw [hnow turn hturn]
    exact ⟨by decide, by decide⟩
  have hconsistent : db.Consistent := run_consistent .empty _
  have hscale : db.OffScale "a1" := by decide +kernel
  have hactive : (db.advertisement? "a1").map AdvertisementRow.isActive = some true := rfl
  obtain ⟨row, x, hrow, hscore⟩ := hscale
  rw [hrow, Option.map_some, Option.some.injEq] at hactive
  refine ⟨run_written rfl hordinary, hconsistent, fun session => ?_⟩
  rintro ⟨items, hlisted⟩
  have hmem : row ∈ db.advertisements := List.mem_of_find?_eq_some hrow
  have hstuck : ∃ failure, (activeAdvertisements session db).answer = .error failure :=
    activeAdvertisements_offScale hconsistent hmem hactive hscore
  obtain ⟨failure, hfailed⟩ := hstuck
  rw [hlisted] at hfailed
  contradiction

end Board
end Noticeboard
