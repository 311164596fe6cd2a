import Noticeboard.Popularity.Event
import Noticeboard.Proofs.InstantForms
import Noticeboard.Proofs.Patches
import Noticeboard.Records.Actor
import Noticeboard.Records.Engagement
import Noticeboard.Search.Request
import Noticeboard.Time.Epoch

/-!
# Records and their data

A record that was read, from an object or from a list, with fields left out or unknown ones among
them, is written as an object with all of its fields, and reading that object gives the same record.
-/

namespace Noticeboard

open Store (bind_eq_ok pure_eq_ok)

namespace Json

/-! ## Objects that are written -/

/-- The members put in their places among others. -/
def placeAmong (placed members : Entries) : Entries :=
  members.foldl (fun placed member => insertMember member.1 member.2 placed) placed

theorem object_eq (members : Entries) : object members = .obj (placeAmong [] members) :=
  rfl

section Placing

variable {key other : String} {value : Json} {members placed : Entries}

theorem lookup_cons_ite :
    ((other, value) :: members).lookup key =
      if key = other then some value else members.lookup key := by
  by_cases h : key = other
  · simp [h]
  · have htest : (key == other) = false := beq_false_of_ne h
    simp [List.lookup_cons, htest, h]

theorem lookup_insertMember :
    (insertMember key value placed).lookup other =
      if other = key then some value else placed.lookup other := by
  induction placed with
  | nil => exact lookup_cons_ite
  | cons first rest ih =>
      obtain ⟨k, v⟩ := first
      unfold insertMember
      split
      next hsame =>
        subst hsame
        simp only [lookup_cons_ite]
        split
        · rfl
        · rfl
      next hapart =>
        split
        · simp only [lookup_cons_ite]
        · simp only [lookup_cons_ite, ih]
          by_cases hk : other = k
          · have hother : other ≠ key := fun h => hapart (h.symm.trans hk)
            rw [if_pos hk, if_neg hother, if_pos hk]
          · rw [if_neg hk, if_neg hk]

theorem mem_insertMember {member : String × Json} (h : member ∈ insertMember key value placed) :
    member = (key, value) ∨ member ∈ placed := by
  induction placed with
  | nil => exact List.mem_cons.mp h
  | cons first rest ih =>
      obtain ⟨k, v⟩ := first
      unfold insertMember at h
      split at h
      · exact (List.mem_cons.mp h).imp_right (List.mem_cons_of_mem _)
      · split at h
        · exact List.mem_cons.mp h
        · rcases List.mem_cons.mp h with hfirst | hrest
          · exact .inr (hfirst ▸ List.mem_cons_self)
          · exact (ih hrest).imp_right (List.mem_cons_of_mem _)

theorem mem_placeAmong {member : String × Json} (h : member ∈ placeAmong placed members) :
    member ∈ members ∨ member ∈ placed := by
  induction members generalizing placed with
  | nil => exact .inr h
  | cons first rest ih =>
      rcases ih h with hrest | hplaced
      · exact .inl (List.mem_cons_of_mem _ hrest)
      · rcases mem_insertMember hplaced with hfirst | hbefore
        · exact .inl (hfirst ▸ List.mem_cons_self)
        · exact .inr hbefore

theorem lookup_placeAmong (hkeys : (members.map Prod.fst).Nodup) :
    (placeAmong placed members).lookup key = (members.lookup key).or (placed.lookup key) := by
  induction members generalizing placed with
  | nil => rfl
  | cons first rest ih =>
      obtain ⟨k, v⟩ := first
      obtain ⟨hnew, hrest⟩ := List.nodup_cons.mp hkeys
      show (placeAmong (insertMember k v placed) rest).lookup key = _
      rw [ih hrest, lookup_insertMember, lookup_cons_ite]
      by_cases hkey : key = k
      · subst hkey
        simp [lookup_eq_none hnew]
      · simp only [if_neg hkey]

theorem lookup_object (hkeys : (members.map Prod.fst).Nodup) :
    (placeAmong [] members).lookup key = members.lookup key := by
  rw [lookup_placeAmong hkeys, List.lookup_nil, Option.or_none]

theorem lookup_of_mem (hkeys : (members.map Prod.fst).Nodup) (h : (key, value) ∈ members) :
    members.lookup key = some value := by
  induction members with
  | nil => contradiction
  | cons first rest ih =>
      obtain ⟨k, v⟩ := first
      obtain ⟨hnew, hrest⟩ := List.nodup_cons.mp hkeys
      rw [lookup_cons_ite]
      rcases List.mem_cons.mp h with hfirst | hlater
      · cases hfirst
        exact if_pos rfl
      · have hkey : key ≠ k := by
          rintro rfl
          exact hnew (List.mem_map.mpr ⟨(key, value), hlater, rfl⟩)
        rw [if_neg hkey]
        exact ih hrest hlater

end Placing

/-! ## Records that are read back -/

namespace RecordReader

variable {α β : Type} {members : Entries} {reader : RecordReader α}

/-- The members, each key among them once, hold what the reader builds a value from, as each field
wants it. -/
structure Takes (reader : RecordReader α) (members : Entries) (a : α) : Prop where
  keys : (members.map Prod.fst).Nodup
  built : reader.build (placeAmong [] members) = .ok a
  checked : ∀ rule ∈ reader.rules, ∀ value, members.lookup rule.name = some value →
    rule.check value = .ok ()

theorem takes_value {a : α} (hkeys : (members.map Prod.fst).Nodup) : (value a).Takes members a :=
  ⟨hkeys, rfl, fun _ hrule => nomatch hrule⟩

theorem Takes.andField {reader : RecordReader (α → β)} {finish : α → β} {rule : FieldRule}
    {get : Option Json → Except Problem α} {given : Json} {a : α}
    (h : reader.Takes members finish) (hlookup : members.lookup rule.name = some given)
    (hget : get (some given) = .ok a) (hcheck : rule.check given = .ok ()) :
    (reader.andField rule get).Takes members (finish a) where
  keys := h.keys
  built := by
    simp only [RecordReader.andField, bind_eq_ok, pure_eq_ok, lookup_object h.keys, hlookup]
    exact ⟨finish, h.built, a, hget, rfl⟩
  checked := by
    intro other hother value hvalue
    rcases List.mem_append.mp hother with hbefore | hlast
    · exact h.checked other hbefore value hvalue
    · obtain rfl := List.mem_singleton.mp hlast
      cases hlookup.symm.trans hvalue
      exact hcheck

section

variable (name : String) {given : Json}

theorem Takes.required {reader : RecordReader (α → β)} {finish : α → β} {a : α}
    (h : reader.Takes members finish) (read : Json → Except Problem α)
    (hlookup : members.lookup name = some given) (hread : read given = .ok a) :
    (reader.required name read).Takes members (finish a) :=
  h.andField hlookup hread (by simp only [hread]; rfl)

theorem Takes.nullable {reader : RecordReader (Option α → β)} {finish : Option α → β}
    {a : Option α} (h : reader.Takes members finish) (read : Json → Except Problem α)
    (hlookup : members.lookup name = some given) (hread : readOptional read given = .ok a) :
    (reader.nullable name read).Takes members (finish a) :=
  h.andField hlookup hread (by simp only [hread]; rfl)

theorem Takes.defaulted {reader : RecordReader (α → β)} {finish : α → β} {a : α}
    (h : reader.Takes members finish) (fallback : α) (read : Json → Except Problem α)
    (hlookup : members.lookup name = some given) (hread : read given = .ok a) :
    (reader.defaulted name fallback read).Takes members (finish a) :=
  h.andField hlookup hread (by simp only [hread]; rfl)

end

theorem checkMembers_open {rules : List FieldRule}
    (h : ∀ member ∈ members, ∀ rule ∈ rules, rule.name = member.1 → rule.check member.2 = .ok ()) :
    checkMembers rules false members = .ok () := by
  induction members with
  | nil => rfl
  | cons member rest ih =>
      obtain ⟨key, value⟩ := member
      have hrest := ih fun other hother => h other (List.mem_cons_of_mem _ hother)
      unfold checkMembers
      cases hrule : rules.find? fun rule => rule.name == key with
      | none => exact hrest
      | some rule =>
          have hname : rule.name = key := by simpa using List.find?_some hrule
          have hcheck := h _ List.mem_cons_self rule (List.mem_of_find?_eq_some hrule) hname
          simp only [hcheck]
          exact hrest

/-- What the members hold is read from the object of them. -/
theorem Takes.read_object {a : α} (h : reader.Takes members a) (shape : String) :
    reader.read shape (object members) = .ok a := by
  have hmembers : checkMembers reader.rules false (placeAmong [] members) = .ok () := by
    apply checkMembers_open
    rintro ⟨key, value⟩ hmember rule hrule rfl
    have hgiven := (mem_placeAmong hmember).resolve_right (by simp)
    exact h.checked rule hrule value (lookup_of_mem h.keys hgiven)
  simp only [RecordReader.read, entries, object_eq, hmembers]
  exact h.built

/-! ## Records that were read -/

/-- Whatever the reader builds has this property. -/
def Builds (reader : RecordReader α) (P : α → Prop) : Prop :=
  ∀ entries a, reader.build entries = .ok a → P a

section

variable {name : String} {read : Json → Except Problem α} {P : β → Prop}

theorem Builds.of_read {reader : RecordReader β} (h : reader.Builds P) {shape : String} {j : Json}
    {b : β} (hread : reader.read shape j = .ok b) : P b := by
  obtain ⟨entries, -, hbuild⟩ := bind_eq_ok.mp hread
  exact h entries b hbuild

theorem builds_value {b : β} (h : P b) : (value b).Builds P := by
  intro entries other hother
  cases hother
  exact h

theorem builds_andField {reader : RecordReader (α → β)} {rule : FieldRule}
    {get : Option Json → Except Problem α}
    (h : reader.Builds fun finish => ∀ given a, get given = .ok a → P (finish a)) :
    (reader.andField rule get).Builds P := by
  intro entries b hbuild
  simp only [RecordReader.andField, bind_eq_ok, pure_eq_ok] at hbuild
  obtain ⟨finish, hfinish, a, ha, rfl⟩ := hbuild
  exact h entries finish hfinish _ a ha

theorem builds_required {reader : RecordReader (α → β)}
    (h : reader.Builds fun finish => ∀ given a, read given = .ok a → P (finish a)) :
    (reader.required name read).Builds P := by
  apply builds_andField
  intro entries finish hfinish given a ha
  cases given with
  | none => contradiction
  | some given => exact h entries finish hfinish given a ha

theorem builds_nullable {reader : RecordReader (Option α → β)}
    (h : reader.Builds fun finish => ∀ a, P (finish a)) :
    (reader.nullable name read).Builds P :=
  builds_andField fun entries finish hfinish _ a _ => h entries finish hfinish a

theorem builds_defaulted {reader : RecordReader (α → β)} {fallback : α}
    (h : reader.Builds fun finish =>
      P (finish fallback) ∧ ∀ given a, read given = .ok a → P (finish a)) :
    (reader.defaulted name fallback read).Builds P := by
  apply builds_andField
  intro entries finish hfinish given a ha
  obtain ⟨hfallback, hgiven⟩ := h entries finish hfinish
  cases given with
  | none =>
      cases ha
      exact hfallback
  | some given => exact hgiven given a ha

end

end RecordReader

/-! ## Values that are written -/

theorem readOptional_ofText (text : Option String) :
    readOptional readText (ofText? text) = .ok text := by
  cases text <;> rfl

theorem readInt64_whole (n : Int64) : readInt64 (whole n.toInt) = .ok n := by
  simp [readInt64, whole, isInt64_toInt]

theorem readSize_whole (n : UInt64) : readSize (whole n.toNat) = .ok n := by
  have hlarge := n.toNat_lt
  have hfits : Decimal.isSize (n.toNat : Int) = true := by
    simp only [Decimal.isSize, Bool.and_eq_true, decide_eq_true_eq]
    omega
  simp [readSize, whole, hfits]

theorem readInstant_instantJson {t : Time.Instant} (h : t.Shown) :
    readInstant (instantJson t) = .ok t := by
  simp only [readInstant, instantJson, Time.readInstant_text h]

theorem shown_of_readInstant {given : Json} {t : Time.Instant} (h : readInstant given = .ok t) :
    t.Shown := by
  cases given with
  | str text =>
      cases hread : Time.readInstant text with
      | ok instant =>
          simp only [readInstant, hread, Except.ok.injEq] at h
          exact h ▸ Time.shown_of_readInstant hread
      | error fault => simp [readInstant, hread] at h
  | _ => contradiction

end Json

open Json RecordReader

/-! ## Categories -/

namespace Category

theorem ofJson_toJson {c : Category} (hcreated : c.createdAt.Shown) (hupdated : c.updatedAt.Shown) :
    ofJson c.toJson = .ok c := by
  refine Takes.read_object ?_ _
  exact takes_value (by simp)
    |>.required "id" readText (by rfl) (by rfl)
    |>.required "name" readText (by rfl) (by rfl)
    |>.nullable "description" readText (by rfl) (readOptional_ofText _)
    |>.required "created_at" readInstant (by rfl) (readInstant_instantJson hcreated)
    |>.required "updated_at" readInstant (by rfl) (readInstant_instantJson hupdated)

theorem reader_builds : reader.Builds fun c => c.createdAt.Shown ∧ c.updatedAt.Shown := by
  refine builds_required <| builds_required <| builds_nullable <| builds_required <|
    builds_required <| builds_value ?_
  intro _ id _ _ name _ description _ created hcreated _ updated hupdated
  exact ⟨shown_of_readInstant hcreated, shown_of_readInstant hupdated⟩

end Category

theorem CategoryDraft.ofJson_toJson (draft : CategoryDraft) : ofJson draft.toJson = .ok draft := by
  refine Takes.read_object ?_ _
  exact takes_value (by simp)
    |>.required "name" readText (by rfl) (by rfl)
    |>.defaulted "description" none (readOptional readText) (by rfl) (readOptional_ofText _)

theorem CategoryPatch.ofJson_toJson (patch : CategoryPatch) : ofJson patch.toJson = .ok patch := by
  obtain ⟨members, hmembers, hread⟩ := readPatch_eq_ok_iff.mp (read_toJson patch)
  rwa [hmembers]

theorem CategoryChoice.ofJson_toJson (choice : CategoryChoice) :
    ofJson choice.toJson = .ok choice := by
  cases choice with
  | existing id => rfl
  | new draft =>
      show (CategoryDraft.ofJson draft.toJson).map CategoryChoice.new = .ok (.new draft)
      rw [CategoryDraft.ofJson_toJson]
      rfl

/-! ## Advertisements -/

namespace Advertisement

theorem ofJson_toJson {a : Advertisement} (hcreated : a.createdAt.Shown)
    (hupdated : a.updatedAt.Shown) : ofJson a.toJson = .ok a := by
  refine Takes.read_object ?_ _
  exact takes_value (by simp)
    |>.required "id" readText (by rfl) (by rfl)
    |>.required "title" readText (by rfl) (by rfl)
    |>.nullable "description" readText (by rfl) (readOptional_ofText _)
    |>.required "creator_id" readText (by rfl) (by rfl)
    |>.required "price_cents" readInt64 (by rfl) (readInt64_whole _)
    |>.required "category_id" readText (by rfl) (by rfl)
    |>.required "category_name" readText (by rfl) (by rfl)
    |>.required "score" readInt64 (by rfl) (readInt64_whole _)
    |>.required "is_active" readBool (by rfl) (by rfl)
    |>.required "created_at" readInstant (by rfl) (readInstant_instantJson hcreated)
    |>.required "updated_at" readInstant (by rfl) (readInstant_instantJson hupdated)

theorem reader_builds : reader.Builds fun a => a.createdAt.Shown ∧ a.updatedAt.Shown := by
  refine builds_required <| builds_required <| builds_required <| builds_required <|
    builds_required <| builds_required <| builds_required <| builds_required <|
    builds_nullable <| builds_required <| builds_required <| builds_value ?_
  intro _ id _ _ title _ description _ creator _ _ price _ _ category _ _ name _ _ score _ _
    active _ _ created hcreated _ updated hupdated
  exact ⟨shown_of_readInstant hcreated, shown_of_readInstant hupdated⟩

end Advertisement

theorem AdvertisementDraft.ofJson_toJson (draft : AdvertisementDraft) :
    ofJson draft.toJson = .ok draft := by
  refine Takes.read_object ?_ _
  exact takes_value (by simp [AdvertisementDraft.members])
    |>.required "title" readText (by rfl) (by rfl)
    |>.defaulted "description" none (readOptional readText) (by rfl) (readOptional_ofText _)
    |>.required "price_cents" readInt64 (by rfl) (readInt64_whole _)

theorem PlacedDraft.ofJson_toJson (placed : PlacedDraft) : ofJson placed.toJson = .ok placed := by
  refine Takes.read_object ?_ _
  exact takes_value (by simp [AdvertisementDraft.members])
    |>.required "title" readText (by rfl) (by rfl)
    |>.defaulted "description" none (readOptional readText) (by rfl) (readOptional_ofText _)
    |>.required "price_cents" readInt64 (by rfl) (readInt64_whole _)
    |>.required "category_id" readText (by rfl) (by rfl)

theorem AdvertisementPatch.ofJson_toJson (patch : AdvertisementPatch) :
    ofJson patch.toJson = .ok patch := by
  obtain ⟨members, hmembers, hread⟩ := readPatch_eq_ok_iff.mp (read_toJson patch)
  rwa [hmembers]

theorem AdvertisementRequest.ofJson_toJson (request : AdvertisementRequest) :
    ofJson request.toJson = .ok request := by
  refine Takes.read_object ?_ _
  exact takes_value (by simp [AdvertisementDraft.members])
    |>.required "title" readText (by rfl) (by rfl)
    |>.defaulted "description" none (readOptional readText) (by rfl) (readOptional_ofText _)
    |>.required "price_cents" readInt64 (by rfl) (readInt64_whole _)
    |>.required "category" CategoryChoice.ofJson (by rfl) (CategoryChoice.ofJson_toJson _)

/-! ## Comments, reactions and actors -/

namespace Comment

theorem ofJson_toJson {c : Comment} (hcreated : c.createdAt.Shown) : ofJson c.toJson = .ok c := by
  refine Takes.read_object ?_ _
  exact takes_value (by simp)
    |>.required "id" readText (by rfl) (by rfl)
    |>.required "advertisement_id" readText (by rfl) (by rfl)
    |>.required "user_id" readText (by rfl) (by rfl)
    |>.required "content" readText (by rfl) (by rfl)
    |>.required "created_at" readInstant (by rfl) (readInstant_instantJson hcreated)

theorem reader_builds : reader.Builds fun c => c.createdAt.Shown := by
  refine builds_required <| builds_required <| builds_required <| builds_required <|
    builds_required <| builds_value ?_
  intro _ id _ _ advertisement _ _ user _ _ content _ _ created hcreated
  exact shown_of_readInstant hcreated

end Comment

theorem CommentDraft.ofJson_toJson (draft : CommentDraft) : ofJson draft.toJson = .ok draft := by
  refine Takes.read_object ?_ _
  exact takes_value (by simp)
    |>.required "advertisement_id" readText (by rfl) (by rfl)
    |>.required "user_id" readText (by rfl) (by rfl)
    |>.required "content" readText (by rfl) (by rfl)

namespace Reaction

theorem ofJson_toJson {r : Reaction} (hcreated : r.createdAt.Shown) : ofJson r.toJson = .ok r := by
  refine Takes.read_object ?_ _
  exact takes_value (by simp)
    |>.required "id" readText (by rfl) (by rfl)
    |>.required "user_id" readText (by rfl) (by rfl)
    |>.required "advertisement_id" readText (by rfl) (by rfl)
    |>.required "created_at" readInstant (by rfl) (readInstant_instantJson hcreated)

theorem reader_builds : reader.Builds fun r => r.createdAt.Shown := by
  refine builds_required <| builds_required <| builds_required <| builds_required <|
    builds_value ?_
  intro _ id _ _ user _ _ advertisement _ _ created hcreated
  exact shown_of_readInstant hcreated

end Reaction

theorem Actor.ofJson_toJson (actor : Actor) : ofJson actor.toJson = .ok actor := by
  refine Takes.read_object ?_ _
  exact takes_value (by simp)
    |>.required "user_id" readText (by rfl) (by rfl)
    |>.defaulted "is_staff" false readBool (by rfl) (by rfl)
    |>.defaulted "is_superuser" false readBool (by rfl) (by rfl)

/-! ## Events, requests and settings -/

namespace ScoreEvent

theorem readKind_name (kind : Kind) : readKind (.str kind.name) = .ok kind := by
  cases kind with
  | commentAdded => rfl
  | commentRemoved => rfl
  | likeAdded => rfl
  | saveAdded => rfl

theorem ofJson_toJson (event : ScoreEvent) : ofJson event.toJson = .ok event := by
  let members : Entries :=
    [("kind", .str event.kind.name), ("advertisement_id", .str event.advertisementId)]
  have hkeys : (members.map Prod.fst).Nodup := by simp [members]
  have hkind : (placeAmong [] members).lookup "kind" = some (.str event.kind.name) :=
    (lookup_object hkeys).trans rfl
  have hid : (placeAmong [] members).lookup "advertisement_id" =
      some (.str event.advertisementId) := (lookup_object hkeys).trans rfl
  show ofJson (.obj (placeAmong [] members)) = .ok event
  simp only [ofJson, hkind, hid, readKind_name, readText]
  rfl

end ScoreEvent

namespace SearchRequest

theorem readAny?_getD {member : Option Json} (h : member ≠ some .null) :
    readAny? (member.getD .null) = .ok member := by
  rcases member with _ | (_ | _ | _ | _ | _ | _)
  case some.null => contradiction
  all_goals rfl

theorem ne_null_of_readAny? {given : Json} {member : Option Json}
    (h : readAny? given = .ok member) : member ≠ some .null := by
  cases given <;> cases h <;> nofun

theorem ofJson_toJson {request : SearchRequest} (hquery : request.query ≠ some .null)
    (hpage : request.pageNo ≠ some .null) : ofJson request.toJson = .ok request := by
  refine Takes.read_object ?_ _
  exact takes_value (by simp)
    |>.defaulted "query" none readAny? (by rfl) (readAny?_getD hquery)
    |>.defaulted "page_no" none readAny? (by rfl) (readAny?_getD hpage)

theorem reader_builds :
    reader.Builds fun request => request.query ≠ some .null ∧ request.pageNo ≠ some .null := by
  refine builds_defaulted <| builds_defaulted <| builds_value ⟨⟨⟨nofun, nofun⟩, ?_⟩, ?_⟩
  · intro _ page hpage
    exact ⟨nofun, ne_null_of_readAny? hpage⟩
  · intro _ query hquery
    refine ⟨⟨ne_null_of_readAny? hquery, nofun⟩, fun _ page hpage => ?_⟩
    exact ⟨ne_null_of_readAny? hquery, ne_null_of_readAny? hpage⟩

end SearchRequest

theorem EngineSettings.ofJson_toJson (settings : EngineSettings) :
    ofJson settings.toJson = .ok settings := by
  refine Takes.read_object ?_ _
  exact takes_value (by simp)
    |>.defaulted "comment_weight" standard.commentWeight readInt64 (by rfl) (readInt64_whole _)
    |>.defaulted "like_weight" standard.likeWeight readInt64 (by rfl) (readInt64_whole _)
    |>.defaulted "save_weight" standard.saveWeight readInt64 (by rfl) (readInt64_whole _)
    |>.defaulted "match_threshold" standard.matchThreshold readFloat (by rfl) (by rfl)
    |>.defaulted "page_size" standard.pageSize readSize (by rfl) (readSize_whole _)

/-! ## Every kind of record -/

/-- A record that was read is read again from what is written for it, so to write it, read it and
write it once more changes nothing. -/
structure Survives {α : Type} (read : Json → Except Problem α) (write : α → Json) : Prop where
  again : ∀ j a, read j = .ok a → read (write a) = .ok a
  settled : ∀ j a, read j = .ok a → (read (write a)).map write = .ok (write a)

theorem survives_of {α : Type} {read : Json → Except Problem α} {write : α → Json}
    (h : ∀ j a, read j = .ok a → read (write a) = .ok a) : Survives read write where
  again := h
  settled j a hread := by
    rw [h j a hread]
    rfl

theorem records_survive :
    Survives Category.ofJson Category.toJson ∧
    Survives CategoryDraft.ofJson CategoryDraft.toJson ∧
    Survives CategoryPatch.ofJson CategoryPatch.toJson ∧
    Survives Advertisement.ofJson Advertisement.toJson ∧
    Survives PlacedDraft.ofJson PlacedDraft.toJson ∧
    Survives AdvertisementDraft.ofJson AdvertisementDraft.toJson ∧
    Survives AdvertisementPatch.ofJson AdvertisementPatch.toJson ∧
    Survives Comment.ofJson Comment.toJson ∧
    Survives CommentDraft.ofJson CommentDraft.toJson ∧
    Survives Reaction.ofJson Reaction.toJson ∧
    Survives Actor.ofJson Actor.toJson ∧
    Survives CategoryChoice.ofJson CategoryChoice.toJson ∧
    Survives AdvertisementRequest.ofJson AdvertisementRequest.toJson ∧
    Survives ScoreEvent.ofJson ScoreEvent.toJson ∧
    Survives SearchRequest.ofJson SearchRequest.toJson ∧
    Survives EngineSettings.ofJson EngineSettings.toJson := by
  refine ⟨?category, ?categoryDraft, ?categoryPatch, ?advertisement, ?placedDraft,
    ?advertisementDraft, ?advertisementPatch, ?comment, ?commentDraft, ?reaction, ?actor,
    ?categoryChoice, ?advertisementRequest, ?scoreEvent, ?searchRequest, ?engineSettings⟩
  case category =>
    refine survives_of fun j category hread => ?_
    obtain ⟨hcreated, hupdated⟩ := Category.reader_builds.of_read hread
    exact Category.ofJson_toJson hcreated hupdated
  case categoryDraft => exact survives_of fun _ draft _ => draft.ofJson_toJson
  case categoryPatch => exact survives_of fun _ patch _ => patch.ofJson_toJson
  case advertisement =>
    refine survives_of fun j advertisement hread => ?_
    obtain ⟨hcreated, hupdated⟩ := Advertisement.reader_builds.of_read hread
    exact Advertisement.ofJson_toJson hcreated hupdated
  case placedDraft => exact survives_of fun _ placed _ => placed.ofJson_toJson
  case advertisementDraft => exact survives_of fun _ draft _ => draft.ofJson_toJson
  case advertisementPatch => exact survives_of fun _ patch _ => patch.ofJson_toJson
  case comment =>
    refine survives_of fun j comment hread => ?_
    exact Comment.ofJson_toJson (Comment.reader_builds.of_read hread)
  case commentDraft => exact survives_of fun _ draft _ => draft.ofJson_toJson
  case reaction =>
    refine survives_of fun j reaction hread => ?_
    exact Reaction.ofJson_toJson (Reaction.reader_builds.of_read hread)
  case actor => exact survives_of fun _ actor _ => actor.ofJson_toJson
  case categoryChoice => exact survives_of fun _ choice _ => choice.ofJson_toJson
  case advertisementRequest => exact survives_of fun _ request _ => request.ofJson_toJson
  case scoreEvent => exact survives_of fun _ event _ => event.ofJson_toJson
  case searchRequest =>
    refine survives_of fun j request hread => ?_
    obtain ⟨hquery, hpage⟩ := SearchRequest.reader_builds.of_read hread
    exact SearchRequest.ofJson_toJson hquery hpage
  case engineSettings => exact survives_of fun _ settings _ => settings.ofJson_toJson

/-- Half a second past 21:30 on the last day of February. -/
def leapDay : Time.Instant :=
  { Time.Instant.sinceEpoch (21 * 3600 + 30 * 60) 500000000 with
    date := { year := 2024, month := 2, day := 29 } }

/-- The sixtieth second of the first minute of March. -/
def leapSecond : Time.Instant :=
  { Time.Instant.sinceEpoch 59 0 with
    date := { year := 2024, month := 3, day := 1 }
    nano := 1000000000
    nano_lt := by decide }

/-- An advertisement, and how it may be given with its times at other offsets. -/
def roadBike : Advertisement :=
  ⟨"a1", "Road bike", some "Steel", "ann", 25000, "c1", "bikes", -3, true, leapDay, leapSecond⟩

def roadBikeGiven : Json :=
  Json.object
    [("id", .str "a1"), ("title", .str "Road bike"), ("description", .str "Steel"),
      ("creator_id", .str "ann"), ("price_cents", Json.whole 25000), ("category_id", .str "c1"),
      ("category_name", .str "bikes"), ("score", Json.whole (-3)), ("is_active", .bool true),
      ("created_at", .str "2024-02-29T23:30:00.5+02:00"),
      ("updated_at", .str "2024-03-01T01:00:60+01:00")]

/-- A list with times at an offset and without leading zeros, an object with a field left out and an
unknown one, the object of an advertisement, an object with one key, and a tagged list. -/
theorem records_survive_as_given :
    (∃ c, Category.ofJson (.arr [.str "c1", .str "bikes", .null,
        .str "2024-02-29T23:30:00.5+02:00", .str " 2024-3-1 0:0:60 utc"]) = .ok c ∧
      Category.ofJson c.toJson = .ok c) ∧
    (∃ draft, CategoryDraft.ofJson (.obj [("colour", .null), ("name", .str "Bikes")]) = .ok draft ∧
      CategoryDraft.ofJson draft.toJson = .ok draft) ∧
    (Advertisement.ofJson roadBikeGiven = .ok roadBike ∧
      Advertisement.ofJson roadBike.toJson = .ok roadBike) ∧
    (∃ choice, CategoryChoice.ofJson (.obj [("new", .arr [.str "Bikes"])]) = .ok choice ∧
      CategoryChoice.ofJson choice.toJson = .ok choice) ∧
    ∃ event, ScoreEvent.ofJson (.arr [.str "like_added", .str "a1"]) = .ok event ∧
      ScoreEvent.ofJson event.toJson = .ok event := by
  obtain ⟨hcategory, hdraft, -, hadvertisement, -, -, -, -, -, -, -, hchoice, -, hevent, -⟩ :=
    records_survive
  have hread : Category.ofJson (.arr [.str "c1", .str "bikes", .null,
      .str "2024-02-29T23:30:00.5+02:00", .str " 2024-3-1 0:0:60 utc"]) =
      .ok ⟨"c1", "bikes", none, leapDay, leapSecond⟩ := Store.ok_of_toOption (by decide +kernel)
  have hnamed : CategoryDraft.ofJson (.obj [("colour", .null), ("name", .str "Bikes")]) =
      .ok ⟨"Bikes", none⟩ := rfl
  have hbike : Advertisement.ofJson roadBikeGiven = .ok roadBike :=
    Store.ok_of_toOption (by decide +kernel)
  have hnew : CategoryChoice.ofJson (.obj [("new", .arr [.str "Bikes"])]) =
      .ok (.new ⟨"Bikes", none⟩) := rfl
  have hliked : ScoreEvent.ofJson (.arr [.str "like_added", .str "a1"]) = .ok ⟨.likeAdded, "a1"⟩ :=
    rfl
  refine ⟨⟨_, hread, ?_⟩, ⟨_, hnamed, ?_⟩, ⟨hbike, ?_⟩, ⟨_, hnew, ?_⟩, ⟨_, hliked, ?_⟩⟩
  · exact hcategory.again _ _ hread
  · exact hdraft.again _ _ hnamed
  · exact hadvertisement.again _ _ hbike
  · exact hchoice.again _ _ hnew
  · exact hevent.again _ _ hliked

end Noticeboard
