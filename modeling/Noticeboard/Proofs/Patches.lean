import Mathlib.Data.List.Forall2
import Mathlib.Data.String.Basic
import Noticeboard.Proofs.Backends
import Noticeboard.Proofs.Statements
import Noticeboard.Records.Advertisement

/-!
# Patches

A patch is an object of members that all name fields which can be edited, each with null or a value
of its field's kind.  A description that is left out is kept, and null clears it; of the other
fields null says no more than leaving them out.  What is written for a patch is read as that patch.
-/

namespace Noticeboard

open Store (bind_eq_ok pure_eq_ok)

namespace Json

/-! ## Fields -/

inductive FieldKind where
  | text
  | int64
  deriving DecidableEq

/-- Every field may be null. -/
def FieldKind.Holds : FieldKind → Json → Prop
  | _, .null => True
  | .text, .str _ => True
  | .int64, .num (.whole n) => Decimal.isInt64 n = true
  | _, _ => False

/-- An object in which every member is one of the fields and of its kind. -/
def Fits (fields : List (String × FieldKind)) : Json → Prop
  | .obj members => ∀ member ∈ members,
      ∃ kind, fields.lookup member.1 = some kind ∧ kind.Holds member.2
  | _ => False

/-- What a member gives for a text. -/
inductive GivesText : Option Json → Option String → Prop where
  | absent : GivesText none none
  | null : GivesText (some .null) none
  | text (value : String) : GivesText (some (.str value)) (some value)

inductive GivesInt64 : Option Json → Option Int64 → Prop where
  | absent : GivesInt64 none none
  | null : GivesInt64 (some .null) none
  | number (value : Int64) : GivesInt64 (some (.num (.whole value.toInt))) (some value)

inductive GivesEdit : Option Json → Edit String → Prop where
  | absent : GivesEdit none .keep
  | null : GivesEdit (some .null) .clear
  | text (value : String) : GivesEdit (some (.str value)) (.set value)

theorem GivesText.eq_none_iff {member : Option Json} {given : Option String}
    (h : GivesText member given) : given = none ↔ member = none ∨ member = some .null := by
  cases h <;> simp

theorem GivesInt64.eq_none_iff {member : Option Json} {given : Option Int64}
    (h : GivesInt64 member given) : given = none ↔ member = none ∨ member = some .null := by
  cases h <;> simp

theorem GivesEdit.eq_keep_iff {member : Option Json} {given : Edit String}
    (h : GivesEdit member given) : given = .keep ↔ member = none := by
  cases h <;> simp

theorem GivesEdit.eq_clear_iff {member : Option Json} {given : Edit String}
    (h : GivesEdit member given) : given = .clear ↔ member = some .null := by
  cases h <;> simp

theorem GivesEdit.eq_set_iff {member : Option Json} {given : Edit String}
    (h : GivesEdit member given) (text : String) :
    given = .set text ↔ member = some (.str text) := by
  cases h <;> simp

/-! ## Closed records -/

section Records

variable {α β : Type} {rules : List FieldRule} {fields : List (String × FieldKind)}
  {members : Entries} {key : String} {value : Json}

theorem checkMembers_eq_ok_iff :
    RecordReader.checkMembers rules true members = .ok () ↔
      ∀ member ∈ members, ∃ rule, rules.find? (fun rule => rule.name == member.1) = some rule ∧
        rule.check member.2 = .ok () := by
  induction members with
  | nil => simp [RecordReader.checkMembers]
  | cons member rest ih =>
      obtain ⟨key, value⟩ := member
      rw [List.forall_mem_cons, ← ih, RecordReader.checkMembers]
      cases rules.find? fun rule => rule.name == key with
      | none => simp
      | some rule => simp [bind_eq_ok, Unique.exists_iff]

/-- A rule for a field lets through what the field may hold. -/
def Checks (rule : FieldRule) (field : String × FieldKind) : Prop :=
  rule.name = field.1 ∧ ∀ value, rule.check value = .ok () ↔ field.2.Holds value

theorem find?_of_checks (h : List.Forall₂ Checks rules fields) :
    (∃ rule, rules.find? (fun rule => rule.name == key) = some rule ∧
        rule.check value = .ok ()) ↔
      ∃ kind, fields.lookup key = some kind ∧ kind.Holds value := by
  induction h with
  | nil => simp
  | @cons rule field rules fields hfirst _ ih =>
      obtain ⟨name, kind⟩ := field
      have hname : rule.name = name := hfirst.1
      have hcheck := hfirst.2 value
      by_cases hkey : name = key
      · simp [hname, hkey, hcheck]
      · have hother : (key == name) = false := beq_false_of_ne (Ne.symm hkey)
        simpa [List.lookup_cons, hname, hkey, hother] using ih

theorem readClosed_eq_ok_iff {reader : RecordReader α} {shape : String} {a : α}
    (h : List.Forall₂ Checks reader.rules fields) :
    reader.readClosed shape (.obj members) = .ok a ↔
      Fits fields (.obj members) ∧ reader.build members = .ok a := by
  have hchecked : RecordReader.checkMembers reader.rules true members = .ok () ↔
      Fits fields (.obj members) := by
    rw [checkMembers_eq_ok_iff]
    exact forall₂_congr fun member _ => find?_of_checks h
  rw [← hchecked]
  simp [RecordReader.readClosed, RecordReader.entries, bind_eq_ok, Unique.exists_iff]

/-! ## Building a record -/

theorem build_value_eq_ok {a b : α} : (RecordReader.value a).build members = .ok b ↔ b = a := by
  simp [RecordReader.value, eq_comm]

theorem build_nullable_eq_ok {reader : RecordReader (Option α → β)} {name : String}
    {read : Json → Except Problem α} {b : β} :
    (reader.nullable name read).build members = .ok b ↔
      ∃ finish a, reader.build members = .ok finish ∧
        (members.lookup name).elim (.ok none) (readOptional read) = .ok a ∧ b = finish a := by
  simp only [RecordReader.nullable, RecordReader.andField, bind_eq_ok, pure_eq_ok]
  cases members.lookup name <;> simp

theorem build_defaulted_eq_ok {reader : RecordReader (α → β)} {name : String} {fallback : α}
    {read : Json → Except Problem α} {b : β} :
    (reader.defaulted name fallback read).build members = .ok b ↔
      ∃ finish a, reader.build members = .ok finish ∧
        (members.lookup name).elim (.ok fallback) read = .ok a ∧ b = finish a := by
  simp only [RecordReader.defaulted, RecordReader.andField, bind_eq_ok, pure_eq_ok]
  cases members.lookup name <;> simp

end Records

/-! ## Kinds of fields -/

theorem isInt64_toInt (n : Int64) : Decimal.isInt64 n.toInt = true := by
  have hleast := n.le_toInt
  have hgreatest := n.toInt_lt
  simp only [Decimal.isInt64, Bool.and_eq_true, decide_eq_true_eq]
  omega

theorem readOptional_readText_eq_ok {member : Option Json} {given : Option String} :
    member.elim (.ok none) (readOptional readText) = .ok given ↔ GivesText member given := by
  constructor
  · intro h
    rcases member with _ | (_ | _ | _ | text | _ | _)
    all_goals simp [readOptional, readText, Except.map] at h
    all_goals subst h
    · exact .absent
    · exact .null
    · exact .text text
  · intro h
    cases h <;> rfl

theorem readOptional_readInt64_eq_ok {member : Option Json} {given : Option Int64} :
    member.elim (.ok none) (readOptional readInt64) = .ok given ↔ GivesInt64 member given := by
  constructor
  · intro h
    rcases member with _ | (_ | _ | (n | _) | _ | _ | _)
    case some.num.whole =>
      by_cases hfits : Decimal.isInt64 n = true
      · have hsame : (Int64.ofInt n).toInt = n := Store.toInt_ofInt_of_isInt64 hfits
        simp [readOptional, readInt64, Except.map, hfits] at h
        subst h
        have hgives := GivesInt64.number (Int64.ofInt n)
        rwa [hsame] at hgives
      · simp [readOptional, readInt64, Except.map, hfits] at h
    all_goals simp [readOptional, readInt64, Except.map] at h
    all_goals subst h
    · exact .absent
    · exact .null
  · intro h
    cases h with
    | absent => rfl
    | null => rfl
    | number value => simp [readOptional, readInt64, Except.map, isInt64_toInt]

theorem readEdit_eq_ok {member : Option Json} {given : Edit String} :
    member.elim (.ok .keep) Edit.read = .ok given ↔ GivesEdit member given := by
  constructor
  · intro h
    rcases member with _ | (_ | _ | _ | text | _ | _)
    all_goals simp [Edit.read, readOptional, readText, Except.map] at h
    all_goals subst h
    · exact .absent
    · exact .null
    · exact .text text
  · intro h
    cases h <;> rfl

/-! ## What fits -/

theorem checks_text {name : String} :
    Checks ⟨name, .nullable, fun value => (readOptional readText value).map fun _ => ()⟩
      (name, .text) := by
  refine ⟨rfl, fun value => ?_⟩
  cases value <;> simp [readOptional, readText, Except.map, FieldKind.Holds]

theorem checks_int64 {name : String} :
    Checks ⟨name, .nullable, fun value => (readOptional readInt64 value).map fun _ => ()⟩
      (name, .int64) := by
  refine ⟨rfl, fun value => ?_⟩
  rcases value with _ | _ | (n | _) | _ | _ | _
  case num.whole =>
    by_cases hfits : Decimal.isInt64 n = true
    · simp [readOptional, readInt64, Except.map, FieldKind.Holds, hfits]
    · simp [readOptional, readInt64, Except.map, FieldKind.Holds, hfits]
  all_goals simp [readOptional, readInt64, Except.map, FieldKind.Holds]

theorem checks_edit {name : String} :
    Checks ⟨name, .defaulted, fun value => (Edit.read value).map fun _ => ()⟩ (name, .text) := by
  refine ⟨rfl, fun value => ?_⟩
  cases value <;> simp [Edit.read, readOptional, readText, Except.map, FieldKind.Holds]

theorem mem_of_lookup {α : Type} {l : List (String × α)} {key : String} {a : α}
    (h : l.lookup key = some a) : (key, a) ∈ l := by
  induction l with
  | nil => simp at h
  | cons first rest ih =>
      obtain ⟨name, b⟩ := first
      by_cases hkey : key = name
      · subst hkey
        obtain rfl : b = a := by simpa using h
        exact List.mem_cons_self
      · have hother : (key == name) = false := beq_false_of_ne hkey
        rw [List.lookup_cons, hother] at h
        exact List.mem_cons_of_mem _ (ih h)

theorem lookup_eq_none {α : Type} {l : List (String × α)} {key : String}
    (h : key ∉ l.map Prod.fst) : l.lookup key = none := by
  cases hfound : l.lookup key with
  | none => rfl
  | some a => exact absurd (List.mem_map_of_mem (mem_of_lookup hfound)) h

section Fitting

variable {fields : List (String × FieldKind)} {j : Json} {key : String} {value : Json}

theorem Fits.holds (h : Fits fields j) (hmember : j.member? key = some value) :
    ∃ kind, fields.lookup key = some kind ∧ kind.Holds value := by
  cases j with
  | obj members => exact h (key, value) (mem_of_lookup hmember)
  | _ => exact h.elim

theorem Fits.member?_eq_none (h : Fits fields j) (hkey : fields.lookup key = none) :
    j.member? key = none := by
  cases hmember : j.member? key with
  | none => rfl
  | some value =>
      obtain ⟨kind, hkind, -⟩ := h.holds hmember
      rw [hkey] at hkind
      contradiction

theorem Fits.gives {β : Type} {Gives : Option Json → β → Prop} {kind : FieldKind} {absent : β}
    (h : Fits fields j) (key : String) (hkey : fields.lookup key = some kind)
    (habsent : Gives none absent)
    (hpresent : ∀ value, kind.Holds value → ∃ given, Gives (some value) given) :
    ∃ given, Gives (j.member? key) given := by
  cases hmember : j.member? key with
  | none => exact ⟨absent, habsent⟩
  | some value =>
      obtain ⟨found, hfound, hholds⟩ := h.holds hmember
      have hkind : kind = found := Option.some.inj (hkey.symm.trans hfound)
      exact hpresent value (hkind ▸ hholds)

theorem givesText_of_holds (value : Json) (h : FieldKind.text.Holds value) :
    ∃ given, GivesText (some value) given := by
  cases value with
  | null => exact ⟨none, .null⟩
  | str text => exact ⟨some text, .text text⟩
  | _ => simp [FieldKind.Holds] at h

theorem givesEdit_of_holds (value : Json) (h : FieldKind.text.Holds value) :
    ∃ given, GivesEdit (some value) given := by
  cases value with
  | null => exact ⟨.clear, .null⟩
  | str text => exact ⟨.set text, .text text⟩
  | _ => simp [FieldKind.Holds] at h

theorem givesInt64_of_holds (value : Json) (h : FieldKind.int64.Holds value) :
    ∃ given, GivesInt64 (some value) given := by
  rcases value with _ | _ | (n | _) | _ | _ | _
  case null => exact ⟨none, .null⟩
  case num.whole =>
    have hsame : (Int64.ofInt n).toInt = n := Store.toInt_ofInt_of_isInt64 h
    have hgives := GivesInt64.number (Int64.ofInt n)
    rw [hsame] at hgives
    exact ⟨_, hgives⟩
  all_goals simp [FieldKind.Holds] at h

end Fitting

/-! ## What is written -/

section Placing

variable {key other : String} {value standing : Json} {rest : Entries}

theorem insertMember_nil : insertMember key value [] = [(key, value)] :=
  rfl

theorem insertMember_of_lt (h : key < other) :
    insertMember key value ((other, standing) :: rest) =
      (key, value) :: (other, standing) :: rest := by
  rw [insertMember, if_neg (ne_of_lt h), if_pos h]

theorem insertMember_of_gt (h : other < key) :
    insertMember key value ((other, standing) :: rest) =
      (other, standing) :: insertMember key value rest := by
  rw [insertMember, if_neg (ne_of_gt h), if_neg (lt_asymm h)]

end Placing

theorem givesText_ofText (text : Option String) : GivesText (some (Json.ofText? text)) text := by
  cases text with
  | none => exact .null
  | some value => exact .text value

theorem holds_ofText (text : Option String) : FieldKind.text.Holds (Json.ofText? text) := by
  cases text <;> trivial

theorem givesInt64_ofInt (n : Option Int64) :
    GivesInt64 (some ((n.map fun n => Json.whole n.toInt).getD .null)) n := by
  cases n with
  | none => exact .null
  | some value => exact .number value

theorem holds_ofInt (n : Option Int64) :
    FieldKind.int64.Holds ((n.map fun n => Json.whole n.toInt).getD .null) := by
  cases n with
  | none => trivial
  | some value => exact isInt64_toInt value

theorem fits_cons {fields : List (String × FieldKind)} {key : String} {value : Json}
    {rest : Entries} {kind : FieldKind} (hkey : fields.lookup key = some kind)
    (hholds : kind.Holds value) (hrest : Fits fields (.obj rest)) :
    Fits fields (.obj ((key, value) :: rest)) :=
  List.forall_mem_cons.mpr ⟨⟨kind, hkey, hholds⟩, hrest⟩

theorem fits_member {fields : List (String × FieldKind)} {name : String} (edit : Edit String)
    {others : Entries} (hname : fields.lookup name = some .text)
    (hothers : Fits fields (.obj others)) :
    Fits fields (.obj (edit.member name ++ others)) := by
  cases edit with
  | keep => exact hothers
  | clear => exact fits_cons hname trivial hothers
  | set text => exact fits_cons hname trivial hothers

theorem givesEdit_lookup (edit : Edit String) {name : String} (others : Entries)
    (hothers : others.lookup name = none) :
    GivesEdit ((edit.member name ++ others).lookup name) edit := by
  cases edit with
  | keep => simpa [Edit.member, hothers] using GivesEdit.absent
  | clear => simpa [Edit.member] using GivesEdit.null
  | set text => simpa [Edit.member] using GivesEdit.text text

theorem lookup_member {edit : Edit String} {name key : String} {others : Entries}
    (hkey : key ≠ name) : (edit.member name ++ others).lookup key = others.lookup key := by
  have htest : (key == name) = false := beq_false_of_ne hkey
  cases edit <;> simp [Edit.member, List.lookup_cons, htest]

end Json

open Json

/-! ## Reading a patch -/

section Reading

variable {α : Type} {read : Json → Except Problem α} {j : Json} {patch : α}

theorem readPatch_eq_ok_iff :
    readPatch read j = .ok patch ↔ ∃ members, j = .obj members ∧ read (.obj members) = .ok patch := by
  cases j with
  | obj members =>
      cases hread : read (.obj members) <;> simp [readPatch, Except.mapError, hread]
  | _ => simp [readPatch]

theorem readPatch_failure {failure : Failure} (h : readPatch read j = .error failure) :
    failure.kind = .invalidInput ∧ failure.field = some "data" := by
  have hcause : failure = .patchNotObject ∨ ∃ problem, failure = .badPatch problem := by
    cases j with
    | obj members =>
        simp only [readPatch] at h
        cases hread : read (.obj members) with
        | ok patch => simp [hread, Except.mapError] at h
        | error problem =>
            simp only [hread, Except.mapError, Except.error.injEq] at h
            exact .inr ⟨problem, h.symm⟩
    | _ => exact .inl (Except.error.inj h).symm
  rcases hcause with rfl | ⟨problem, rfl⟩
  · exact ⟨rfl, rfl⟩
  · exact ⟨rfl, rfl⟩

end Reading

/-! ## Patches of categories -/

namespace CategoryPatch

variable {j : Json} {patch : CategoryPatch}

def editable : List (String × FieldKind) :=
  [("name", .text), ("description", .text)]

theorem read_eq_ok_iff :
    readPatch ofJson j = .ok patch ↔
      Fits editable j ∧ GivesText (j.member? "name") patch.name ∧
        GivesEdit (j.member? "description") patch.description := by
  have hchecks : List.Forall₂ Checks reader.rules editable :=
    .cons checks_text (.cons checks_edit .nil)
  have hbuild (members : Entries) : reader.build members = .ok patch ↔
      GivesText (members.lookup "name") patch.name ∧
        GivesEdit (members.lookup "description") patch.description := by
    simp only [reader, build_value_eq_ok, build_nullable_eq_ok, build_defaulted_eq_ok,
      readOptional_readText_eq_ok, readEdit_eq_ok]
    constructor
    · intro hbuilt
      obtain ⟨_, edit, hbuilt, hedit, rfl⟩ := hbuilt
      obtain ⟨_, name, rfl, hname, rfl⟩ := hbuilt
      exact ⟨hname, hedit⟩
    · rintro ⟨hname, hedit⟩
      refine ⟨CategoryPatch.mk patch.name, _, ?_, hedit, rfl⟩
      exact ⟨CategoryPatch.mk, _, rfl, hname, rfl⟩
  rw [readPatch_eq_ok_iff]
  cases j with
  | obj members =>
      simp only [Json.obj.injEq, exists_eq_left', ofJson, readClosed_eq_ok_iff hchecks, hbuild]
      rfl
  | _ => simp [Fits]

theorem toJson_eq (patch : CategoryPatch) :
    patch.toJson =
      .obj (patch.description.member "description" ++ [("name", Json.ofText? patch.name)]) := by
  have hplace : "description" < "name" := by decide
  cases hdescription : patch.description <;>
    simp only [toJson, hdescription, Edit.member, Json.object, List.cons_append, List.nil_append,
      List.foldl_cons, List.foldl_nil, insertMember_nil, insertMember_of_lt hplace]

theorem read_toJson (patch : CategoryPatch) : readPatch ofJson patch.toJson = .ok patch := by
  have hname : Fits editable (.obj [("name", Json.ofText? patch.name)]) :=
    fits_cons rfl (holds_ofText patch.name) (by simp [Fits])
  rw [read_eq_ok_iff, toJson_eq]
  refine ⟨fits_member patch.description rfl hname, ?_, givesEdit_lookup patch.description _ rfl⟩
  show GivesText (List.lookup "name" (patch.description.member "description" ++ _)) _
  rw [lookup_member (by decide)]
  exact givesText_ofText patch.name

end CategoryPatch

/-! ## Patches of advertisements -/

namespace AdvertisementPatch

variable {j : Json} {patch : AdvertisementPatch}

def editable : List (String × FieldKind) :=
  [("title", .text), ("description", .text), ("price_cents", .int64), ("category_id", .text)]

theorem read_eq_ok_iff :
    readPatch ofJson j = .ok patch ↔
      Fits editable j ∧ GivesText (j.member? "title") patch.title ∧
        GivesEdit (j.member? "description") patch.description ∧
        GivesInt64 (j.member? "price_cents") patch.priceCents ∧
        GivesText (j.member? "category_id") patch.categoryId := by
  have hchecks : List.Forall₂ Checks reader.rules editable :=
    .cons checks_text (.cons checks_edit (.cons checks_int64 (.cons checks_text .nil)))
  have hbuild (members : Entries) : reader.build members = .ok patch ↔
      GivesText (members.lookup "title") patch.title ∧
        GivesEdit (members.lookup "description") patch.description ∧
        GivesInt64 (members.lookup "price_cents") patch.priceCents ∧
        GivesText (members.lookup "category_id") patch.categoryId := by
    simp only [reader, build_value_eq_ok, build_nullable_eq_ok, build_defaulted_eq_ok,
      readOptional_readText_eq_ok, readOptional_readInt64_eq_ok, readEdit_eq_ok]
    constructor
    · intro hbuilt
      obtain ⟨_, category, hbuilt, hcategory, rfl⟩ := hbuilt
      obtain ⟨_, price, hbuilt, hprice, rfl⟩ := hbuilt
      obtain ⟨_, edit, hbuilt, hedit, rfl⟩ := hbuilt
      obtain ⟨_, title, rfl, htitle, rfl⟩ := hbuilt
      exact ⟨htitle, hedit, hprice, hcategory⟩
    · rintro ⟨htitle, hedit, hprice, hcategory⟩
      refine ⟨fun categoryId => { patch with categoryId }, _, ?_, hcategory, rfl⟩
      refine ⟨fun priceCents categoryId => { patch with priceCents, categoryId }, _, ?_, hprice,
        rfl⟩
      refine ⟨AdvertisementPatch.mk patch.title, _, ?_, hedit, rfl⟩
      exact ⟨AdvertisementPatch.mk, _, rfl, htitle, rfl⟩
  rw [readPatch_eq_ok_iff]
  cases j with
  | obj members =>
      simp only [Json.obj.injEq, exists_eq_left', ofJson, readClosed_eq_ok_iff hchecks, hbuild]
      rfl
  | _ => simp [Fits]

theorem toJson_eq (patch : AdvertisementPatch) :
    patch.toJson =
      .obj (("category_id", Json.ofText? patch.categoryId) ::
        (patch.description.member "description" ++
          [("price_cents", (patch.priceCents.map fun price => Json.whole price.toInt).getD .null),
            ("title", Json.ofText? patch.title)])) := by
  have hfirst : "category_id" < "description" := by decide
  have hsecond : "description" < "price_cents" := by decide
  have hthird : "price_cents" < "title" := by decide
  cases hdescription : patch.description <;>
    simp only [toJson, hdescription, Edit.member, Json.object, List.cons_append, List.nil_append,
      List.append_nil, List.foldl_cons, List.foldl_nil, insertMember_nil,
      insertMember_of_gt hfirst, insertMember_of_lt hsecond, insertMember_of_lt hthird,
      insertMember_of_lt (hfirst.trans hsecond)]

theorem read_toJson (patch : AdvertisementPatch) : readPatch ofJson patch.toJson = .ok patch := by
  have hothers : Fits editable (.obj
      [("price_cents", (patch.priceCents.map fun price => Json.whole price.toInt).getD .null),
        ("title", Json.ofText? patch.title)]) :=
    fits_cons rfl (holds_ofInt patch.priceCents)
      (fits_cons rfl (holds_ofText patch.title) (by simp [Fits]))
  rw [read_eq_ok_iff, toJson_eq]
  refine ⟨fits_cons rfl (holds_ofText patch.categoryId)
    (fits_member patch.description rfl hothers), ?_, ?_, ?_, givesText_ofText patch.categoryId⟩
  · show GivesText (List.lookup "title" (patch.description.member "description" ++ _)) _
    rw [lookup_member (by decide)]
    exact givesText_ofText patch.title
  · exact givesEdit_lookup patch.description _ rfl
  · show GivesInt64 (List.lookup "price_cents" (patch.description.member "description" ++ _)) _
    rw [lookup_member (by decide)]
    exact givesInt64_ofInt patch.priceCents

end AdvertisementPatch

/-! ## What gets through -/

/-- What belongs to records and is not for patches to name. -/
def guardedFields : List String :=
  ["score", "is_active", "creator_id", "id", "created_at", "updated_at"]

/-- How patches of one kind are written and read.  Nothing but the editable fields gets through. -/
structure PatchFormat {α : Type} (ofJson : Json → Except Problem α) (toJson : α → Json)
    (editable : List (String × FieldKind)) (description : α → Edit String) (isEmpty : α → Bool) :
    Prop where
  roundTrip : ∀ patch, readPatch ofJson (toJson patch) = .ok patch
  accepted : ∀ j, (∃ patch, readPatch ofJson j = .ok patch) ↔ Fits editable j
  refused : ∀ j, ¬ Fits editable j → ∃ failure, readPatch ofJson j = .error failure ∧
    failure.kind = .invalidInput ∧ failure.field = some "data"
  kept : ∀ j patch, readPatch ofJson j = .ok patch →
    (description patch = .keep ↔ j.member? "description" = none)
  cleared : ∀ j patch, readPatch ofJson j = .ok patch →
    (description patch = .clear ↔ j.member? "description" = some .null)
  set : ∀ j patch, readPatch ofJson j = .ok patch → ∀ text,
    (description patch = .set text ↔ j.member? "description" = some (.str text))
  empty : ∀ j patch, readPatch ofJson j = .ok patch →
    (isEmpty patch = true ↔ j.member? "description" = none ∧
      ∀ key, key ≠ "description" → j.member? key = none ∨ j.member? key = some .null)
  guarded : ∀ j, ∀ key ∈ guardedFields, j.member? key ≠ none →
    ∀ patch, readPatch ofJson j ≠ .ok patch

section Formats

variable {α : Type} {ofJson : Json → Except Problem α} {toJson : α → Json}
  {editable : List (String × FieldKind)} {description : α → Edit String} {isEmpty : α → Bool}

theorem patchFormat (hroundTrip : ∀ patch, readPatch ofJson (toJson patch) = .ok patch)
    (haccepted : ∀ j, (∃ patch, readPatch ofJson j = .ok patch) ↔ Fits editable j)
    (hdescription : ∀ j patch, readPatch ofJson j = .ok patch →
      GivesEdit (j.member? "description") (description patch))
    (hempty : ∀ j patch, readPatch ofJson j = .ok patch →
      (isEmpty patch = true ↔ description patch = .keep ∧
        ∀ key ∈ editable.map Prod.fst, key ≠ "description" →
          j.member? key = none ∨ j.member? key = some .null))
    (hguarded : ∀ key ∈ guardedFields, editable.lookup key = none) :
    PatchFormat ofJson toJson editable description isEmpty where
  roundTrip := hroundTrip
  accepted := haccepted
  refused j hunfit := by
    cases hread : readPatch ofJson j with
    | ok patch => exact absurd ((haccepted j).mp ⟨patch, hread⟩) hunfit
    | error failure => exact ⟨failure, rfl, readPatch_failure hread⟩
  kept j patch hread := (hdescription j patch hread).eq_keep_iff
  cleared j patch hread := (hdescription j patch hread).eq_clear_iff
  set j patch hread := (hdescription j patch hread).eq_set_iff
  empty j patch hread := by
    have hfits : Fits editable j := (haccepted j).mp ⟨patch, hread⟩
    rw [hempty j patch hread, (hdescription j patch hread).eq_keep_iff]
    refine and_congr_right fun _ => ⟨fun hothers key hkey => ?_, fun hothers key _ => hothers key⟩
    by_cases hknown : key ∈ editable.map Prod.fst
    · exact hothers key hknown hkey
    · exact .inl (hfits.member?_eq_none (lookup_eq_none hknown))
  guarded j key hkey hpresent patch hread := by
    have hfits : Fits editable j := (haccepted j).mp ⟨patch, hread⟩
    exact hpresent (hfits.member?_eq_none (hguarded key hkey))

end Formats

theorem Edit.isKeep_iff {edit : Edit String} : edit.isKeep = true ↔ edit = .keep := by
  cases edit <;> simp [Edit.isKeep]

theorem CategoryPatch.format :
    PatchFormat CategoryPatch.ofJson CategoryPatch.toJson CategoryPatch.editable
      CategoryPatch.description CategoryPatch.isEmpty := by
  apply patchFormat CategoryPatch.read_toJson
  · intro j
    refine ⟨fun ⟨patch, hread⟩ => (read_eq_ok_iff.mp hread).1, fun hfits => ?_⟩
    obtain ⟨name, hname⟩ := hfits.gives "name" rfl .absent givesText_of_holds
    obtain ⟨edit, hedit⟩ := hfits.gives "description" rfl .absent givesEdit_of_holds
    exact ⟨⟨name, edit⟩, read_eq_ok_iff.mpr ⟨hfits, hname, hedit⟩⟩
  · intro j patch hread
    exact (read_eq_ok_iff.mp hread).2.2
  · intro j patch hread
    obtain ⟨-, hname, -⟩ := read_eq_ok_iff.mp hread
    simp [CategoryPatch.isEmpty, CategoryPatch.editable, Edit.isKeep_iff, hname.eq_none_iff,
      and_comm]
  · decide

theorem AdvertisementPatch.format :
    PatchFormat AdvertisementPatch.ofJson AdvertisementPatch.toJson AdvertisementPatch.editable
      AdvertisementPatch.description AdvertisementPatch.isEmpty := by
  apply patchFormat AdvertisementPatch.read_toJson
  · intro j
    refine ⟨fun ⟨patch, hread⟩ => (read_eq_ok_iff.mp hread).1, fun hfits => ?_⟩
    obtain ⟨title, htitle⟩ := hfits.gives "title" rfl .absent givesText_of_holds
    obtain ⟨edit, hedit⟩ := hfits.gives "description" rfl .absent givesEdit_of_holds
    obtain ⟨price, hprice⟩ := hfits.gives "price_cents" rfl .absent givesInt64_of_holds
    obtain ⟨category, hcategory⟩ := hfits.gives "category_id" rfl .absent givesText_of_holds
    exact ⟨⟨title, edit, price, category⟩,
      read_eq_ok_iff.mpr ⟨hfits, htitle, hedit, hprice, hcategory⟩⟩
  · intro j patch hread
    exact (read_eq_ok_iff.mp hread).2.2.1
  · intro j patch hread
    obtain ⟨-, htitle, -, hprice, hcategory⟩ := read_eq_ok_iff.mp hread
    simp [AdvertisementPatch.isEmpty, AdvertisementPatch.editable, Edit.isKeep_iff,
      htitle.eq_none_iff, hprice.eq_none_iff, hcategory.eq_none_iff]
    tauto
  · decide

/-- Patches of both kinds are read as they were written, and only what may be edited is let in.  A
member that is null says no more of a field than none, but for the description. -/
theorem patches_edit_only_editable_fields :
    PatchFormat CategoryPatch.ofJson CategoryPatch.toJson
        [("name", .text), ("description", .text)]
        CategoryPatch.description CategoryPatch.isEmpty ∧
      PatchFormat AdvertisementPatch.ofJson AdvertisementPatch.toJson
        [("title", .text), ("description", .text), ("price_cents", .int64),
          ("category_id", .text)]
        AdvertisementPatch.description AdvertisementPatch.isEmpty ∧
      (∀ j patch, readPatch CategoryPatch.ofJson j = .ok patch →
        GivesText (j.member? "name") patch.name) ∧
      ∀ j patch, readPatch AdvertisementPatch.ofJson j = .ok patch →
        GivesText (j.member? "title") patch.title ∧
        GivesInt64 (j.member? "price_cents") patch.priceCents ∧
        GivesText (j.member? "category_id") patch.categoryId := by
  refine ⟨CategoryPatch.format, AdvertisementPatch.format, fun j patch hread => ?_,
    fun j patch hread => ?_⟩
  · exact (CategoryPatch.read_eq_ok_iff.mp hread).2.1
  · obtain ⟨-, htitle, -, hprice, hcategory⟩ := AdvertisementPatch.read_eq_ok_iff.mp hread
    exact ⟨htitle, hprice, hcategory⟩

/-- A patch that clears a description and sets a price, and one that is after a score. -/
theorem patches_clear_and_are_guarded :
    (∃ patch, readPatch AdvertisementPatch.ofJson
        (.obj [("description", .null), ("price_cents", .num (.whole 5))]) = .ok patch ∧
      patch.description = .clear ∧ patch.title = none) ∧
    ∀ patch, readPatch AdvertisementPatch.ofJson (.obj [("score", .num (.whole 5))]) ≠ .ok patch := by
  obtain ⟨-, hformat, -, hgiven⟩ := patches_edit_only_editable_fields
  have hfive : FieldKind.int64.Holds (.num (.whole 5)) := by
    show Decimal.isInt64 5 = true
    decide
  have hfits : Fits AdvertisementPatch.editable
      (.obj [("description", .null), ("price_cents", .num (.whole 5))]) := by
    exact fits_cons rfl trivial (fits_cons rfl hfive (by simp [Fits]))
  constructor
  · obtain ⟨patch, hread⟩ := (hformat.accepted _).mpr hfits
    have htitle := (hgiven _ patch hread).1.eq_none_iff
    exact ⟨patch, hread, (hformat.cleared _ patch hread).mpr rfl, htitle.mpr (.inl rfl)⟩
  · exact hformat.guarded _ "score" (by decide) (by simp [Json.member?])

end Noticeboard
