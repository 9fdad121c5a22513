import Backbeat.Json.Record
import Mathlib.Data.List.Forall2
import Mathlib.Data.List.Nodup

/-!
# Forms of a record

One record has many forms as an object.  Its members may come in any order, others that are no
fields may stand among them, and a field that holds its default may be left out.  A reader of a
field cannot tell the forms apart: it finds a spelling of the content, or the default that is the
content.
-/

namespace Backbeat.Json

/-- The spellings of a content that has one only. -/
def exactly (value : Json) : Json → Prop :=
  fun given => given = value

/-- The members that are fields. -/
def known (fields : List (String × (Json → Prop))) (members : List (String × Json)) :
    List (String × Json) :=
  members.filter fun member => (fields.map Prod.fst).contains member.1

/-- Members that give a record.  Its fields are listed with the spellings of what they hold, and the
fields that may be left out with what is then taken for them. -/
structure Gives (fields : List (String × (Json → Prop))) (defaults : List (String × Json))
    (members : List (String × Json)) : Prop where
  distinct : ((known fields members).map Prod.fst).Nodup
  faithful : ∀ member ∈ members, ∀ field ∈ fields, member.1 = field.1 → field.2 member.2
  complete : ∀ field ∈ fields, field.1 ∈ members.map Prod.fst ∨
    ∃ value, (field.1, value) ∈ defaults ∧ field.2 value

/-- A value that is a form of a record. -/
def IsForm (fields : List (String × (Json → Prop))) (defaults : List (String × Json))
    (value : Json) : Prop :=
  ∃ members, value = .obj members ∧ Gives fields defaults members

variable {fields : List (String × (Json → Prop))} {defaults members more : List (String × Json)}

/-! ## Reading the fields of a form -/

theorem repeated?_eq_none_iff (names : List String) : repeated? names = none ↔ names.Nodup := by
  induction names with
  | nil => simp [repeated?]
  | cons name rest ih =>
    by_cases again : name ∈ rest
    · simp [repeated?, again]
    · simp [repeated?, again, ih]

namespace Gives

theorem fieldsOf_eq (given : Gives fields defaults members) :
    fieldsOf (fields.map Prod.fst) (.obj members) = .ok (known fields members) := by
  have unrepeated : repeated? ((known fields members).map Prod.fst) = none :=
    (repeated?_eq_none_iff _).mpr given.distinct
  rw [known] at unrepeated ⊢
  simp only [fieldsOf, unrepeated]

theorem mem_of_lookup_known {name : String} {value : Json}
    (found : (known fields members).lookup name = some value) : (name, value) ∈ members := by
  obtain ⟨front, back, split, -⟩ := List.lookup_eq_some_iff.mp found
  have kept : (name, value) ∈ known fields members := by
    rw [split]
    exact List.mem_append_right front List.mem_cons_self
  exact List.mem_of_mem_filter kept

theorem not_mem_of_lookup_known {name : String} (declared : name ∈ fields.map Prod.fst)
    (missing : (known fields members).lookup name = none) : name ∉ members.map Prod.fst := by
  intro named
  obtain ⟨member, listed, same⟩ := List.mem_map.mp named
  have kept : member ∈ known fields members := by
    refine List.mem_filter.mpr ⟨listed, ?_⟩
    rw [same]
    exact List.contains_iff_mem.mpr declared
  have different := List.lookup_eq_none_iff.mp missing member kept
  simp [same] at different

variable {α : Type} {name : String} {spelt : Json → Prop} {read : Json → Option α} {content : α}

/-- What is found for a field is a spelling of its content, or else its default is. -/
theorem lookup_known (given : Gives fields defaults members) (field : (name, spelt) ∈ fields) :
    (∃ value, (known fields members).lookup name = some value ∧ spelt value) ∨
      (known fields members).lookup name = none ∧
        ∃ value, (name, value) ∈ defaults ∧ spelt value := by
  have declared : name ∈ fields.map Prod.fst := List.mem_map.mpr ⟨_, field, rfl⟩
  cases found : (known fields members).lookup name with
  | some value =>
    exact Or.inl ⟨value, rfl, given.faithful _ (mem_of_lookup_known found) _ field rfl⟩
  | none =>
    rcases given.complete _ field with named | ⟨value, listed, holds⟩
    · exact absurd named (not_mem_of_lookup_known declared found)
    · exact Or.inr ⟨rfl, value, listed, holds⟩

theorem required_eq (given : Gives fields defaults members) (field : (name, spelt) ∈ fields)
    (fixed : name ∉ defaults.map Prod.fst)
    (reads : ∀ value, spelt value → read value = some content) :
    required (known fields members) name read = .ok content := by
  rcases given.lookup_known field with ⟨value, found, holds⟩ | ⟨-, value, listed, -⟩
  · simp only [required, found, reads value holds]
  · exact absurd (List.mem_map.mpr ⟨_, listed, rfl⟩) fixed

theorem optional_eq (given : Gives fields defaults members) (field : (name, spelt) ∈ fields)
    {default : α} (omitted : ∀ value, (name, value) ∈ defaults → read value = some default)
    (reads : ∀ value, spelt value → read value = some content) :
    optional (known fields members) name default read = .ok content := by
  rcases given.lookup_known field with ⟨value, found, holds⟩ | ⟨missing, value, listed, holds⟩
  · simp only [optional, found, reads value holds]
  · have same : default = content :=
      Option.some.inj ((omitted value listed).symm.trans (reads value holds))
    simp only [optional, missing, same]

theorem required_eq_of_exactly (given : Gives fields defaults members) (value : Json)
    (field : (name, exactly value) ∈ fields) (fixed : name ∉ defaults.map Prod.fst)
    (reads : read value = some content) :
    required (known fields members) name read = .ok content :=
  given.required_eq field fixed fun _ same => same ▸ reads

theorem optional_eq_of_exactly (given : Gives fields defaults members) (value : Json)
    (field : (name, exactly value) ∈ fields) {default : α}
    (omitted : ∀ value, (name, value) ∈ defaults → read value = some default)
    (reads : read value = some content) :
    optional (known fields members) name default read = .ok content :=
  given.optional_eq field omitted fun _ same => same ▸ reads

end Gives

/-! ## Writing a form -/

/-- A list of members that are spellings of the fields in their order. -/
abbrev Spells (members : List (String × Json)) (fields : List (String × (Json → Prop))) : Prop :=
  List.Forall₂ (fun member field => member.1 = field.1 ∧ field.2 member.2) members fields

theorem Spells.names (spells : Spells members fields) :
    members.map Prod.fst = fields.map Prod.fst := by
  induction spells with
  | nil => rfl
  | cons first _ ih => rw [List.map_cons, List.map_cons, first.1, ih]

theorem Spells.faithful (spells : Spells members fields) (distinct : (fields.map Prod.fst).Nodup) :
    ∀ member ∈ members, ∀ field ∈ fields, member.1 = field.1 → field.2 member.2 := by
  induction spells with
  | nil => nofun
  | @cons first head members fields holds later ih =>
    rw [List.map_cons, List.nodup_cons] at distinct
    obtain ⟨unrepeated, distinct⟩ := distinct
    intro member listed field declared same
    rcases List.mem_cons.mp listed with rfl | listed <;>
      rcases List.mem_cons.mp declared with rfl | declared
    · exact holds.2
    · exact absurd (List.mem_map.mpr ⟨field, declared, same.symm.trans holds.1⟩) unrepeated
    · have named : field.1 ∈ members.map Prod.fst := List.mem_map.mpr ⟨member, listed, same⟩
      rw [Spells.names later] at named
      exact absurd named unrepeated
    · exact ih distinct member listed field declared same

/-- Fields in their order, of which any may be left out that hold their default, and then members
that are no fields, give a record. -/
theorem Spells.gives (spells : Spells members fields) (distinct : (fields.map Prod.fst).Nodup)
    {keep : String × Json → Bool}
    (left : ∀ member ∈ members, keep member = false → member ∈ defaults)
    (unknown : ∀ member ∈ more, member.1 ∉ fields.map Prod.fst) :
    Gives fields defaults (members.filter keep ++ more) := by
  have names := Spells.names spells
  have faithful := Spells.faithful spells distinct
  have fromMore : known fields more = [] := by
    refine List.filter_eq_nil_iff.mpr fun member listed => ?_
    simpa using unknown member listed
  refine ⟨?_, ?_, ?_⟩
  · have fewer : ((known fields (members.filter keep)).map Prod.fst).Sublist
        (fields.map Prod.fst) := by
      rw [← names]
      exact (List.filter_sublist.trans List.filter_sublist).map Prod.fst
    rw [known, List.filter_append]
    change ((known fields _ ++ known fields more).map Prod.fst).Nodup
    rw [fromMore, List.append_nil]
    exact distinct.sublist fewer
  · intro member listed field declared same
    rcases List.mem_append.mp listed with listed | listed
    · exact faithful member (List.mem_of_mem_filter listed) field declared same
    · exact absurd (same ▸ List.mem_map.mpr ⟨field, declared, rfl⟩) (unknown member listed)
  · intro field declared
    have named : field.1 ∈ members.map Prod.fst := names ▸ List.mem_map.mpr ⟨field, declared, rfl⟩
    obtain ⟨member, listed, same⟩ := List.mem_map.mp named
    cases kept : keep member with
    | true =>
      left
      refine List.mem_map.mpr ⟨member, List.mem_append_left more ?_, same⟩
      exact List.mem_filter.mpr ⟨listed, kept⟩
    | false =>
      right
      refine ⟨member.2, ?_, faithful member listed field declared same⟩
      rw [← same]
      exact left member listed kept

end Backbeat.Json
