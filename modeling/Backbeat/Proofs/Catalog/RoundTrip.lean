import Backbeat.Catalog.Memory
import Backbeat.Proofs.Calendar.Instant
import Backbeat.Proofs.Json.Record
import Backbeat.Rehearsal.Sample
import Backbeat.Web.Feed
import Mathlib.Tactic.Set

/-!
# Beats are read back

What is written of a beat is read as the same beat again, field by field.  That holds of every form
of the record, so that a catalog can be kept as a list of forms, some of them taken from answers of
the feed.
-/

namespace Backbeat

open Json (exactly Gives Spells)

/-! ## Reading the values of fields -/

theorem Uuid.length_toText (id : Uuid) : id.toText.length = 36 := by
  have digits := Text.length_writeHex 32 id.value
  rw [toText]
  generalize Text.writeHex 32 id.value = text at digits
  simp [grouped, List.intercalate, digits]

theorem Uuid.ofString?_toString (id : Uuid) : ofString? id.toString = some id := by
  have hyphenated : ofText? id.toText = ofHyphenated? id.toText := by
    simp only [ofText?, length_toText]
  rw [ofString?, toString, String.toList_ofList, hyphenated, ofHyphenated?_toText]

theorem Uuid.ofJson?_str (id : Uuid) : ofJson? (.str id.toString) = some id := by
  rw [ofJson?, Json.str?, Option.bind_some, ofString?_toString]

theorem Json.word?_nat (word : UInt32) : Json.word? (.nat word.toNat) = some word := by
  have small : word.toNat ≤ Text.max32 := by
    have := word.toNat_lt
    unfold Text.max32
    omega
  have read : Json.nat? (.nat word.toNat) = some word.toNat := rfl
  rw [word?, read]
  simp [small]

/-- An instant of the years that are written with four digits. -/
def Calendar.Instant.FourDigits (instant : Calendar.Instant) : Prop :=
  0 ≤ instant.date.year ∧ instant.date.year ≤ 9999

theorem Calendar.Instant.ofJson?_str {instant : Calendar.Instant} (dated : instant.FourDigits) :
    ofJson? (.str instant.toString) = some instant := by
  rw [ofJson?, Json.str?, Option.bind_some, Calendar.Instant.toString, String.toList_ofList]
  exact ofText?_toText dated.1 dated.2

/-! ## Notes -/

namespace Note

def fields (note : Note) : List (String × (Json → Prop)) :=
  [("name", exactly (.str note.name)), ("scale", exactly (.str note.scale.name))]

def IsForm (note : Note) (value : Json) : Prop :=
  Json.IsForm note.fields [] value

def IsFormOrNull : Option Note → Json → Prop
  | none, value => value = .null
  | some note, value => note.IsForm value

theorem ofJson_of_isForm {note : Note} {value : Json} (form : note.IsForm value) :
    ofJson value = .ok note := by
  obtain ⟨members, rfl, given⟩ := form
  have found : Json.fieldsOf fieldNames (.obj members) = .ok (Json.known note.fields members) :=
    given.fieldsOf_eq
  have name : Json.required (Json.known note.fields members) "name" Json.str? = .ok note.name :=
    given.required_eq_of_exactly (.str note.name) (by simp [fields]) (by simp) rfl
  have scale : Json.required (Json.known note.fields members) "scale" Scale.ofJson? =
      .ok note.scale :=
    given.required_eq_of_exactly (.str note.scale.name) (by simp [fields]) (by simp)
      note.scale.ofName?_name
  rw [ofJson, found]
  simp only [bind, Except.bind, name, scale]
  rfl

theorem isForm_toJson (note : Note) : note.IsForm note.toJson := by
  have spells : Spells note.toJson.members note.fields :=
    .cons ⟨rfl, rfl⟩ (.cons ⟨rfl, rfl⟩ .nil)
  have given : Gives note.fields [] (note.toJson.members.filter (fun _ => true) ++ []) :=
    spells.gives (show fieldNames.Nodup by decide) (by simp) (by simp)
  exact ⟨_, by simp [toJson, Json.members], given⟩

theorem isFormOrNull_orNull (note : Option Note) : IsFormOrNull note (.orNull toJson note) := by
  cases note with
  | none => rfl
  | some note => exact note.isForm_toJson

theorem ofJsonOrNull?_of_isForm {note : Option Note} {value : Json}
    (form : IsFormOrNull note value) : ofJsonOrNull? value = some note := by
  cases note with
  | none =>
    rw [show value = .null from form]
    rfl
  | some note =>
    obtain ⟨members, rfl, given⟩ := form
    rw [ofJsonOrNull?, ofJson_of_isForm ⟨members, rfl, given⟩]
    · rfl
    · nofun

end Note

/-! ## Beats -/

namespace Beat

/-- The fields of a beat, each with what may be given for it. -/
def fields (beat : Beat) : List (String × (Json → Prop)) :=
  [("id", exactly (.str beat.idText)), ("beatmaker_id", exactly (.str beat.beatmaker.toString)),
    ("name", exactly (.str beat.name)), ("description", exactly (.str beat.description)),
    ("bpm", exactly (.nat beat.bpm.toNat)), ("genres", exactly (.strs beat.genres)),
    ("moods", exactly (.strs beat.moods)), ("tags", exactly (.strs beat.tags)),
    ("note", Note.IsFormOrNull beat.note), ("file_path", exactly (.str beat.filePath)),
    ("image_path", exactly (.str beat.imagePath)),
    ("archive_path", exactly (.str beat.archivePath)),
    ("is_file_downloaded", exactly (.bool beat.fileUploaded)),
    ("is_image_downloaded", exactly (.bool beat.imageUploaded)),
    ("is_archive_downloaded", exactly (.bool beat.archiveUploaded)),
    ("created_at", exactly (.str beat.createdAt.toString))]

/-- The fields that may be left out, with what they are then taken to hold. -/
def defaults : List (String × Json) :=
  [("description", .str ""), ("genres", .strs []), ("moods", .strs []), ("tags", .strs []),
    ("note", .null), ("image_path", .str ""), ("archive_path", .str ""),
    ("is_file_downloaded", .bool false), ("is_image_downloaded", .bool false),
    ("is_archive_downloaded", .bool false)]

def IsForm (beat : Beat) (value : Json) : Prop :=
  Json.IsForm beat.fields defaults value

variable {beat : Beat} {value : Json}

/-- Every form of a beat is read as the beat, at whatever time. -/
theorem ofJson_of_isForm (now : Calendar.Instant) (dated : beat.createdAt.FourDigits)
    (form : beat.IsForm value) : ofJson now value = .ok beat := by
  obtain ⟨members, rfl, given⟩ := form
  have listed : Json.fieldsOf fieldNames (.obj members) = .ok (Json.known beat.fields members) :=
    given.fieldsOf_eq
  set found := Json.known beat.fields members
  have id : Json.required found "id" Uuid.ofJson? = .ok beat.id :=
    given.required_eq_of_exactly (.str beat.idText) (by simp [fields]) (by simp [defaults])
      beat.id.ofJson?_str
  have beatmaker : Json.required found "beatmaker_id" Uuid.ofJson? = .ok beat.beatmaker :=
    given.required_eq_of_exactly (.str beat.beatmaker.toString) (by simp [fields])
      (by simp [defaults]) beat.beatmaker.ofJson?_str
  have name : Json.required found "name" Json.str? = .ok beat.name :=
    given.required_eq_of_exactly (.str beat.name) (by simp [fields]) (by simp [defaults]) rfl
  have description : Json.optional found "description" "" Json.str? = .ok beat.description :=
    given.optional_eq_of_exactly (.str beat.description) (by simp [fields])
      (by simp [defaults, Json.str?]) rfl
  have bpm : Json.required found "bpm" Json.word? = .ok beat.bpm :=
    given.required_eq_of_exactly (.nat beat.bpm.toNat) (by simp [fields]) (by simp [defaults])
      (Json.word?_nat beat.bpm)
  have genres : Json.optional found "genres" [] Json.strs? = .ok beat.genres :=
    given.optional_eq_of_exactly (.strs beat.genres) (by simp [fields]) (by simp [defaults])
      (Json.strs?_strs beat.genres)
  have moods : Json.optional found "moods" [] Json.strs? = .ok beat.moods :=
    given.optional_eq_of_exactly (.strs beat.moods) (by simp [fields]) (by simp [defaults])
      (Json.strs?_strs beat.moods)
  have tags : Json.optional found "tags" [] Json.strs? = .ok beat.tags :=
    given.optional_eq_of_exactly (.strs beat.tags) (by simp [fields]) (by simp [defaults])
      (Json.strs?_strs beat.tags)
  have note : Json.optional found "note" none Note.ofJsonOrNull? = .ok beat.note :=
    given.optional_eq (by simp [fields]) (by simp [defaults, Note.ofJsonOrNull?])
      fun _ form => Note.ofJsonOrNull?_of_isForm form
  have filePath : Json.required found "file_path" Json.str? = .ok beat.filePath :=
    given.required_eq_of_exactly (.str beat.filePath) (by simp [fields]) (by simp [defaults]) rfl
  have imagePath : Json.optional found "image_path" "" Json.str? = .ok beat.imagePath :=
    given.optional_eq_of_exactly (.str beat.imagePath) (by simp [fields])
      (by simp [defaults, Json.str?]) rfl
  have archivePath : Json.optional found "archive_path" "" Json.str? = .ok beat.archivePath :=
    given.optional_eq_of_exactly (.str beat.archivePath) (by simp [fields])
      (by simp [defaults, Json.str?]) rfl
  have fileUploaded : Json.optional found "is_file_downloaded" false Json.bool? =
      .ok beat.fileUploaded :=
    given.optional_eq_of_exactly (.bool beat.fileUploaded) (by simp [fields])
      (by simp [defaults, Json.bool?]) rfl
  have imageUploaded : Json.optional found "is_image_downloaded" false Json.bool? =
      .ok beat.imageUploaded :=
    given.optional_eq_of_exactly (.bool beat.imageUploaded) (by simp [fields])
      (by simp [defaults, Json.bool?]) rfl
  have archiveUploaded : Json.optional found "is_archive_downloaded" false Json.bool? =
      .ok beat.archiveUploaded :=
    given.optional_eq_of_exactly (.bool beat.archiveUploaded) (by simp [fields])
      (by simp [defaults, Json.bool?]) rfl
  have createdAt : Json.optional found "created_at" now Calendar.Instant.ofJson? =
      .ok beat.createdAt :=
    given.optional_eq_of_exactly (.str beat.createdAt.toString) (by simp [fields])
      (by simp [defaults]) (Calendar.Instant.ofJson?_str dated)
  rw [ofJson, listed]
  simp only [bind, Except.bind, id, beatmaker, name, description, bpm, genres, moods, tags, note,
    filePath, imagePath, archivePath, fileUploaded, imageUploaded, archiveUploaded, createdAt]
  rfl

theorem spells_toJson (beat : Beat) : Spells beat.toJson.members beat.fields := by
  simp [Spells, toJson, Json.members, fields, exactly, Note.isFormOrNull_orNull]

/-- What is written of a beat is a form of it, even if fields that hold their default are left out
and members that are no fields are added. -/
theorem isForm_of_kept (beat : Beat) (keep : String × Json → Bool) {more : List (String × Json)}
    (left : ∀ member ∈ beat.toJson.members, keep member = false → member ∈ defaults)
    (unknown : ∀ member ∈ more, member.1 ∉ fieldNames) :
    beat.IsForm (.obj (beat.toJson.members.filter keep ++ more)) :=
  ⟨_, rfl, beat.spells_toJson.gives (show fieldNames.Nodup by decide) left unknown⟩

theorem isForm_extend (beat : Beat) {more : List (String × Json)}
    (unknown : ∀ member ∈ more, member.1 ∉ fieldNames) : beat.IsForm (beat.toJson.extend more) := by
  have whole := beat.isForm_of_kept (fun _ => true) (by simp) unknown
  rwa [List.filter_true] at whole

theorem isForm_toJson (beat : Beat) : beat.IsForm beat.toJson := by
  have none : ∀ member ∈ ([] : List (String × Json)), member.1 ∉ fieldNames := by simp
  have whole := beat.isForm_extend none
  rwa [Json.extend, List.append_nil] at whole

/-- The beat of an answer of the feed is a form of it. -/
theorem isForm_feedJson (beat : Beat) (cover : Option String) :
    beat.IsForm (Web.feedJson beat cover) :=
  beat.isForm_extend (by simp [fieldNames])

end Beat

/-! ## Catalogs -/

namespace MemoryCatalog

variable {beats : List Beat}

/-- Of the beats that are put into a catalog, the last of an identifier is found. -/
theorem get?_foldl_insert (beats : List Beat) (catalog : MemoryCatalog) (id : Uuid) :
    (beats.foldl insert catalog).beats.get? id =
      (beats.reverse.find? (·.id = id)).or (catalog.beats.get? id) := by
  induction beats generalizing catalog with
  | nil => rfl
  | cons beat rest ih =>
    rw [List.foldl_cons, ih, List.reverse_cons, List.find?_append, Option.or_assoc]
    congr 1
    rw [insert, Table.get?_insert]
    by_cases same : beat.id = id
    · simp [same]
    · simp [same]

theorem find?_reverse_of_mem (distinct : (beats.map Beat.id).Nodup) {beat : Beat}
    (listed : beat ∈ beats) : beats.reverse.find? (·.id = beat.id) = some beat := by
  cases found : beats.reverse.find? (·.id = beat.id) with
  | none =>
    have missing := List.find?_eq_none.mp found beat (List.mem_reverse.mpr listed)
    simp at missing
  | some other =>
    have same : other.id = beat.id := by simpa using List.find?_some found
    have member : other ∈ beats := List.mem_reverse.mp (List.mem_of_find?_eq_some found)
    rw [List.inj_on_of_nodup_map distinct member listed same]

/-- A catalog of beats with different identifiers has each of them. -/
theorem getById_ofBeats (distinct : (beats.map Beat.id).Nodup) {beat : Beat}
    (listed : beat ∈ beats) : (ofBeats beats).getById beat.id = .ok beat := by
  rw [getById, ofBeats, get?_foldl_insert, find?_reverse_of_mem distinct listed, Option.some_or]

theorem mapM_ofJson (now : Calendar.Instant) {values : List Json}
    (dated : ∀ beat ∈ beats, beat.createdAt.FourDigits)
    (forms : List.Forall₂ Beat.IsForm beats values) :
    values.mapM (Beat.ofJson now) = .ok beats := by
  induction forms with
  | nil => rfl
  | @cons beat value beats values form _ ih =>
    have first := Beat.ofJson_of_isForm now (dated beat List.mem_cons_self) form
    have rest := ih fun beat later => dated beat (List.mem_cons_of_mem _ later)
    rw [List.mapM_cons, first, rest]
    rfl

/-- A list of forms of beats is read as the catalog of these beats. -/
theorem ofText_of_forms (now : Calendar.Instant) {values : List Json} {text : String}
    (dated : ∀ beat ∈ beats, beat.createdAt.FourDigits)
    (forms : List.Forall₂ Beat.IsForm beats values) (read : Json.read text = .ok (.arr values)) :
    ofText now text = .ok (ofBeats beats) := by
  simp only [ofText, read, ofJson, mapM_ofJson now dated forms]
  rfl

end MemoryCatalog

/-- Beats are read back from what is written of them: alone or in an answer of the feed, without
fields that hold their default, with members that are no fields, and in any other form of the
record.  A list of such forms is read as a catalog in which each beat is found unchanged. -/
theorem beats_read_back (now : Calendar.Instant) (beats : List Beat)
    (dated : ∀ beat ∈ beats, beat.createdAt.FourDigits) :
    (∀ beat ∈ beats,
      beat.IsForm beat.toJson ∧
      (∀ cover, beat.IsForm (Web.feedJson beat cover)) ∧
      (∀ (keep : String × Json → Bool) (more : List (String × Json)),
        (∀ member ∈ beat.toJson.members, keep member = false → member ∈ Beat.defaults) →
        (∀ member ∈ more, member.1 ∉ Beat.fieldNames) →
          beat.IsForm (.obj (beat.toJson.members.filter keep ++ more))) ∧
      ∀ value, beat.IsForm value → Beat.ofJson now value = .ok beat) ∧
    ((beats.map Beat.id).Nodup → ∀ (values : List Json) (text : String),
      List.Forall₂ Beat.IsForm beats values → Json.read text = .ok (.arr values) →
        MemoryCatalog.ofText now text = .ok (.ofBeats beats) ∧
          ∀ beat ∈ beats, (MemoryCatalog.ofBeats beats).getById beat.id = .ok beat) := by
  refine ⟨?_, ?_⟩
  · intro beat listed
    refine ⟨beat.isForm_toJson, beat.isForm_feedJson, ?_, ?_⟩
    · intro keep more left unknown
      exact beat.isForm_of_kept keep left unknown
    · intro value form
      exact Beat.ofJson_of_isForm now (dated beat listed) form
  · intro distinct values text forms read
    refine ⟨MemoryCatalog.ofText_of_forms now dated forms read, ?_⟩
    intro beat listed
    exact MemoryCatalog.getById_ofBeats distinct listed

namespace Rehearsal.Sample

/-- Whether a field is said of each beat. -/
def isSaid (member : String × Json) : Bool :=
  ["id", "beatmaker_id", "name", "bpm", "file_path", "is_file_downloaded", "created_at"].contains
    member.1

/-- A beat in as few fields as possible, with other members. -/
def briefly (beat : Beat) (more : List (String × Json)) : Json :=
  .obj (beat.toJson.members.filter isSaid ++ more)

/-- A catalog of the two beats, put together from short texts. -/
def catalogText : String :=
  String.ofList
    (["[\x7b\"id\":\"8d1c0f5e-6a0f-4ab8-9b9c-0c6f7a3c2b11\",",
      "\"beatmaker_id\":\"2f0e3b1a-1b44-4c2e-8f0e-7c7b7b0c9a22\",", "\"name\":\"Night Drive\",",
      "\"bpm\":92,\"file_path\":\"night.mp3\",", "\"is_file_downloaded\":true,",
      "\"created_at\":\"2024-01-01T00:00:00Z\",", "\"rating\":5\x7d,",
      "\x7b\"id\":\"51b3f6ad-2c0e-4d7f-9a41-e08b6c5d7f20\",",
      "\"beatmaker_id\":\"2f0e3b1a-1b44-4c2e-8f0e-7c7b7b0c9a22\",", "\"name\":\"Reprise\",",
      "\"bpm\":120,\"file_path\":\"reprise.mp3\",", "\"is_file_downloaded\":true,",
      "\"created_at\":\"2024-01-01T00:00:00Z\"\x7d]"].flatMap String.toList)

end Rehearsal.Sample

set_option maxRecDepth 8000 in
open Rehearsal in
theorem beats_read_back_rated :
    MemoryCatalog.ofText Sample.beat.createdAt Sample.catalogText =
        .ok (.ofBeats [Sample.beat, Sample.reprise]) ∧
      (MemoryCatalog.ofBeats [Sample.beat, Sample.reprise]).getById Sample.beat.id =
        .ok Sample.beat ∧
      (MemoryCatalog.ofBeats [Sample.beat, Sample.reprise]).getById Sample.reprise.id =
        .ok Sample.reprise := by
  have dated : ∀ beat ∈ [Sample.beat, Sample.reprise], beat.createdAt.FourDigits := by
    intro beat listed
    have same : beat.createdAt = Sample.beat.createdAt := by
      rcases List.mem_pair.mp listed with rfl | rfl <;> rfl
    rw [same]
    exact ⟨by decide, by decide⟩
  obtain ⟨forms, catalogs⟩ :=
    beats_read_back Sample.beat.createdAt [Sample.beat, Sample.reprise] dated
  have rated : Sample.beat.IsForm (Sample.briefly Sample.beat [("rating", .int 5)]) := by
    obtain ⟨-, -, kept, -⟩ := forms Sample.beat List.mem_cons_self
    apply kept
    · simp [Beat.toJson, Json.members, Sample.isSaid, Beat.defaults, Sample.beat, Json.orNull]
    · simp [Beat.fieldNames]
  have plain : Sample.reprise.IsForm (Sample.briefly Sample.reprise []) := by
    obtain ⟨-, -, kept, -⟩ := forms Sample.reprise (List.mem_cons_of_mem _ List.mem_cons_self)
    apply kept
    · simp [Beat.toJson, Json.members, Sample.isSaid, Beat.defaults, Sample.reprise, Sample.beat,
        Json.orNull]
    · exact List.forall_mem_nil _
  have read : Json.read Sample.catalogText =
      .ok (.arr [Sample.briefly Sample.beat [("rating", .int 5)],
        Sample.briefly Sample.reprise []]) :=
    (congrArg (Json.Reader.takeAll {}) String.toList_ofList).trans rfl
  obtain ⟨catalog, found⟩ := catalogs (by decide) _ Sample.catalogText
    (.cons rated (.cons plain .nil)) read
  exact ⟨catalog, found Sample.beat List.mem_cons_self,
    found Sample.reprise (List.mem_cons_of_mem _ List.mem_cons_self)⟩

end Backbeat
