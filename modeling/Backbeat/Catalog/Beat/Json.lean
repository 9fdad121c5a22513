import Backbeat.Catalog.Beat
import Backbeat.Json.Record

/-!
# Beats in JSON

A beat is written as an object of its sixteen fields.  Reading one accepts every form of a record
and a few freedoms more: fields that have a default may be missing, identifiers and instants may
be spelt in any accepted way, and a scale may be an object with its name as the only member.  A
missing time of creation is the time of reading.
-/

namespace Backbeat

open Json (RecordFault fieldsOf required optional)

def Scale.ofJson? : Json → Option Scale
  | .str name => Scale.ofName? name
  | .obj [(name, .null)] => Scale.ofName? name
  | _ => none

namespace Note

def fieldNames : List String := ["name", "scale"]

def toJson (note : Note) : Json :=
  .obj [("name", .str note.name), ("scale", .str note.scale.name)]

def ofJson (value : Json) : Except RecordFault Note := do
  let fields ← fieldsOf fieldNames value
  let name ← required fields "name" Json.str?
  let scale ← required fields "scale" Scale.ofJson?
  return { name, scale }

/-- The note of a record, or no note for null. -/
def ofJsonOrNull? : Json → Option (Option Note)
  | .null => some none
  | value => (ofJson value).toOption.map some

end Note

def Uuid.ofJson? (value : Json) : Option Uuid :=
  value.str?.bind Uuid.ofString?

def Calendar.Instant.ofJson? (value : Json) : Option Calendar.Instant :=
  value.str?.bind fun text => Calendar.Instant.ofText? text.toList

namespace Beat

def fieldNames : List String :=
  ["id", "beatmaker_id", "name", "description", "bpm", "genres", "moods", "tags", "note",
    "file_path", "image_path", "archive_path", "is_file_downloaded", "is_image_downloaded",
    "is_archive_downloaded", "created_at"]

def toJson (beat : Beat) : Json :=
  .obj
    [("id", .str beat.idText), ("beatmaker_id", .str beat.beatmaker.toString),
      ("name", .str beat.name), ("description", .str beat.description),
      ("bpm", .nat beat.bpm.toNat), ("genres", .strs beat.genres), ("moods", .strs beat.moods),
      ("tags", .strs beat.tags), ("note", .orNull Note.toJson beat.note),
      ("file_path", .str beat.filePath), ("image_path", .str beat.imagePath),
      ("archive_path", .str beat.archivePath), ("is_file_downloaded", .bool beat.fileUploaded),
      ("is_image_downloaded", .bool beat.imageUploaded),
      ("is_archive_downloaded", .bool beat.archiveUploaded),
      ("created_at", .str beat.createdAt.toString)]

/-- The beat of a record that is read at the time `now`. -/
def ofJson (now : Calendar.Instant) (value : Json) : Except RecordFault Beat := do
  let fields ← fieldsOf fieldNames value
  let id ← required fields "id" Uuid.ofJson?
  let beatmaker ← required fields "beatmaker_id" Uuid.ofJson?
  let name ← required fields "name" Json.str?
  let description ← optional fields "description" "" Json.str?
  let bpm ← required fields "bpm" Json.word?
  let genres ← optional fields "genres" [] Json.strs?
  let moods ← optional fields "moods" [] Json.strs?
  let tags ← optional fields "tags" [] Json.strs?
  let note ← optional fields "note" none Note.ofJsonOrNull?
  let filePath ← required fields "file_path" Json.str?
  let imagePath ← optional fields "image_path" "" Json.str?
  let archivePath ← optional fields "archive_path" "" Json.str?
  let fileUploaded ← optional fields "is_file_downloaded" false Json.bool?
  let imageUploaded ← optional fields "is_image_downloaded" false Json.bool?
  let archiveUploaded ← optional fields "is_archive_downloaded" false Json.bool?
  let createdAt ← optional fields "created_at" now Calendar.Instant.ofJson?
  return {
    id, beatmaker, name, description, bpm, genres, moods, tags, note, filePath, imagePath,
    archivePath, fileUploaded, imageUploaded, archiveUploaded, createdAt }

end Beat

end Backbeat
