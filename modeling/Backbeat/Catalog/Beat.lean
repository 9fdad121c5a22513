import Backbeat.Calendar.Instant
import Backbeat.Text.Blank
import Backbeat.Text.Caseless
import Backbeat.Uuid

/-!
# Beats

A beat is an entry of the catalog.  Its media live in an object store under the keys that its
paths name; until a medium has been uploaded, its mark says so.
-/

namespace Backbeat

inductive Scale where
  | minor
  | major
deriving DecidableEq

namespace Scale

def name : Scale → String
  | .minor => "minor"
  | .major => "major"

def ofName? (name : String) : Option Scale :=
  if name = "minor" then some .minor else if name = "major" then some .major else none

/-- The scale that a text names in letters of either case, between blanks. -/
def ofText? (text : List Char) : Option Scale :=
  let name := Text.fold (Text.trim text)
  if name = "minor".toList then some .minor
  else if name = "major".toList then some .major
  else none

def expected : String := "must be one of minor or major"

@[simp]
theorem ofName?_name (scale : Scale) : ofName? scale.name = some scale := by
  cases scale <;> decide

end Scale

structure Note where
  name : String
  scale : Scale
deriving DecidableEq

structure Beat where
  id : Uuid
  beatmaker : Uuid
  name : String
  description : String := ""
  bpm : UInt32
  genres : List String := []
  moods : List String := []
  tags : List String := []
  note : Option Note := none
  filePath : String
  imagePath : String := ""
  archivePath : String := ""
  fileUploaded : Bool := false
  imageUploaded : Bool := false
  archiveUploaded : Bool := false
  createdAt : Calendar.Instant
deriving DecidableEq

def Beat.idText (beat : Beat) : String :=
  beat.id.toString

end Backbeat
