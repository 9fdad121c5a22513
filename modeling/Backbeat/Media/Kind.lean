/-!
# Kinds of media

A beat has three media: its audio file, its cover image and the archive of its tracks.
-/

namespace Backbeat

inductive MediaKind where
  | file
  | archive
  | image
deriving DecidableEq

namespace MediaKind

def name : MediaKind → String
  | .file => "file"
  | .archive => "archive"
  | .image => "image"

/-- All kinds, in the order in which they are issued. -/
def all : List MediaKind := [.file, .image, .archive]

def ofName? (name : String) : Option MediaKind :=
  all.find? fun kind => kind.name == name

@[simp]
theorem ofName?_name (kind : MediaKind) : ofName? kind.name = some kind := by
  cases kind <;> decide

end MediaKind

end Backbeat
