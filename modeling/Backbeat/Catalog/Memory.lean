import Backbeat.Catalog.Beat.Json
import Backbeat.Catalog.Repository
import Backbeat.Data.Table

/-!
# A catalog in memory

The catalog is a table of beats by identifier, so that a later beat replaces an earlier one of
the same identifier, together with a table of owners in which the first entry stays.  Every beat
stands under its own identifier.
-/

namespace Backbeat

structure MemoryCatalog where
  beats : Table Uuid Beat := .empty
  owners : Table Uuid String := .empty
  keyed : ∀ {id : Uuid} {beat : Beat}, beats.get? id = some beat → beat.id = id := by simp

namespace MemoryCatalog

def empty : MemoryCatalog := {}

def insert (catalog : MemoryCatalog) (beat : Beat) : MemoryCatalog where
  beats := catalog.beats.insert beat.id beat
  owners := catalog.owners
  keyed := by
    intro id found present
    rw [Table.get?_insert] at present
    split at present
    · next same => cases present; exact same
    · exact catalog.keyed present

def ofBeats (beats : List Beat) : MemoryCatalog :=
  beats.foldl insert empty

/-- The catalog that a JSON value lists at the time `now`. -/
def ofJson (now : Calendar.Instant) (value : Json) : Except CatalogFault MemoryCatalog :=
  match value with
  | .arr items =>
    match items.mapM (Beat.ofJson now) with
    | .ok beats => .ok (ofBeats beats)
    | .error fault => .error (.beat fault)
  | _ => .error .noList

/-- The catalog that a JSON text lists at the time `now`. -/
def ofText (now : Calendar.Instant) (text : String) : Except RepositoryError MemoryCatalog :=
  match Json.read text with
  | .error fault => .error (.catalog (.syntaxFault fault))
  | .ok value => (ofJson now value).mapError .catalog

def size (catalog : MemoryCatalog) : Nat :=
  catalog.beats.size

/-- The beats that a filter accepts and whose identifier texts are not excluded. -/
def candidates (catalog : MemoryCatalog) (filter : Filter) (excluded : List String) : List Beat :=
  catalog.beats.values.filter fun beat => filter.accepts beat && !excluded.contains beat.idText

def getById (catalog : MemoryCatalog) (id : Uuid) : Except RepositoryError Beat :=
  match catalog.beats.get? id with
  | some beat => .ok beat
  | none => .error (.notFound id.toString)

def findMatching (catalog : MemoryCatalog) (choice : Choice) (filter : Filter)
    (excluded : List String) : Except RepositoryError Beat :=
  match choice.pick (catalog.candidates filter excluded) with
  | some beat => .ok beat
  | none => .error (.notFound "no beat matches the filter")

def ownerOf (catalog : MemoryCatalog) (id : Uuid) : Except RepositoryError String :=
  match catalog.owners.get? id with
  | some owner => .ok owner
  | none => .error (.notFound s!"owner of {id}")

/-- The owner of a beat's archive once a user has claimed it, and the catalog then. -/
def saveOwner (catalog : MemoryCatalog) (id : Uuid) (user : String) : String × MemoryCatalog :=
  match catalog.owners.get? id with
  | some owner => (owner, catalog)
  | none => (user, { catalog with owners := catalog.owners.insert id user })

instance : Repository MemoryCatalog where
  getById id := .answer fun catalog => (catalog.getById id, catalog)
  findMatching choice filter excluded :=
    .answer fun catalog => (catalog.findMatching choice filter excluded, catalog)
  ownerOf id := .answer fun catalog => (catalog.ownerOf id, catalog)
  saveOwner id user := .answer fun catalog =>
    let (owner, after) := catalog.saveOwner id user
    (.ok owner, after)

end MemoryCatalog

end Backbeat
