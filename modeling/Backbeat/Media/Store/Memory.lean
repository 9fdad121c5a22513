import Backbeat.Data.Table
import Backbeat.Media.Store

/-!
# An object store in memory

Objects are kept in a table.  A body is read to its end before anything is kept, so a body that
breaks changes no object; the attempt is counted all the same.
-/

namespace Backbeat

structure StoredObject where
  contentType : String
  data : ByteArray

/-- A store that keeps its objects in memory and counts the bodies it was offered. -/
structure MemoryStore where
  objects : Table String StoredObject := .empty
  puts : Nat := 0

namespace MemoryStore

def empty : MemoryStore := {}

def sliceSize : Nat := 8 * 1024

def insert (store : MemoryStore) (key : String) (object : StoredObject) : MemoryStore :=
  { store with objects := store.objects.insert key object }

def object? (store : MemoryStore) (key : String) : Option StoredObject :=
  store.objects.get? key

/-- The object under a key, which must be there. -/
def object (store : MemoryStore) (key : String) : Except MediaError StoredObject :=
  match store.object? key with
  | some object => .ok object
  | none => .error (.notFound key)

def stat (store : MemoryStore) (key : String) : Except MediaError ObjectHead :=
  (store.object key).map fun object => ⟨object.data.size, object.contentType⟩

/-- The bytes of a span of an object.  The span's end must lie in the object, and its start may
not be more than one past its end. -/
def cut (data : ByteArray) (span : Span) : Checked (Except MediaError ByteArray) :=
  if data.size ≤ span.stop then .ok (.error (.invalidRange (.outside span.contentRange)))
  else if span.stop + 1 < span.start then .error (.sliceOrder span.start (span.stop + 1))
  else .ok (.ok (data.extract span.start (span.stop + 1)))

/-- The stream of a stored byte string. -/
def streamOf (data : ByteArray) : ByteStream :=
  .ofChunks (slices sliceSize data)

def getRange (store : MemoryStore) (key : String) (span : Option Span) :
    Checked (Except MediaError ByteStream) :=
  match store.object key, span with
  | .error missing, _ => .ok (.error missing)
  | .ok object, none => .ok (.ok (streamOf object.data))
  | .ok object, some span => (cut object.data span).map fun data => data.map streamOf

def put (store : MemoryStore) (key contentType : String) (body : ByteStream) :
    Except MediaError PutReceipt × MemoryStore :=
  let counted := { store with puts := store.puts + 1 }
  match body.collect with
  | .error fault => (.error (.stream fault), counted)
  | .ok data => (.ok ⟨none, data.size⟩, counted.insert key { contentType, data })

/-- The URL that fetches an object, whether or not it is there. -/
def presign (key : String) (seconds : Nat) : String :=
  s!"memory://{key}?op=get&expires_in={seconds}"

instance : ObjectStore MemoryStore where
  stat key := .answer fun store => (store.stat key, store)
  getRange key span := fun store => (store.getRange key span).map fun result => (result, store)
  put key contentType body := .answer fun store => store.put key contentType body
  presignGet key seconds := pure (presign key seconds)

end MemoryStore

end Backbeat
