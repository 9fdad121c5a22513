import Backbeat.Catalog.Memory
import Backbeat.History.Memory
import Backbeat.Media.Store.Memory
import Backbeat.Rehearsal.Session
import Backbeat.Web.App

/-!
# A small site

A beat with its audio and another one, a site that serves the first in chunks of two bytes, and a
moment at which chance picks whatever comes first.
-/

namespace Backbeat.Rehearsal.Sample

def beat : Beat where
  id := .ofNat 0x8d1c0f5e6a0f4ab89b9c0c6f7a3c2b11
  beatmaker := .ofNat 0x2f0e3b1a1b444c2e8f0e7c7b7b0c9a22
  name := "Night Drive"
  bpm := 92
  filePath := "night.mp3"
  fileUploaded := true
  createdAt :=
    ⟨⟨2024, 1, 1, by decide, by decide⟩,
      ⟨0, 0, 0, 0, by decide, by decide, by decide, by decide⟩⟩

/-- Another beat of the same beatmaker. -/
def reprise : Beat :=
  { beat with
    id := .ofNat 0x51b3f6ad2c0e4d7f9a41e08b6c5d7f20
    name := "Reprise"
    bpm := 120
    filePath := "reprise.mp3" }

def audio : StoredObject where
  contentType := "audio/mpeg"
  data := [10, 20, 30, 40, 50].toByteArray

def signer : Signer where
  tag := Digest.hmacSha256 "s3cret".toUTF8

/-- A site whose chunks are of two bytes. -/
def site : Web.Site where
  media := { signer, settings := { chunkSize := 2 } }

/-- A moment in which chance picks what comes first. -/
def moment : Web.Moment where
  now := 1700000000
  choice := .first
  mint _ := .ofNat 7
  requestId := .ofNat 9

def app : Web.App MemoryStore MemoryHistory MemoryCatalog where
  store := MemoryStore.empty.insert "night.mp3" audio
  feed := { history := {}, repository := .ofBeats [beat] }

def streamRequest (range : String) : Web.Request where
  method := .get
  target := { path := "/v1/beat/8d1c0f5e-6a0f-4ab8-9b9c-0c6f7a3c2b11/stream" }
  headers := [("range", Text.Utf8.encode range)]

/-- A request to upload an image of two bytes, to a URL that the site has signed. -/
def uploadRequest : Web.Request where
  method := .put
  target :=
    { path := "/v1/beat"
      query :=
        "name=cover&type=image&exp=1700000600&hash=3GE7avis49q7-B2nhA0QrfNTU9NyTOgz0LTe5T5Fbv8" }
  headers :=
    [("content-length", Text.Utf8.encode "2"), ("content-type", Text.Utf8.encode "image/png")]
  body := [.data [1, 2].toByteArray]

/-- Calls for the next beat by two users, one of whom comes between the calls of the other. -/
def calls (bound : Nat) : List FeedCall :=
  [⟨"ann", {}, bound, .first⟩, ⟨"bob", {}, 3, .first⟩, ⟨"ann", {}, bound, .leastId⟩,
    ⟨"ann", {}, bound, .first⟩]

end Backbeat.Rehearsal.Sample
