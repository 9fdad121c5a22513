import Backbeat.Media.Pipe
import Backbeat.Media.Range.Header
import Backbeat.Web.App

/-!
# Streaming a beat

The audio of a beat is served whole, or in the part that a range asks for.  The response
announces the length of what it carries and, for a part, which bytes of how many they are.
-/

namespace Backbeat.Web

def readRange (request : Request) : Except WebError (Option ByteRange) :=
  let asked : Except RangeFault (Option ByteRange) :=
    match request.header? "range" with
    | none => .ok none
    | some octets =>
      match Text.plainText? octets with
      | none => .error .notPlain
      | some header => ByteRange.ofHeader header
  asked.mapError fun fault => .media (.invalidRange fault)

/-- A response that carries `body`, without saying of which bytes of the object. -/
def announced (status : Nat) (contentType : String) (length : Nat) (body : ByteArray) : Response :=
  (({ status, body : Response }.withHeader "content-type" contentType).withHeader "content-length"
    (toString length)).withHeader "accept-ranges" "bytes"

/-- The response with an object that was opened, if its content type can be told. -/
def mediaResponse (media : OpenedMedia) (length : Nat) (body : ByteArray) :
    Except WebError Response :=
  if Text.isHeaderText media.contentType then
    match media.span with
    | none => .ok (announced 200 media.contentType length body)
    | some span =>
      .ok ((announced 206 media.contentType length body).withHeader "content-range"
        span.contentRange)
  else
    .error (.unsendable media.contentType)

namespace Site

variable {σ μ ρ : Type} [ObjectStore σ] [Repository ρ]

/-- Serve the audio of a beat that has been found. -/
def audio (site : Site) (beat : Beat) (request : Request) : Handler σ μ ρ Response := do
  let range ← Action.ofExcept (readRange request)
  let media ← Handler.onStore (MediaService.openMedia beat.filePath range)
  let length ← Action.ofChecked media.length
  let body ← Action.ofChecked (openPipe site.media.settings.chunkSize media.stream none)
  Action.ofExcept (mediaResponse media length body)

/-- Serve the audio of the beat that a path names. -/
def stream (site : Site) (segment : String) (request : Request) : Handler σ μ ρ Response := do
  let id ← Action.ofExcept (readId segment)
  let beat ← Handler.namedBeat id
  Action.ofExcept (requireUploaded beat.fileUploaded "audio" beat)
  site.audio beat request

end Site

end Backbeat.Web
