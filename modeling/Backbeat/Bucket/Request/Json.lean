import Backbeat.Bucket.Request
import Backbeat.Json.Value
import Backbeat.Media.Range

/-!
# Requests in JSON

A request to an object service is listed as an object: its name and key, and whatever else it
says, except that only the size of what it brings is told.
-/

namespace Backbeat.Bucket.Request

/-- A part that is listed by its number and its tag. -/
def partJson (number : Nat) (etag : Option String) : Json :=
  .arr [.str (toString number), .orNull .str etag]

/-- The members that only requests of one name have. -/
def ownMembers : Request → List (String × Json)
  | .getObject _ _ range =>
    [("range", .orNull (fun (start, stop) => .str (Span.header ⟨start, stop, 0⟩)) range)]
  | .uploadPart _ _ _ number _ => [("part", .nat number)]
  | .completeUpload _ _ _ parts =>
    [("parts", .arr (parts.map fun (number, etag) => partJson number etag))]
  | _ => []

def toJson (request : Request) : Json :=
  .obj <|
    [("call", .str request.name), ("key", .str (request.key?.getD ""))] ++
    (request.contentType?.map fun kind => ("content_type", Json.str kind)).toList ++
    (request.data?.map fun data => ("size", Json.nat data.size)).toList ++
    (request.upload?.map fun upload => ("upload_id", Json.str upload)).toList ++
    request.ownMembers

end Backbeat.Bucket.Request
