import Backbeat.Json.Record
import Backbeat.Media.Limits
import Backbeat.Media.Store
import Backbeat.Media.Upload

/-!
# Media in JSON

The objects that ranges, limits, uploads and receipts are written as.
-/

namespace Backbeat

/-- The object of a range; an open end is null. -/
def ByteRange.toJson (range : ByteRange) : Json :=
  .obj [("start", .nat range.start), ("end", .orNull .nat range.stop)]

/-- The object of a span, with its length and the header that announces it. -/
def Span.toJson (span : Span) : Checked Json := do
  let length ← span.length
  return .obj
    [("start", .nat span.start), ("end", .nat span.stop), ("total_size", .nat span.total),
      ("content_length", .nat length), ("content_range", .str span.contentRange)]

namespace SizeLimits

def toJson (limits : SizeLimits) : Json :=
  .obj
    [("file", .nat limits.file), ("archive", .nat limits.archive), ("image", .nat limits.image)]

/-- The limits of an object; one that is not given is the usual one. -/
def ofJson (value : Json) : SizeLimits :=
  let usual : SizeLimits := {}
  let limit := fun (name : String) (fallback : Nat) =>
    ((value.get? name).bind Json.nat?).getD fallback
  { file := limit "file" usual.file
    archive := limit "archive" usual.archive
    image := limit "image" usual.image }

end SizeLimits

def Upload.toJson (upload : Upload) : Json :=
  .obj
    [("media_type", .str upload.kind.name), ("content_type", .str upload.contentType),
      ("content_length", .int upload.declaredLength), ("name", .str upload.name),
      ("expiry", .int upload.expiry), ("upload_url", .str upload.url)]

def ObjectHead.toJson (head : ObjectHead) : Json :=
  .obj [("size", .nat head.size), ("content_type", .str head.contentType)]

def PutReceipt.toJson (receipt : PutReceipt) : Json :=
  .obj [("etag", .orNull .str receipt.etag), ("size", .nat receipt.size)]

end Backbeat
