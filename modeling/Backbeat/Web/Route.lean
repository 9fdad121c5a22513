import Backbeat.Media.Signature
import Backbeat.Web.Message

/-!
# Routes

Five paths are served, each by one method; whatever is fetched may also be asked about.  Paths
are compared before anything in them is decoded, and a beat's identifier is whatever stands in
its segment.
-/

namespace Backbeat.Web

inductive Route where
  | upload
  | feed
  | issue
  | stream (id : String)
  | archive (id : String)
deriving DecidableEq

namespace Route

/-- The route with these segments of its path.  An identifier is not read for this, so its segment
may be empty, too: that is a bad request about a beat, and not an unknown path. -/
def ofSegments? : List String → Option Route
  | ["", "v1", "beat"] => some .upload
  | ["", "v1", "beat", "feed"] => some .feed
  | ["", "v1", "beat", "upload-urls"] => some .issue
  | ["", "v1", "beat", id, "stream"] => some (.stream id)
  | ["", "v1", "beat", id, "archive"] => some (.archive id)
  | _ => none

def segments : Route → List String
  | .upload => ["", "v1", "beat"]
  | .feed => ["", "v1", "beat", "feed"]
  | .issue => ["", "v1", "beat", "upload-urls"]
  | .stream id => ["", "v1", "beat", id, "stream"]
  | .archive id => ["", "v1", "beat", id, "archive"]

@[simp]
theorem ofSegments?_segments (route : Route) : ofSegments? route.segments = some route := by
  cases route <;> simp [ofSegments?, segments]

def method : Route → Method
  | .upload => .put
  | .issue => .post
  | _ => .get

def serves (route : Route) (method : Method) : Bool :=
  method = route.method || (method = .head && route.method = .get)

/-- The methods that a route is served by, as they are announced. -/
def allowed (route : Route) : String :=
  if route.method = .get then "GET,HEAD" else route.method.name

end Route

end Backbeat.Web
