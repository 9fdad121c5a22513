import Backbeat.Web.Archive
import Backbeat.Web.Feed
import Backbeat.Web.Route
import Backbeat.Web.Stream
import Backbeat.Web.Upload

/-!
# Answering requests

Every request gets a response: what is served, why it is not served, or that the path or the
method is none of those served.  A request that asks about something gets the response to
fetching it without the body.  Each response carries the name of its request, which is made up
when the request has none.
-/

namespace Backbeat.Web

def requestIdHeader : String := "x-request-id"

/-- The response with the name of its request. -/
def Response.named (response : Response) (moment : Moment) (request : Request) : Response :=
  let name := (request.header? requestIdHeader).getD (Text.Utf8.encode moment.requestId.toString)
  { response with headers := response.headers ++ [(requestIdHeader, name)] }

/-- The response to a request about a path that is not served. -/
def unknownPath : Response where
  status := 404

/-- The response to a request by a method that a route is not served by. -/
def wrongMethod (route : Route) : Response :=
  (Response.withHeader { status := 405 } "allow" route.allowed).withLength

/-- The response to a request by this method, of which asking gets only the headers. -/
def Response.forMethod (response : Response) (method : Method) : Response :=
  if method = .head then response.withoutBody else response

namespace Site

variable {σ μ ρ : Type} [ObjectStore σ] [SeenHistory μ] [Repository ρ]

def serve (site : Site) (moment : Moment) (request : Request) : Route → Handler σ μ ρ Response
  | .upload => site.upload moment request
  | .feed => site.feed moment request
  | .issue => site.issue moment
  | .stream segment => site.stream segment request
  | .archive segment => site.archive segment request

/-- The response of a handler, which a refusal has too. -/
def settle (handler : Handler σ μ ρ Response) (app : App σ μ ρ) :
    Checked (Response × App σ μ ρ) :=
  match handler.run app with
  | .error trap => .error trap
  | .ok (.ok response, after) => .ok (response, after)
  | .ok (.error error, after) => .ok (error.response, after)

def dispatch (site : Site) (moment : Moment) (request : Request) (app : App σ μ ρ) :
    Checked (Response × App σ μ ρ) :=
  match Route.ofSegments? request.target.segments with
  | none => .ok (unknownPath, app)
  | some route =>
    if route.serves request.method then settle (site.serve moment request route) app
    else .ok (wrongMethod route, app)

def respond (site : Site) (moment : Moment) (request : Request) (app : App σ μ ρ) :
    Checked (Response × App σ μ ρ) :=
  (site.dispatch moment request app).map fun (response, after) =>
    ((response.forMethod request.method).named moment request, after)

end Site

end Backbeat.Web
