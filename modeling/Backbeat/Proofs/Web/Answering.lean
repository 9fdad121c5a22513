import Backbeat.Catalog.Memory
import Backbeat.Web.Service

/-!
# From a request to its handler

Answering a request comes down to running the handler of its route: the response is the one that
the handler ends with, or the one that its refusal has, with the name of the request added.  The
lemmas here carry runs of the store and of the catalog into handlers, and read the headers of a
finished response.
-/

namespace Backbeat.Web

namespace Handler

variable {σ μ ρ α : Type} {app : App σ μ ρ}

theorem run_onStore {action : Action σ MediaError α} {result : Except MediaError α} {after : σ}
    (ran : action.run app.store = .ok (result, after)) :
    (onStore action : Handler σ μ ρ α).run app =
      .ok (result.mapError .media, { app with store := after }) :=
  Action.run_onPart (Action.run_mapError WebError.media ran)

theorem run_onRepository {action : Action ρ RepositoryError α} {result : Except RepositoryError α}
    {after : ρ} (ran : action.run app.feed.repository = .ok (result, after)) :
    (onRepository action : Handler σ μ ρ α).run app =
      .ok (result.mapError .repository,
        { app with feed := { app.feed with repository := after } }) :=
  Action.run_onPart (Action.run_onPart (Action.run_mapError WebError.repository ran))

/-- Looking a beat up changes nothing. -/
theorem run_namedBeat {app : App σ μ MemoryCatalog} {id : Uuid} {beat : Beat}
    (listed : app.feed.repository.getById id = .ok beat) :
    (namedBeat id : Handler σ μ MemoryCatalog Beat).run app = .ok (.ok beat, app) := by
  have found : (Repository.getById id : Action MemoryCatalog RepositoryError Beat).run
      app.feed.repository = .ok (.ok beat, app.feed.repository) := by
    rw [← listed]
    rfl
  rw [namedBeat, onRepository, Feed.onRepository]
  rw [Action.run_onPart (Action.run_onPart (Action.run_mapError WebError.repository found))]
  rfl

end Handler

namespace Response

theorem get?_append (headers more : Headers) (name : String) :
    Headers.get? (headers ++ more) name = (headers.get? name).or (more.get? name) := by
  unfold Headers.get?
  rw [List.find?_append]
  cases headers.find? fun header => Text.sameCaseless header.1 name <;> rfl

/-- A header is told apart from those of other names. -/
theorem header?_withHeader_of_ne (response : Response) (value : String) {name wanted : String}
    (other : Text.sameCaseless name wanted = false) :
    (response.withHeader name value).header? wanted = response.header? wanted := by
  unfold withHeader header?
  rw [get?_append]
  simp [Headers.get?, other]

/-- A header that was not there before is found. -/
theorem header?_withHeader (response : Response) (value : String) {name wanted : String}
    (same : Text.sameCaseless name wanted = true) (absent : response.header? wanted = none) :
    (response.withHeader name value).header? wanted = some (Text.Utf8.encode value) := by
  rw [withHeader, header?] at *
  rw [get?_append, absent]
  simp [Headers.get?, same]

/-- The name of its request is told apart from every other header of a response. -/
theorem header?_named (response : Response) (moment : Moment) (request : Request) {name : String}
    (other : Text.sameCaseless requestIdHeader name = false) :
    (response.named moment request).header? name = response.header? name := by
  unfold named header?
  rw [get?_append]
  simp [Headers.get?, other]

end Response

/-- No route is for asking only. -/
theorem Route.method_ne_head (route : Route) : route.method ≠ .head := by
  cases route <;> simp [method]

namespace Site

variable {σ μ ρ : Type} [ObjectStore σ] [SeenHistory μ] [Repository ρ] {site : Site}
  {moment : Moment} {request : Request} {app after : App σ μ ρ} {route : Route}

/-- The answer to a request by the method of its route is what the handler ends with. -/
theorem respond_of_run {result : Except WebError Response}
    (routed : request.target.segments = route.segments) (method : request.method = route.method)
    (ran : (site.serve moment request route).run app = .ok (result, after)) :
    site.respond moment request app =
      .ok ((match result with
        | .ok response => response
        | .error error => error.response).named moment request, after) := by
  have served : route.serves request.method = true := by simp [Route.serves, method]
  have fetched : request.method ≠ .head := method ▸ route.method_ne_head
  rw [respond, dispatch, routed, Route.ofSegments?_segments]
  simp only [served, if_true, settle, ran]
  cases result <;> simp [Except.map, Response.forMethod, fetched]

/-- A handler that traps answers nothing. -/
theorem respond_of_trap {trap : Trap} (routed : request.target.segments = route.segments)
    (method : request.method = route.method)
    (trapped : (site.serve moment request route).run app = .error trap) :
    site.respond moment request app = .error trap := by
  have served : route.serves request.method = true := by simp [Route.serves, method]
  rw [respond, dispatch, routed, Route.ofSegments?_segments]
  simp only [served, if_true, settle, trapped]
  rfl

theorem respond_of_ok {response : Response} (routed : request.target.segments = route.segments)
    (method : request.method = route.method)
    (ran : (site.serve moment request route).run app = .ok (.ok response, after)) :
    site.respond moment request app = .ok (response.named moment request, after) :=
  respond_of_run routed method ran

theorem respond_of_error {error : WebError} (routed : request.target.segments = route.segments)
    (method : request.method = route.method)
    (ran : (site.serve moment request route).run app = .ok (.error error, after)) :
    site.respond moment request app = .ok (error.response.named moment request, after) :=
  respond_of_run routed method ran

end Site

end Backbeat.Web
