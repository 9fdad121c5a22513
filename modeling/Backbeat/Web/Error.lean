import Backbeat.Feed.Error
import Backbeat.Media.Error
import Backbeat.Web.Message

/-!
# Refusals of requests

Why a request is not served, in which words, and how it is answered.  A path that cannot be read
is answered in plain text; everything else is answered with the failure that the report shows.
-/

namespace Backbeat.Web

inductive WebError where
  | unreadableId
  | badId (text : String)
  | noUser
  | noLength
  | badLength
  | notUploaded (medium : String) (beat : Uuid)
  | foreignOwner
  | badFilter (problems : List Filter.QueryProblem)
  | unsendable (contentType : String)
  | media (error : MediaError)
  | feed (error : FeedError)
  | repository (error : RepositoryError)

namespace WebError

/-- The header that says who the user is. -/
def userHeader : String := "x-user-id"

def report : WebError → Report
  | .unreadableId =>
    .ofFailure { kind := .badRequest, message := "Invalid URL: Invalid UTF-8 in `id`" }
  | .badId text => .ofFailure { kind := .badRequest, message := "invalid beat id `" ++ text ++ "`" }
  | .noUser => .ofFailure { kind := .notAuthenticated, message := s!"missing {userHeader} header" }
  | .noLength => .ofFailure { kind := .lengthRequired, message := "Content-Length is required" }
  | .badLength => .ofFailure { kind := .badRequest, message := "invalid Content-Length" }
  | .notUploaded medium beat =>
    .ofFailure { kind := .notFound, message := s!"{medium} for beat {beat} has not been uploaded" }
  | .foreignOwner =>
    .ofFailure
      { kind := .forbidden, message := "beat acquired by another owner"
        reason := some "InvalidOwner" }
  | .badFilter problems => .ofFailure (Filter.problemsFailure problems)
  | .unsendable contentType => .ofText s!"the content type {contentType} cannot be sent"
  | .media error => error.report
  | .feed error => error.report
  | .repository error => error.report

def response (error : WebError) : Response :=
  match error with
  | .unreadableId =>
    .ofText error.report.shown.kind.code error.report.shown.message
  | _ => .ofFailure error.report.shown

end WebError

end Backbeat.Web
