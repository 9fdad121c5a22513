import Backbeat.Feed.Selector
import Backbeat.Media.Service
import Backbeat.Text.Header
import Backbeat.Web.Error

/-!
# The application

The application works on an object store, a keeper of histories and a repository.  A site says
how it is to work; a moment brings what no request knows: the time and the outcomes of chance.
-/

namespace Backbeat.Web

structure App (σ μ ρ : Type) where
  store : σ
  feed : Feed μ ρ

structure Site where
  media : MediaService
  historyBound : Nat := defaultHistoryLength

/-- The time of a request in seconds, and the outcomes of chance for it: the choice among beats,
the names of new media, and a name for the request. -/
structure Moment where
  now : Int
  choice : Choice
  mint : MediaKind → Uuid
  requestId : Uuid

abbrev Handler (σ μ ρ α : Type) : Type := Action (App σ μ ρ) WebError α

namespace Handler

variable {σ μ ρ α : Type}

def onStore (action : Action σ MediaError α) : Handler σ μ ρ α :=
  (action.mapError .media).onPart App.store fun store app => { app with store }

def onFeed (action : Action (Feed μ ρ) FeedError α) : Handler σ μ ρ α :=
  (action.mapError .feed).onPart App.feed fun feed app => { app with feed }

def onRepository (action : Action ρ RepositoryError α) : Handler σ μ ρ α :=
  (Feed.onRepository (action.mapError .repository)).onPart App.feed
    fun feed app => { app with feed }

def namedBeat [Repository ρ] (id : Uuid) : Handler σ μ ρ Beat :=
  onRepository (Repository.getById id)

end Handler

/-- The identifier that a segment of a path writes. -/
def readId (segment : String) : Except WebError Uuid :=
  match decodeSegment? segment with
  | none => .error .unreadableId
  | some text =>
    match Uuid.ofString? text with
    | some id => .ok id
    | none => .error (.badId text)

def readUser (request : Request) : Except WebError String :=
  match (request.header? WebError.userHeader).bind Text.plainText? with
  | none => .error .noUser
  | some text =>
    match Text.trimmed? text.toList with
    | none => .error .noUser
    | some user => .ok (String.ofList user)

/-- Refuse a medium of a beat that has not been uploaded. -/
def requireUploaded (uploaded : Bool) (medium : String) (beat : Beat) : Except WebError Unit :=
  if uploaded then .ok () else .error (.notUploaded medium beat.id)

end Backbeat.Web
