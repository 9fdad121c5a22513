import Backbeat.Web.App

/-!
# The feed

A user asks for the next beat and may say what it is to be like.  The answer is the beat with a
link to its cover, which is left out when the cover is missing or no link can be had.
-/

namespace Backbeat.Web

def readFilter (request : Request) : Except WebError Filter :=
  (Filter.ofQuery request.target.parameters).mapError .badFilter

def feedJson (beat : Beat) (cover : Option String) : Json :=
  beat.toJson.extend [("image_url", .orNull .str cover)]

variable {σ μ ρ : Type} [ObjectStore σ]

/-- The link to the cover of a beat, if one can be had. -/
def Site.cover (site : Site) (beat : Beat) : Handler σ μ ρ (Option String) := do
  if beat.imageUploaded then
    return (← (Handler.onStore (site.media.downloadUrl beat.imagePath)).attempt).toOption
  else
    return none

def Site.feed [SeenHistory μ] [Repository ρ] (site : Site) (moment : Moment) (request : Request) :
    Handler σ μ ρ Response := do
  let user ← Action.ofExcept (readUser request)
  let filter ← Action.ofExcept (readFilter request)
  let beat ← Handler.onFeed (Feed.select site.historyBound moment.choice user filter)
  return .ofJson 200 (feedJson beat (← site.cover beat))

end Backbeat.Web
