import Backbeat.Feed.Bounds
import Backbeat.History.Store

/-!
# Selecting the next beat

A user is served a beat that a filter accepts and that is not in the user's history, and the beat
is recorded.  When every such beat is in the history, the history is cleared and the choice is
made once more among all of them.
-/

namespace Backbeat

/-- What the feed works on: a keeper of histories and a repository. -/
structure Feed (μ ρ : Type) where
  history : μ
  repository : ρ

namespace Feed

variable {μ ρ : Type} [SeenHistory μ] [Repository ρ]

def onHistory {μ ρ ε α : Type} (action : Action μ ε α) : Action (Feed μ ρ) ε α :=
  action.onPart Feed.history fun history feed => { feed with history }

def onRepository {μ ρ ε α : Type} (action : Action ρ ε α) : Action (Feed μ ρ) ε α :=
  action.onPart Feed.repository fun repository feed => { feed with repository }

/-- Find a beat outside a history, or clear the history and find one again. -/
def findUnseen (choice : Choice) (user : String) (filter : Filter) (seen : List String) :
    Action (Feed μ ρ) FeedError Beat := do
  match ← (onRepository (Repository.findMatching choice filter seen)).attempt with
  | .ok beat => pure beat
  | .error error =>
    if error.isNotFound then
      onHistory (SeenHistory.clear user)
      (onRepository (Repository.findMatching choice filter [])).mapError .ofRepository
    else
      .fail (.ofRepository error)

/-- Find the next beat for a user and record it in a history of at most `bound` beats. -/
def serve (bound : Nat) (choice : Choice) (user : String) (filter : Filter) :
    Action (Feed μ ρ) FeedError Beat := do
  let seen ← onHistory (SeenHistory.seen user)
  let beat ← findUnseen choice user filter seen
  onHistory (SeenHistory.push user beat.idText bound)
  return beat

/-- Select the next beat for a user, who must have a name. -/
def select (bound : Nat) (choice : Choice) (user : String) (filter : Filter) :
    Action (Feed μ ρ) FeedError Beat :=
  if user.isEmpty then .fail (.invalid .noUser) else serve bound choice user filter

end Feed

end Backbeat
