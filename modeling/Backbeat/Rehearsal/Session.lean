import Backbeat.Feed.Selector
import Backbeat.Rehearsal.History

/-!
# Sessions with a feed

A session is a run of selections, one after another, by any users.  Of each selection it is noted
how it ended and whether it cleared the history of its user; for the latter the calls to the
histories are listed.
-/

namespace Backbeat.Rehearsal

/-- A call to select a beat: who asks for what, how long the history is, and what is chosen. -/
structure FeedCall where
  user : String
  filter : Filter
  bound : Nat
  choice : Choice

/-- What a call came to, and whether it cleared the history on the way. -/
structure Pick where
  user : String
  result : Except FeedError Beat
  cleared : Bool

variable {μ ρ : Type} [SeenHistory μ] [Repository ρ]

/-- The feed with the calls to its histories listed. -/
def listed {μ ρ : Type} (feed : Feed μ ρ) : Feed (RehearsedHistory μ) ρ where
  history := { kept := feed.history }
  repository := feed.repository

def FeedCall.make (call : FeedCall) (feed : Feed μ ρ) : Checked (Pick × Feed μ ρ) := do
  let (result, after) ←
    (Feed.select call.bound call.choice call.user call.filter).run (listed feed)
  let cleared := after.history.calls.contains .clear
  return (⟨call.user, result, cleared⟩, ⟨after.history.kept, after.repository⟩)

def session : List FeedCall → Feed μ ρ → Checked (List Pick × Feed μ ρ)
  | [], feed => .ok ([], feed)
  | call :: rest, feed => do
    let (pick, after) ← call.make feed
    let (picks, last) ← session rest after
    return (pick :: picks, last)

end Backbeat.Rehearsal
