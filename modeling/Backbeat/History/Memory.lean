import Backbeat.Data.Table
import Backbeat.Feed.Bounds
import Backbeat.History.Retry
import Backbeat.History.Store

/-!
# Histories in memory

Each history carries the number of times it was written.  A push reads a history with its number,
works out the new list, and writes it only if the number is still the same.  Clearing counts as
writing, so a push that read the history before it was cleared conflicts.  The three atomic steps
are `snapshot`, `compareAndSwap` and `clear`.
-/

namespace Backbeat

structure VersionedList where
  version : Nat := 0
  items : List String := []
deriving DecidableEq

structure MemoryHistory where
  lists : Table String VersionedList := .empty
  retryBudget : Nat := defaultRetryBudget

namespace MemoryHistory

/-- A user's history with its version; a user without one has the empty list at version zero. -/
def snapshot (history : MemoryHistory) (user : String) : VersionedList :=
  history.lists.getD user {}

def items (history : MemoryHistory) (user : String) : List String :=
  (history.snapshot user).items

def write (history : MemoryHistory) (user : String) (list : VersionedList) : MemoryHistory :=
  { history with lists := history.lists.insert user list }

/-- Replace a user's list if its version is the expected one. -/
def compareAndSwap (history : MemoryHistory) (user : String) (expected : Nat)
    (items : List String) : Attempt × MemoryHistory :=
  let current := history.snapshot user
  if current.version = expected then (.committed, history.write user ⟨current.version + 1, items⟩)
  else (.conflict, history.write user current)

/-- Drop a user's items.  A user without a history gets none by this. -/
def clear (history : MemoryHistory) (user : String) : MemoryHistory :=
  match history.lists.get? user with
  | none => history
  | some list => history.write user ⟨list.version + 1, []⟩

/-- Drop items from the end of a list as long as there are `bound` of them or more. -/
def dropWhileFull (bound : Nat) (items : List String) : List String :=
  -- A bound of zero was refused before, so an empty list is below the bound.
  if items.isEmpty then items
  else if bound ≤ items.length then dropWhileFull bound items.dropLast
  else items
termination_by items.length
decreasing_by
  rw [List.length_dropLast]
  exact Nat.sub_lt (List.length_pos_iff.mpr (by simp_all)) Nat.one_pos

/-- A list with one more item at its head, for which room below the bound was made first. -/
def evict (bound : Nat) (item : String) (items : List String) : List String :=
  item :: dropWhileFull bound items

def tryPush (user item : String) (bound : Nat) : Action MemoryHistory FeedError Attempt := do
  let list ← Action.look (·.snapshot user)
  Action.answer fun history =>
    let (attempt, after) := history.compareAndSwap user list.version (evict bound item list.items)
    (.ok attempt, after)

instance : SeenHistory MemoryHistory where
  seen user := .look (·.items user)
  push user item bound := do
    checkBound bound
    let budget ← Action.look (·.retryBudget)
    retry budget fun _ => tryPush user item bound
  clear user := .change (·.clear user)

end MemoryHistory

end Backbeat
