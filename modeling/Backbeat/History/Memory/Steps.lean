import Backbeat.History.Memory
import Backbeat.History.Request

/-!
# The steps of histories in memory

An attempt at a push has two atomic steps, between which others may write: taking a snapshot, and
the compare-and-swap.  Reading and clearing have one each.  A change has taken hold when the swap
has, or when the history was cleared.
-/

namespace Backbeat.MemoryHistory

def attemptSteps (user item : String) (bound : Nat) :
    Process MemoryHistory HistoryChange FeedError Attempt := do
  let list ← .look (·.snapshot user)
  .atomic
    (fun history =>
      let (attempt, after) := history.compareAndSwap user list.version (evict bound item list.items)
      (.ok attempt, after))
    fun
      | .ok .committed => some (.push user item bound)
      | _ => none

def clearStep (user : String) : Process MemoryHistory HistoryChange FeedError Unit :=
  .atomic (fun history => (.ok (), history.clear user)) fun _ => some (.clear user)

def steps : HistorySteps MemoryHistory where
  seen user := .look (·.items user)
  attempt := attemptSteps
  clear := clearStep

/-- The steps of a request in a row are the call that it stands for. -/
theorem whole_process (request : HistoryRequest) (history : MemoryHistory) :
    (steps.process history.retryBudget request).whole.run history =
      request.call.run history := by
  cases request with
  | seen user => rfl
  | clear user => rfl
  | push user item bound =>
    have push : (SeenHistory.push user item bound : Action MemoryHistory FeedError Unit) =
      checkBound bound >>= fun _ => Action.look (·.retryBudget) >>= fun budget =>
        retry budget fun _ => tryPush user item bound := rfl
    simp only [HistorySteps.process, HistoryRequest.call, Process.whole_bind,
      Process.whole_checkBound, Process.whole_retry, push]
    by_cases none : bound = 0
    · simp only [checkBound, if_pos none]
      rfl
    · simp only [checkBound, if_neg none]
      rfl

end Backbeat.MemoryHistory
