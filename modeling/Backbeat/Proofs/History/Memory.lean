import Backbeat.History.Memory
import Backbeat.Proofs.Data.Outcomes
import Backbeat.Rehearsal.History

/-!
# What histories in memory do

A push that nobody interferes with commits at its first attempt, so a history with any budget
takes the item and drops what is beyond the bound.  What is done to one user's history leaves
the histories of the others as they are.
-/

namespace Backbeat

section Keeping

variable {σ : Type} {property : σ → Prop}

end Keeping

namespace MemoryHistory

variable {user other item : String} {bound : Nat} {items : List String}

theorem snapshot_write (history : MemoryHistory) (user other : String) (list : VersionedList) :
    (history.write user list).snapshot other =
      if user = other then list else history.snapshot other := by
  show ((history.lists.insert user list).get? other).getD {} = _
  rw [Table.get?_insert]
  split <;> rfl

/-- Writing to one user's list leaves the others as they are. -/
theorem items_write_of_ne (history : MemoryHistory) (list : VersionedList)
    (different : user ≠ other) :
    (history.write user list).items other = history.items other := by
  unfold items
  rw [snapshot_write, if_neg different]

/-- Dropping one item after the other leaves the latest ones, and room for one more. -/
theorem dropWhileFull_eq_take (bound : Nat) (items : List String) :
    dropWhileFull bound items = items.take (bound - 1) := by
  induction items using dropWhileFull.induct bound with
  | case1 items none =>
    rw [dropWhileFull, if_pos none, List.isEmpty_iff.mp none, List.take_nil]
  | case2 items some full ih =>
    rw [dropWhileFull, if_neg some, if_pos full, ih, List.dropLast_eq_take, List.take_take]
    congr 1
    omega
  | case3 items some short =>
    rw [dropWhileFull, if_neg some, if_neg short, List.take_of_length_le]
    omega

theorem evict_eq_cons_take (bound : Nat) (item : String) (items : List String) :
    evict bound item items = item :: items.take (bound - 1) := by
  rw [evict, dropWhileFull_eq_take]

/-- Only the latest items up to the bound count when one more is put at the head. -/
theorem evict_take (item : String) (recent : List String) (room : bound ≠ 0) :
    evict bound item (recent.take bound) = (item :: recent).take bound := by
  rcases Nat.exists_eq_succ_of_ne_zero room with ⟨more, rfl⟩
  rw [evict_eq_cons_take, Nat.succ_sub_one, List.take_take, Nat.min_eq_left (Nat.le_succ more),
    List.take_succ_cons]

/-- The histories after an item was put at the head of one. -/
def afterPush (history : MemoryHistory) (user item : String) (bound : Nat) : MemoryHistory :=
  history.write user
    ⟨(history.snapshot user).version + 1, evict bound item (history.items user)⟩

@[simp]
theorem items_afterPush (history : MemoryHistory) (user item : String) (bound : Nat) :
    (history.afterPush user item bound).items user = evict bound item (history.items user) := by
  show ((history.write user _).snapshot user).items = _
  rw [snapshot_write, if_pos rfl]

@[simp]
theorem items_clear (history : MemoryHistory) (user : String) :
    (history.clear user).items user = [] := by
  rw [clear]
  split
  · next absent =>
    show (history.lists.getD user {}).items = []
    rw [Table.getD, absent]
    rfl
  · show ((history.write user _).snapshot user).items = []
    rw [snapshot_write, if_pos rfl]

theorem items_clear_of_ne (history : MemoryHistory) (different : user ≠ other) :
    (history.clear user).items other = history.items other := by
  rw [clear]
  split
  · rfl
  · exact items_write_of_ne history _ different

@[simp]
theorem retryBudget_clear (history : MemoryHistory) (user : String) :
    (history.clear user).retryBudget = history.retryBudget := by
  rw [clear]
  split <;> rfl

/-! ## Runs -/

theorem run_seen (history : MemoryHistory) (user : String) :
    (SeenHistory.seen user).run history = .ok (.ok (history.items user), history) := rfl

theorem run_clear (history : MemoryHistory) (user : String) :
    (SeenHistory.clear user).run history = .ok (.ok (), history.clear user) := rfl

/-- An attempt finds the version that it has just read. -/
theorem run_tryPush (history : MemoryHistory) (user item : String) (bound : Nat) :
    (tryPush user item bound).run history =
      .ok (.ok .committed, history.afterPush user item bound) := by
  have swapped : history.compareAndSwap user (history.snapshot user).version
      (evict bound item (history.items user)) =
        (.committed, history.afterPush user item bound) := if_pos rfl
  exact congrArg (fun swap => Except.ok (Except.ok swap.1, swap.2)) swapped

/-- A user's history has these items, and a push may be tried. -/
structure Ready (history : MemoryHistory) (user : String) (items : List String) : Prop where
  items_eq : history.items user = items
  budgeted : history.retryBudget ≠ 0

theorem Ready.push {history : MemoryHistory} (ready : history.Ready user items) (item : String)
    (bound : Nat) : (history.afterPush user item bound).Ready user (evict bound item items) where
  items_eq := by rw [items_afterPush, ready.items_eq]
  budgeted := ready.budgeted

theorem Ready.write {history : MemoryHistory} (ready : history.Ready user items)
    (different : other ≠ user) (list : VersionedList) :
    (history.write other list).Ready user items where
  items_eq := (items_write_of_ne history list different).trans ready.items_eq
  budgeted := ready.budgeted

theorem Ready.clear {history : MemoryHistory} (ready : history.Ready user items)
    (different : other ≠ user) : (history.clear other).Ready user items where
  items_eq := (items_clear_of_ne history different).trans ready.items_eq
  budgeted := by simpa using ready.budgeted

end MemoryHistory

namespace Rehearsal.RehearsedHistory

variable {μ α : Type}

/-- A call that is not to fail is listed and made. -/
theorem run_call {listed : HistoryCall} {fault : RehearsedHistory μ → Option FeedError}
    {action : Action μ FeedError α} {kept after : μ} {calls : List HistoryCall}
    {result : Except FeedError α}
    (faultless : fault { kept, calls := listed :: calls } = none)
    (ran : action.run kept = .ok (result, after)) :
    (call listed fault action).run { kept, calls } =
      .ok (result, { kept := after, calls := listed :: calls }) := by
  rw [call, Action.run_bind_of_ok (Action.run_change _ _),
    Action.run_bind_of_ok (Action.run_look fault _), faultless]
  exact Action.run_onPart ran

section Calls

variable [SeenHistory μ] {user item : String} {bound : Nat} {kept after : μ}
  {calls : List HistoryCall} {property : μ → Prop}

theorem run_seen {result : Except FeedError (List String)} (calls : List HistoryCall)
    (ran : (SeenHistory.seen user).run kept = .ok (result, after)) :
    (SeenHistory.seen user).run ({ kept, calls } : RehearsedHistory μ) =
      .ok (result, { kept := after, calls := .seen :: calls }) :=
  run_call rfl ran

theorem run_clear {result : Except FeedError Unit}
    (ran : (SeenHistory.clear user).run kept = .ok (result, after)) :
    (SeenHistory.clear user).run ({ kept, calls } : RehearsedHistory μ) =
      .ok (result, { kept := after, calls := .clear :: calls }) :=
  run_call rfl ran

end Calls

end Rehearsal.RehearsedHistory

end Backbeat
