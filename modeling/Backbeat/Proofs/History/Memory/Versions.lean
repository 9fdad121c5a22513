import Backbeat.History.Memory.Steps
import Backbeat.Proofs.History.Accounting
import Backbeat.Proofs.History.Memory

/-!
# Versions in memory

The version of a list never goes back, and as long as it stays the same, so does the list.  Hence
a swap that finds the version of its snapshot also finds the list of its snapshot, whatever was
done in between.  The main statement is that callers of histories in memory account for all their
changes, in whatever order they take their steps.
-/

namespace Backbeat

/-- A list that stands where another one stood: the same one, or one of a later version. -/
def VersionedList.Succeeds (earlier later : VersionedList) : Prop :=
  earlier = later ∨ earlier.version < later.version

namespace VersionedList.Succeeds

variable {first second third : VersionedList}

theorem trans (before : first.Succeeds second) (after : second.Succeeds third) :
    first.Succeeds third := by
  rcases before with rfl | older
  · exact after
  · rcases after with rfl | newer
    · exact .inr older
    · exact .inr (Nat.lt_trans older newer)

theorem eq_of_version_eq (succeeds : first.Succeeds second)
    (same : second.version = first.version) : first = second := by
  rcases succeeds with equal | older
  · exact equal
  · exact absurd same.symm (Nat.ne_of_lt older)

end VersionedList.Succeeds

namespace MemoryHistory

variable {user item : String} {bound : Nat} {history : MemoryHistory} {list : VersionedList}

/-- Everyone has a stake in all versions, since nobody's steps take one back. -/
def versions : Discipline MemoryHistory (HistoryChange.appliedTo id) where
  Stake := Unit
  good _ := True
  held _ _ := True
  apart _ _ := True
  spares _ history after := ∀ user, (history.snapshot user).Succeeds (after.snapshot user)
  view := items
  apart_symm _ := trivial
  spares_refl _ _ _ := .inl rfl
  spares_trans before after user := (before user).trans (after user)
  held_of_spares _ _ := trivial

theorem allows_write {event : Option HistoryChange}
    (succeeds : (history.snapshot user).Succeeds list)
    (view_eq : (history.write user list).items =
      event.toList.foldl (HistoryChange.appliedTo id) history.items) :
    versions.Allows () () event history (history.write user list) where
  good := trivial
  view_eq := view_eq
  held := trivial
  apart _ _ _ := trivial
  spares _ _ _ other := by
    rw [snapshot_write]
    split
    · next same => exact same ▸ succeeds
    · exact .inl rfl

theorem items_write (history : MemoryHistory) (user other : String) (list : VersionedList) :
    (history.write user list).items other =
      if user = other then list.items else history.items other := by
  rw [items, snapshot_write]
  split <;> rfl

/-- A list of the next version makes the change that its items make. -/
theorem allows_write_next {change : HistoryChange} {items : List String}
    (owned : change.user = user) (applied : items = change.applied (history.items user)) :
    versions.Allows () () (some change) history
      (history.write user ⟨(history.snapshot user).version + 1, items⟩) := by
  refine allows_write (.inr (Nat.lt_succ_self _)) ?_
  funext other
  rw [items_write]
  show _ = HistoryChange.appliedTo id history.items change other
  rw [HistoryChange.appliedTo, owned, applied]
  split
  · next same => rw [if_pos (show id user = other from same), same]
  · next different => rw [if_neg (show ¬ id user = other from different)]

/-- To write the list that is there already is no change. -/
theorem allows_write_snapshot (history : MemoryHistory) (user : String) :
    versions.Allows () () none history (history.write user (history.snapshot user)) := by
  refine allows_write (.inl rfl) ?_
  funext other
  rw [items_write]
  split
  · next same => exact same ▸ rfl
  · rfl

/-- An attempt makes its change if the version of its snapshot is still there, and none
otherwise. -/
theorem sound_attemptSteps (user item : String) (bound : Nat) (history : MemoryHistory) :
    versions.Sound (· = []) (AttemptEnds () (.push user item bound)) [] () history
      (attemptSteps user item bound) := by
  have look : versions.Sound (· = [])
      (fun made _ history result => made = [] ∧ result = .ok (history.snapshot user)) [] () history
      (.look (·.snapshot user) : Process MemoryHistory HistoryChange FeedError VersionedList) :=
    .look rfl fun now _ _ _ => ⟨rfl, rfl⟩
  refine look.bind (by rintro _ _ _ _ ⟨-, impossible⟩; cases impossible) ?_
  rintro _ ⟨⟩ seen list ⟨rfl, taken⟩
  cases taken
  refine .atomic rfl ?_
  intro now _ _ spared
  refine ⟨(), ?_⟩
  by_cases current : (now.snapshot user).version = (seen.snapshot user).version
  · have same := (spared user).eq_of_version_eq current
    simp only [compareAndSwap, if_pos current]
    exact ⟨allows_write_next rfl (by rw [same, evict_eq_cons_take]; rfl), rfl⟩
  · simp only [compareAndSwap, if_neg current]
    exact ⟨allows_write_snapshot now user, rfl, rfl⟩

theorem allows_clear (history : MemoryHistory) (user : String) :
    versions.Allows () () (some (.clear user)) history (history.clear user) := by
  rw [clear]
  split
  · next absent =>
    -- Without an entry the history is empty already, so nothing changes but what is on record.
    have empty : history.items user = [] := by
      rw [items, snapshot, Table.getD, absent]
      rfl
    refine { Discipline.Allows.refl trivial trivial with view_eq := ?_ }
    funext other
    show history.items other = HistoryChange.appliedTo id history.items (.clear user) other
    rw [HistoryChange.appliedTo]
    split
    · next same => exact (show user = other from same) ▸ empty
    · rfl
  · next list present =>
    have found : history.snapshot user = list := by
      rw [snapshot, Table.getD, present]
      rfl
    rw [← found]
    exact allows_write_next rfl rfl

theorem sound_clearStep (user : String) (history : MemoryHistory) :
    versions.Sound (· = []) (CallEnds [.clear user]) [] () history (clearStep user) := by
  refine .atomic rfl ?_
  intro now _ _ _
  exact ⟨(), allows_clear now user, rfl⟩

theorem lawful_steps : steps.Lawful versions () where
  seen _ _ := .look rfl fun _ _ _ _ => rfl
  attempt user item bound history _ := sound_attemptSteps user item bound history
  clear := sound_clearStep

/-- Whoever calls, with whatever budgets, and in whatever order the steps of the calls follow each
other, every change of the histories is accounted for.  The steps of a call in a row are the call
itself. -/
theorem accounted_swaps {κ : Type} [DecidableEq κ] (start : MemoryHistory)
    (requests : κ → HistoryRequest) (budgets : κ → Nat) (turns : List κ) :
    (∀ (request : HistoryRequest) (history : MemoryHistory),
      (steps.process history.retryBudget request).whole.run history = request.call.run history) ∧
    Accounted id MemoryHistory.items requests start (Crowd.run turns
      { service := start
        processes := fun caller => steps.process (budgets caller) (requests caller) }) :=
  ⟨whole_process, lawful_steps.accounted_run (fun _ _ same => same) trivial trivial trivial
    requests budgets turns⟩

end MemoryHistory

end Backbeat
