import Backbeat.History.Store

/-!
# Histories in rehearsal

A keeper of histories whose calls are listed and can be made to fail.  A call that fails is
listed and does nothing.
-/

namespace Backbeat.Rehearsal

inductive HistoryCall where
  | seen
  | push (bound : Nat)
  | clear
deriving DecidableEq

def HistoryCall.text : HistoryCall → String
  | .seen => "get"
  | .push bound => s!"push:{bound}"
  | .clear => "clear"

/-- A keeper of histories with the faults of its calls and the calls so far, the latest first. -/
structure RehearsedHistory (μ : Type) where
  kept : μ
  seenFault : Option FeedError := none
  pushFault : Option FeedError := none
  clearFault : Option FeedError := none
  calls : List HistoryCall := []

namespace RehearsedHistory

variable {μ α : Type}

/-- List a call and make it, unless it is to fail. -/
def call (listed : HistoryCall) (fault : RehearsedHistory μ → Option FeedError)
    (action : Action μ FeedError α) : Action (RehearsedHistory μ) FeedError α := do
  Action.change fun history => { history with calls := listed :: history.calls }
  match ← Action.look fault with
  | some error => .fail error
  | none => action.onPart kept fun kept history => { history with kept }

instance [SeenHistory μ] : SeenHistory (RehearsedHistory μ) where
  seen user := call .seen seenFault (SeenHistory.seen user)
  push user item bound := call (.push bound) pushFault (SeenHistory.push user item bound)
  clear user := call .clear clearFault (SeenHistory.clear user)

end RehearsedHistory

end Backbeat.Rehearsal
