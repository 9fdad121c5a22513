import Backbeat.Feed.Error

/-!
# Optimistic changes

A contended value is changed in attempts: each one reads, and commits unless someone else has
written in between.  A conflict is tried again as often as the budget allows; anything else ends
the matter.
-/

namespace Backbeat

inductive Attempt where
  | committed
  | conflict
deriving DecidableEq

variable {σ : Type}

/-- Make the attempts that are left of a budget.  Each attempt is told its number, from one. -/
def retryLeft (budget : Nat) (attempt : Nat → Action σ FeedError Attempt) :
    Nat → Action σ FeedError Unit
  | 0 => .fail (.retriesExceeded budget)
  | left + 1 => do
    match ← attempt (budget - left) with
    | .committed => pure ()
    | .conflict => retryLeft budget attempt left

/-- Make attempts until one commits, at most as many as the budget. -/
def retry (budget : Nat) (attempt : Nat → Action σ FeedError Attempt) : Action σ FeedError Unit :=
  retryLeft budget attempt budget

end Backbeat
