import Backbeat.History.Retry

/-!
# Attempts that are listed

Attempts at a change of a service, which also list the numbers that they are told.
-/

namespace Backbeat.Rehearsal

/-- A service with the numbers of the attempts made on it so far, the latest last. -/
structure Attempted (σ : Type) where
  kept : σ
  numbers : List Nat := []

namespace Attempted

variable {σ : Type}

/-- List an attempt and make it. -/
def listing (attempt : Nat → Action σ FeedError Attempt) (number : Nat) :
    Action (Attempted σ) FeedError Attempt := do
  Action.change fun service => { service with numbers := service.numbers ++ [number] }
  (attempt number).onPart kept fun kept service => { service with kept }

variable {attempt : Nat → Action σ FeedError Attempt} {number : Nat} {service after : σ}

theorem run_listing {outcome : Except FeedError Attempt}
    (ran : (attempt number).run service = .ok (outcome, after)) (numbers : List Nat) :
    (listing attempt number).run ⟨service, numbers⟩ =
      .ok (outcome, ⟨after, numbers ++ [number]⟩) := by
  rw [listing, Action.run_bind_of_ok (Action.run_change _ _)]
  exact Action.run_onPart ran

theorem run_listing_of_trap {trap : Trap} (trapped : (attempt number).run service = .error trap)
    (numbers : List Nat) : (listing attempt number).run ⟨service, numbers⟩ = .error trap := by
  rw [listing, Action.run_bind_of_ok (Action.run_change _ _), Action.run_onPart_eq, trapped]

end Attempted

end Backbeat.Rehearsal
