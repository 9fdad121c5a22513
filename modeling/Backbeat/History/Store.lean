import Backbeat.Feed.Error

/-!
# Histories

A user's history is the list of beats that the user was served, the latest first.  This module
says what can be asked of whoever keeps histories.
-/

namespace Backbeat

/-- What can be asked of a keeper of histories in state `σ`. -/
class SeenHistory (σ : Type) where
  /-- The history of a user. -/
  seen : (user : String) → Action σ FeedError (List String)
  /-- Put an item at the head of a history and drop the oldest ones beyond the bound. -/
  push : (user item : String) → (bound : Nat) → Action σ FeedError Unit
  /-- Drop the whole history of a user. -/
  clear : (user : String) → Action σ FeedError Unit

/-- Refuse a bound that leaves no room for an item. -/
def checkBound {σ : Type} (bound : Nat) : Action σ FeedError Unit :=
  if bound = 0 then .fail (.invalid .noRoom) else pure ()

end Backbeat
