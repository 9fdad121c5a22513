import Backbeat.Data.Process
import Backbeat.History.Retry
import Backbeat.History.Store

/-!
# Requests to a keeper of histories

A request is one call to a keeper of histories.  What a request may change, and how, is said here
once for all keepers.  The steps of a keeper are the processes that its calls consist of: those of
reading and clearing, and those of one attempt at a push.  A push makes such attempts until one
commits or its budget is used up.
-/

namespace Backbeat

inductive HistoryRequest where
  | seen (user : String)
  | push (user item : String) (bound : Nat)
  | clear (user : String)

inductive HistoryAnswer where
  | items (texts : List String)
  | done
deriving DecidableEq

/-- A change of a history that has taken hold. -/
inductive HistoryChange where
  | push (user item : String) (bound : Nat)
  | clear (user : String)
deriving DecidableEq

namespace HistoryChange

def user : HistoryChange → String
  | .push user _ _ => user
  | .clear user => user

def applied (items : List String) : HistoryChange → List String
  | .push _ item bound => item :: items.take (bound - 1)
  | .clear _ => []

/-- Of all histories, a change concerns the one under the key of its user. -/
def appliedTo (key : String → String) (histories : String → List String) (change : HistoryChange) :
    String → List String := fun place =>
  if key change.user = place then change.applied (histories place) else histories place

end HistoryChange

namespace HistoryRequest

variable {σ : Type}

def user : HistoryRequest → String
  | .seen user => user
  | .push user _ _ => user
  | .clear user => user

/-- The changes that a request makes if it is granted. -/
def changes : HistoryRequest → List HistoryChange
  | .seen _ => []
  | .push user item bound => [.push user item bound]
  | .clear user => [.clear user]

/-- A request to push asks for room for an item at least. -/
def HasRoom : HistoryRequest → Prop
  | .push _ _ bound => 1 ≤ bound
  | _ => True

def call [SeenHistory σ] : HistoryRequest → Action σ FeedError HistoryAnswer
  | .seen user => do return .items (← SeenHistory.seen user)
  | .push user item bound => do
    SeenHistory.push user item bound
    return .done
  | .clear user => do
    SeenHistory.clear user
    return .done

end HistoryRequest

namespace Process

variable {σ : Type}

def checkBound (bound : Nat) : Process σ HistoryChange FeedError Unit :=
  if bound = 0 then .fail (.invalid .noRoom) else pure ()

def retryLeft (budget : Nat) (attempt : Nat → Process σ HistoryChange FeedError Attempt) :
    Nat → Process σ HistoryChange FeedError Unit
  | 0 => .fail (.retriesExceeded budget)
  | left + 1 => do
    match ← attempt (budget - left) with
    | .committed => pure ()
    | .conflict => retryLeft budget attempt left

def retry (budget : Nat) (attempt : Nat → Process σ HistoryChange FeedError Attempt) :
    Process σ HistoryChange FeedError Unit :=
  retryLeft budget attempt budget

@[simp]
theorem whole_checkBound (bound : Nat) :
    (checkBound bound : Process σ HistoryChange FeedError Unit).whole =
      Backbeat.checkBound bound := by
  rw [checkBound, Backbeat.checkBound]
  split <;> rfl

theorem whole_retryLeft (budget : Nat)
    (attempt : Nat → Process σ HistoryChange FeedError Attempt) (left : Nat) :
    (retryLeft budget attempt left).whole =
      Backbeat.retryLeft budget (fun number => (attempt number).whole) left := by
  induction left with
  | zero => rfl
  | succ left ih =>
    rw [retryLeft, whole_bind, Backbeat.retryLeft]
    congr 1
    funext outcome
    cases outcome with
    | committed => rfl
    | conflict => exact ih

@[simp]
theorem whole_retry (budget : Nat) (attempt : Nat → Process σ HistoryChange FeedError Attempt) :
    (retry budget attempt).whole = Backbeat.retry budget fun number => (attempt number).whole :=
  whole_retryLeft budget attempt budget

end Process

/-- The processes that the calls to a keeper of histories are made of. -/
structure HistorySteps (σ : Type) where
  seen : (user : String) → Process σ HistoryChange FeedError (List String)
  attempt : (user item : String) → (bound : Nat) → Process σ HistoryChange FeedError Attempt
  clear : (user : String) → Process σ HistoryChange FeedError Unit

/-- The process of a request, with a budget for its attempts. -/
def HistorySteps.process {σ : Type} (steps : HistorySteps σ) (budget : Nat) :
    HistoryRequest → Process σ HistoryChange FeedError HistoryAnswer
  | .seen user => do return .items (← steps.seen user)
  | .push user item bound => do
    Process.checkBound bound
    Process.retry budget fun _ => steps.attempt user item bound
    return .done
  | .clear user => do
    steps.clear user
    return .done

end Backbeat
