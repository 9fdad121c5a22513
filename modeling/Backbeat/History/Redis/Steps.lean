import Backbeat.History.Redis
import Backbeat.History.Request

/-!
# The steps of histories in Redis

Every command is one atomic step, since the server runs the commands of all connections one at a
time.  A push has taken hold when its transaction was run, and a history is cleared when its list
is deleted.
-/

namespace Backbeat.RedisHistory

open Redis (Command Host Reply)

variable {σ : Type} [Host σ]

def openStep : Process (RedisHistory σ) HistoryChange FeedError Nat :=
  .atomic connected fun _ => none

/-- Send a command, whose reply tells whether it makes a change. -/
def sendStep (event : Reply → Option HistoryChange) (id : Nat) (command : Command) :
    Process (RedisHistory σ) HistoryChange FeedError Reply :=
  .atomic (fun history => history.served id command)
    fun
      | .ok reply => event reply
      | .error _ => none

def sendAllSteps (event : Reply → Option HistoryChange) (id : Nat) :
    List Command → Process (RedisHistory σ) HistoryChange FeedError Reply
  | [] => pure .ok
  | [command] => sendStep event id command
  | command :: rest => do
    let first ← (sendStep event id command).attempt
    let last ← (sendAllSteps event id rest).attempt
    match first with
    | .error refusal => .fail refusal
    | .ok _ => .ended last

/-- A transaction that was run makes the change that it was sent for. -/
def transacted (change : HistoryChange) : Reply → Option HistoryChange
  | .all _ => some change
  | _ => none

def attemptSteps (key user item : String) (bound : Nat) :
    Process (RedisHistory σ) HistoryChange FeedError Attempt := do
  let id ← openStep
  let _ ← sendStep (fun _ => none) id (.watch key)
  let length ← sendStep (fun _ => none) id (.length key)
  let room := match length with
    | .number value => makeRoom key value bound
    | _ => []
  match ← sendAllSteps (transacted (.push user item bound)) id
      (.multi :: room ++ [.push key item, .exec]) with
  | .nil => pure .conflict
  | _ => pure .committed

/-- The steps of histories under keys that start in one way, with one connection to share. -/
def steps (keyStart : String) (shared : Nat) : HistorySteps (RedisHistory σ) where
  seen user := do
    match ← sendStep (fun _ => none) shared (.range (keyStart ++ user) 0 (-1)) with
    | .items texts => pure texts
    | _ => pure []
  attempt user item bound := attemptSteps (keyStart ++ user) user item bound
  clear user := do
    let _ ← sendStep (fun _ => some (.clear user)) shared (.delete (keyStart ++ user))

theorem whole_sendAllSteps (event : Reply → Option HistoryChange) (id : Nat)
    (commands : List Command) :
    (sendAllSteps event id commands :
      Process (RedisHistory σ) HistoryChange FeedError Reply).whole = sendAll id commands := by
  induction commands with
  | nil => rfl
  | cons command rest ih =>
    cases rest with
    | nil => rfl
    | cons next later =>
      rw [sendAllSteps, sendAll]
      · simp only [Process.whole_bind, Process.whole_attempt, ih]
        congr 1
        funext first
        congr 1
        funext last
        cases first <;> rfl
      · exact nofun
      · exact nofun

theorem whole_attemptSteps (key user item : String) (bound : Nat) :
    (attemptSteps key user item bound :
      Process (RedisHistory σ) HistoryChange FeedError Attempt).whole = tryPush key item bound := by
  simp only [attemptSteps, tryPush, Process.whole_bind, whole_sendAllSteps]
  congr 1
  funext id
  congr 1
  funext _
  congr 1
  funext length
  congr 1
  funext reply
  cases reply <;> rfl

/-- The steps of a request in a row are the call that it stands for. -/
theorem whole_process (request : HistoryRequest) (history : RedisHistory σ) :
    ((steps history.keyStart history.shared).process history.retryBudget request).whole.run
        history =
      request.call.run history := by
  cases request with
  | seen user =>
    have seen : ((steps history.keyStart history.shared).seen user).whole =
        send history.shared (.range (history.key user) 0 (-1)) >>= fun reply =>
          match reply with
          | .items texts => (pure texts : Action (RedisHistory σ) FeedError (List String))
          | _ => pure [] := by
      rw [steps, Process.whole_bind]
      congr 1
      funext reply
      cases reply <;> rfl
    simp only [HistorySteps.process, HistoryRequest.call, Process.whole_bind, seen]
    rfl
  | clear user =>
    simp only [HistorySteps.process, HistoryRequest.call, Process.whole_bind, steps]
    rfl
  | push user item bound =>
    have push : (SeenHistory.push user item bound : Action (RedisHistory σ) FeedError Unit) =
      checkBound bound >>= fun _ => Action.look (·.key user) >>= fun key =>
        Action.look (·.retryBudget) >>= fun budget =>
          retry budget fun _ => tryPush key item bound := rfl
    simp only [HistorySteps.process, HistoryRequest.call, Process.whole_bind,
      Process.whole_checkBound, Process.whole_retry, push, steps, whole_attemptSteps]
    by_cases none : bound = 0
    · simp only [checkBound, if_pos none]
      rfl
    · simp only [checkBound, if_neg none]
      rfl

end Backbeat.RedisHistory
