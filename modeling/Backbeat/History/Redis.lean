import Backbeat.Feed.Bounds
import Backbeat.History.Retry
import Backbeat.History.Store
import Backbeat.Redis.Host

/-!
# Histories in Redis

A history is a list under a key.  A push works on a connection of its own: it watches the key,
asks for the length, and sends a transaction that makes room if there is none and puts the item
at the head.  The transaction comes to nothing if anyone else wrote the list in between, so a
length that was read is the length that the transaction meets.
-/

namespace Backbeat

/-- Histories in a Redis host at a URL.  Reads and clears share one connection. -/
structure RedisHistory (σ : Type) where
  server : σ
  url : String
  shared : Nat
  keyStart : String := "feed:seen:"
  retryBudget : Nat := defaultRetryBudget

namespace RedisHistory

open Redis (Command Host Reply)

variable {σ : Type}

def key (history : RedisHistory σ) (user : String) : String :=
  history.keyStart ++ user

variable [Host σ]

/-- The histories in the host at a URL. -/
def connect (server : σ) (url : String) : Except FeedError (RedisHistory σ) :=
  match Host.openConnection url server with
  | (.ok shared, server) => .ok { server, url, shared }
  | (.error text, _) => .error (.backend text)

def served (history : RedisHistory σ) (id : Nat) (command : Command) :
    Except FeedError Reply × RedisHistory σ :=
  let (reply, server) := Host.serve id command history.server
  match reply with
  | .refused text => (.error (.backend text), { history with server })
  | _ => (.ok reply, { history with server })

def send (id : Nat) (command : Command) : Action (RedisHistory σ) FeedError Reply :=
  Action.answer fun history => history.served id command

def connected (history : RedisHistory σ) : Except FeedError Nat × RedisHistory σ :=
  let (opened, server) := Host.openConnection history.url history.server
  (opened.mapError .backend, { history with server })

def openConnection : Action (RedisHistory σ) FeedError Nat :=
  Action.answer connected

/-- The commands that bring a list of a length below a bound. -/
def makeRoom (key : String) (length : Int) (bound : Nat) : List Command :=
  if length < bound then []
  else if bound = 1 then [.delete key]
  -- Lengths are signed numbers of 64 bits, so a bound that leaves no room can be made an index.
  else [.trim key 0 (bound - 2)]

/-- Send commands one after the other, whatever is replied, and fail with the first refusal. -/
def sendAll (id : Nat) : List Command → Action (RedisHistory σ) FeedError Reply
  | [] => pure .ok
  | [command] => send id command
  | command :: rest => do
    let first ← (send id command).attempt
    let last ← (sendAll id rest).attempt
    match first with
    | .error refusal => .fail refusal
    | .ok _ => .ofExcept last

def tryPush (key item : String) (bound : Nat) : Action (RedisHistory σ) FeedError Attempt := do
  let id ← openConnection
  let _ ← send id (.watch key)
  let length ← send id (.length key)
  let room := match length with
    | .number value => makeRoom key value bound
    | _ => []
  match ← sendAll id (.multi :: room ++ [.push key item, .exec]) with
  | .nil => pure .conflict
  | _ => pure .committed

instance : SeenHistory (RedisHistory σ) where
  seen user := do
    let key ← Action.look (·.key user)
    let shared ← Action.look (·.shared)
    match ← send shared (.range key 0 (-1)) with
    | .items texts => pure texts
    | _ => pure []
  push user item bound := do
    checkBound bound
    let key ← Action.look (·.key user)
    let budget ← Action.look (·.retryBudget)
    retry budget fun _ => tryPush key item bound
  clear user := do
    let key ← Action.look (·.key user)
    let shared ← Action.look (·.shared)
    let _ ← send shared (.delete key)

end RedisHistory

end Backbeat
