/-!
# Redis commands

The commands on lists and on transactions that the histories are kept with, and the replies to
them.  A command is sent as words, the first of which is its name.  Items of a list are told by
their indices, from its head on.
-/

namespace Backbeat.Redis

inductive Command where
  | watch (key : String)
  | length (key : String)
  | range (key : String) (start stop : Int)
  | trim (key : String) (start stop : Int)
  | push (key item : String)
  | delete (key : String)
  | multi
  | exec
deriving DecidableEq

namespace Command

def name : Command → String
  | .watch _ => "WATCH"
  | .length _ => "LLEN"
  | .range .. => "LRANGE"
  | .trim .. => "LTRIM"
  | .push .. => "LPUSH"
  | .delete _ => "DEL"
  | .multi => "MULTI"
  | .exec => "EXEC"

/-- The words behind the name of a command. -/
def arguments : Command → List String
  | .watch key => [key]
  | .length key => [key]
  | .range key start stop => [key, toString start, toString stop]
  | .trim key start stop => [key, toString start, toString stop]
  | .push key item => [key, item]
  | .delete key => [key]
  | .multi => []
  | .exec => []

def words (command : Command) : List String :=
  command.name :: command.arguments

end Command

inductive Reply where
  | ok
  | queued
  | nil
  | number (value : Int)
  | items (texts : List String)
  | all (count : Nat)
  | refused (text : String)
deriving DecidableEq

def Reply.isRefusal : Reply → Bool
  | .refused _ => true
  | _ => false

/-- The place in a list of a given length that an index means: negative ones count from the end. -/
def placeOf (length : Nat) (index : Int) : Int :=
  if index < 0 then length + index else index

/-- The items from one index to another, both included. -/
def sliceOf (start stop : Int) (items : List String) : List String :=
  let first := (placeOf items.length start).toNat
  let past := (placeOf items.length stop + 1).toNat
  (items.take past).drop first

end Backbeat.Redis
