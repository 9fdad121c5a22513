import Backbeat.Data.Table
import Backbeat.Redis.Host

/-!
# A Redis server to rehearse with

The server keeps lists under keys and runs the commands of all connections one at a time.  A
connection may watch keys; when a watched key is written by anyone, the connection's next
transaction comes to nothing.  A transaction gathers commands and runs them together at its end,
unless one of them was refused when it was sent.

The server can be given commands to refuse, and rivals: each time a watching
connection has asked for a length, the next rival item is pushed to that list by someone else.
-/

namespace Backbeat.Redis

/-- What the server remembers of a connection. -/
structure Connection where
  watched : List String := []
  stale : Bool := false
  queue : Option (List Command) := none
  spoilt : Bool := false

/-- A command to refuse: by its name, and by how often it was sent if that matters. -/
structure Refusal where
  command : String
  nth : Option Nat
  text : String

structure Server where
  address : String := "redis://127.0.0.1/"
  lists : Table String (List String) := .empty
  connections : Table Nat Connection := .empty
  opened : Nat := 0
  log : List Command := []
  refusals : List Refusal := []
  rivals : List String := []

namespace Server

def list (server : Server) (key : String) : List String :=
  server.lists.getD key []

/-- The server with a list under a key; an empty list is no list. -/
def setList (server : Server) (key : String) (items : List String) : Server :=
  let lists := if items.isEmpty then server.lists.erase key else server.lists.insert key items
  { server with lists }

def connection (server : Server) (id : Nat) : Connection :=
  server.connections.getD id {}

/-- The server with what it knows of a connection replaced. -/
def setConnection (server : Server) (id : Nat) (connection : Connection) : Server :=
  { server with connections := server.connections.insert id connection }

/-- The server after a connection to it was opened. -/
def opening (server : Server) : Server :=
  { server with opened := server.opened + 1 }

def openConnection (server : Server) (url : String) : Except String Nat × Server :=
  if url = server.address then (.ok server.opened, server.opening)
  else (.error "the server cannot be reached", server)

/-- The server after a key was written: whoever watches it is stale. -/
def touch (server : Server) (key : String) : Server :=
  let mark := fun connection : Connection =>
    if key ∈ connection.watched then { connection with stale := true } else connection
  { server with connections := server.connections.mapValues mark }

def writeList (server : Server) (key : String) (items : List String) : Server :=
  (server.setList key items).touch key

def apply (server : Server) (command : Command) : Reply × Server :=
  match command with
  | .length key => (.number (server.list key).length, server)
  | .range key start stop => (.items (sliceOf start stop (server.list key)), server)
  | .trim key start stop =>
    if server.lists.contains key then
      (.ok, server.writeList key (sliceOf start stop (server.list key)))
    else
      (.ok, server)
  | .push key item =>
    (.number ((server.list key).length + 1), server.writeList key (item :: server.list key))
  | .delete key =>
    if server.lists.contains key then (.number 1, server.writeList key []) else (.number 0, server)
  | .watch _ => (.ok, server)
  | .multi => (.ok, server)
  | .exec => (.nil, server)

def applyAll (server : Server) (commands : List Command) : Server :=
  commands.foldl (fun server command => (server.apply command).2) server

def execute (server : Server) (id : Nat) : Reply × Server :=
  let connection := server.connection id
  let idle := server.setConnection id {}
  match connection.queue with
  | none => (.refused "ERR EXEC without MULTI", server)
  | some queue =>
    if connection.spoilt then
      (.refused "EXECABORT Transaction discarded because of previous errors.", idle)
    else if connection.stale then (.nil, idle)
    else (.all queue.length, idle.applyAll queue)

/-- Let the next rival push to a list that a watching connection has asked the length of. -/
def rival (server : Server) (id : Nat) (command : Command) : Server :=
  match command, server.rivals with
  | .length key, item :: rest =>
    if (server.connection id).watched.isEmpty then server
    else ({ server with rivals := rest }.apply (.push key item)).2
  | _, _ => server

def answer (server : Server) (id : Nat) (command : Command) : Reply × Server :=
  let connection := server.connection id
  match command, connection.queue with
  | .exec, _ => server.execute id
  | _, some queue =>
    (.queued, server.setConnection id { connection with queue := some (queue ++ [command]) })
  | .multi, none => (.ok, server.setConnection id { connection with queue := some [] })
  | .watch key, none =>
    (.ok, server.setConnection id { connection with watched := key :: connection.watched })
  | _, none =>
    let (reply, after) := server.apply command
    (reply, after.rival id command)

/-- The server after it has refused a command, which spoils a transaction. -/
def spoil (server : Server) (id : Nat) : Server :=
  let connection := server.connection id
  match connection.queue with
  | none => server
  | some _ => server.setConnection id { connection with spoilt := true }

def count (server : Server) (name : String) : Nat :=
  (server.log.filter fun command => command.name == name).length

/-- The refusal that a command meets which was just sent. -/
def refusal? (server : Server) (command : Command) : Option Refusal :=
  server.refusals.find? fun refusal =>
    refusal.command == command.name && refusal.nth.all (server.count command.name == ·)

def serve (server : Server) (id : Nat) (command : Command) : Reply × Server :=
  let logged := { server with log := command :: server.log }
  match logged.refusal? command with
  | some refusal => (.refused refusal.text, logged.spoil id)
  | none => logged.answer id command

instance : Host Server where
  openConnection url server := server.openConnection url
  serve id command server := server.serve id command

end Server

end Backbeat.Redis
