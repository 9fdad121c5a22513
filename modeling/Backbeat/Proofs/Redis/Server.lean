import Backbeat.Proofs.Redis.Laws
import Backbeat.Redis.Server

/-!
# A Redis server keeps the laws

A command changes at most the list under its key and what the server knows of the connection that
sent it; to the other connections it can only happen that they turn stale, and this does happen if
a list is written that they watch.  So a server that refuses nothing is a lawful host at its
address.
-/

namespace Backbeat.Redis

/-- What is known of a connection that nothing has spoilt. -/
def Connection.session (connection : Connection) : Session where
  watched := connection.watched
  stale := connection.stale
  queue := connection.queue

namespace Server

variable {server after : Server} {id other : Nat} {url key place : String} {items : List String}
  {command : Command} {connection : Connection}

/-! ## Lists and connections -/

theorem list_setList (server : Server) (key : String) (items : List String) :
    (server.setList key items).list = Function.update server.list key items := by
  funext place
  rw [Function.update_apply]
  cases items with
  | nil =>
    show ((server.lists.erase key).get? place).getD [] = _
    rw [Table.get?_erase]
    simp only [eq_comm]
    split <;> rfl
  | cons item rest =>
    show ((server.lists.insert key (item :: rest)).get? place).getD [] = _
    rw [Table.get?_insert]
    simp only [eq_comm]
    split <;> rfl

@[simp]
theorem connection_setConnection (server : Server) (id other : Nat) (connection : Connection) :
    (server.setConnection id connection).connection other =
      if id = other then connection else server.connection other := by
  show ((server.connections.insert id connection).get? other).getD {} = _
  rw [Table.get?_insert]
  split <;> rfl

/-- Whoever watches the key that is written turns stale. -/
theorem connection_writeList (server : Server) (key : String) (items : List String) (id : Nat) :
    (server.writeList key items).connection id =
      if key ∈ (server.connection id).watched then { server.connection id with stale := true }
      else server.connection id := by
  show ((server.connections.mapValues _).get? id).getD ({} : Connection) = _
  rw [Table.get?_mapValues, connection, Table.getD]
  cases server.connections.get? id with
  | none => rfl
  | some connection => rfl

theorem list_writeList (server : Server) (key : String) (items : List String) :
    (server.writeList key items).list = Function.update server.list key items :=
  list_setList server key items

theorem list_eq_nil_of_absent (absent : ¬ server.lists.contains key = true) :
    server.list key = [] := by
  rw [Table.contains, Bool.not_eq_true, Option.isSome_eq_false_iff, Option.isNone_iff_eq_none]
    at absent
  rw [list, Table.getD, absent]
  rfl

/-- A command does to the lists what it is meant to do. -/
theorem list_apply (server : Server) (command : Command) :
    (server.apply command).2.list = Command.edit server.list command := by
  cases command with
  | push key item => exact list_writeList server key _
  | trim key start stop =>
    rw [apply]
    split
    · exact list_writeList server key _
    · next absent =>
      have nothing : sliceOf start stop (server.list key) = server.list key := by
        rw [list_eq_nil_of_absent absent]
        simp [sliceOf]
      rw [Command.edit, nothing, Function.update_eq_self]
  | delete key =>
    rw [apply]
    split
    · exact list_writeList server key []
    · next absent =>
      rw [Command.edit, ← list_eq_nil_of_absent absent, Function.update_eq_self]
  | _ => rfl

theorem list_applyAll (server : Server) (commands : List Command) :
    (server.applyAll commands).list = Command.editAll commands server.list := by
  induction commands generalizing server with
  | nil => rfl
  | cons command rest ih =>
    refine (ih _).trans ?_
    rw [list_apply]
    rfl

/-- A command writes one list, or it leaves the server as it is. -/
theorem apply_cases (server : Server) (command : Command) :
    (∃ key items, command.Writes key ∧ (server.apply command).2 = server.writeList key items) ∨
      (server.apply command).2 = server := by
  cases command with
  | push key item => exact .inl ⟨key, _, rfl, rfl⟩
  | trim key start stop =>
    rw [apply]
    split
    · exact .inl ⟨key, _, rfl, rfl⟩
    · exact .inr rfl
  | delete key =>
    rw [apply]
    split
    · exact .inl ⟨key, _, rfl, rfl⟩
    · exact .inr rfl
  | _ => exact .inr rfl

@[simp]
theorem opened_apply (server : Server) (command : Command) :
    (server.apply command).2.opened = server.opened := by
  rcases server.apply_cases command with ⟨key, items, -, wrote⟩ | same
  · rw [wrote]
    rfl
  · rw [same]

@[simp]
theorem opened_applyAll (server : Server) (commands : List Command) :
    (server.applyAll commands).opened = server.opened := by
  induction commands generalizing server with
  | nil => rfl
  | cons command rest ih => exact (ih _).trans (opened_apply server command)

/-- Who watches none of the lists that are written is left alone. -/
theorem connection_applyAll {commands : List Command}
    (unwatched : ∀ command ∈ commands, ∀ key ∈ (server.connection id).watched,
      ¬ command.Writes key) :
    (server.applyAll commands).connection id = server.connection id := by
  induction commands generalizing server with
  | nil => rfl
  | cons command rest ih =>
    have same : (server.apply command).2.connection id = server.connection id := by
      rcases server.apply_cases command with ⟨key, items, writes, wrote⟩ | same
      · rw [wrote, connection_writeList, if_neg]
        exact fun watches => unwatched command List.mem_cons_self key watches writes
      · rw [same]
    refine (ih ?_).trans same
    rw [same]
    exact fun other member => unwatched other (List.mem_cons_of_mem command member)

/-! ## Servers that serve everyone -/

theorem rival_eq (alone : server.rivals = []) (id : Nat) (command : Command) :
    server.rival id command = server := by
  unfold rival
  rw [alone]
  cases command <;> rfl

/-- The server with a command on its list of all commands. -/
def noted (server : Server) (command : Command) : Server :=
  { server with log := command :: server.log }

/-- The server at an address refuses nothing, nobody but those who are connected writes, and nothing
is known yet of connections that are still to be opened. -/
structure Calm (url : String) (server : Server) : Prop where
  address : server.address = url
  obliging : server.refusals = []
  alone : server.rivals = []
  unspoilt : ∀ id, (server.connection id).spoilt = false
  unknown : ∀ id, server.opened ≤ id → server.connection id = {}

namespace Calm

theorem noted (calm : server.Calm url) (command : Command) : (server.noted command).Calm url :=
  ⟨calm.address, calm.obliging, calm.alone, calm.unspoilt, calm.unknown⟩

theorem setConnection (calm : server.Calm url) (opened : id < server.opened)
    (unspoilt : connection.spoilt = false) : (server.setConnection id connection).Calm url where
  address := calm.address
  obliging := calm.obliging
  alone := calm.alone
  unspoilt := by
    intro other
    rw [connection_setConnection]
    split
    · exact unspoilt
    · exact calm.unspoilt other
  unknown := by
    intro other later
    rw [connection_setConnection, if_neg (Nat.ne_of_lt (Nat.lt_of_lt_of_le opened later))]
    exact calm.unknown other later

theorem apply (calm : server.Calm url) (command : Command) :
    (server.apply command).2.Calm url := by
  rcases server.apply_cases command with ⟨key, items, -, wrote⟩ | same
  · rw [wrote]
    refine ⟨calm.address, calm.obliging, calm.alone, ?_, ?_⟩
    · intro id
      rw [connection_writeList]
      split <;> exact calm.unspoilt id
    · intro id later
      have unknown : server.connection id = {} := calm.unknown id later
      rw [connection_writeList, unknown]
      rfl
  · rw [same]
    exact calm

theorem applyAll (calm : server.Calm url) (commands : List Command) :
    (server.applyAll commands).Calm url := by
  induction commands generalizing server with
  | nil => exact calm
  | cons command rest ih => exact ih (calm.apply command)

theorem opening (calm : server.Calm url) : server.opening.Calm url where
  address := calm.address
  obliging := calm.obliging
  alone := calm.alone
  unspoilt := calm.unspoilt
  unknown id later := calm.unknown id (Nat.le_of_succ_le later)

theorem serve_eq (calm : server.Calm url) (id : Nat) (command : Command) :
    server.serve id command = (server.noted command).answer id command := by
  have served : (server.noted command).refusal? command = none := by
    rw [refusal?, show (server.noted command).refusals = [] from calm.obliging]
    rfl
  rw [serve, show refusal? { server with log := command :: server.log } command = none from served]
  rfl

section Idle

variable (calm : server.Calm url) (idle : (server.connection id).queue = none)
include calm idle

theorem serve_watch (key : String) :
    server.serve id (.watch key) = (.ok, (server.noted (.watch key)).setConnection id
      { server.connection id with watched := key :: (server.connection id).watched }) := by
  have same : ((server.noted (.watch key)).connection id).queue = none := idle
  rw [calm.serve_eq]
  simp only [answer, same, idle]
  rfl

theorem serve_length (key : String) :
    server.serve id (.length key) =
      (.number (server.list key).length, server.noted (.length key)) := by
  have same : ((server.noted (.length key)).connection id).queue = none := idle
  rw [calm.serve_eq]
  simp only [answer, same]
  exact congrArg (_, ·) (rival_eq (calm.noted (.length key)).alone id (.length key))

theorem serve_range (key : String) (start stop : Int) :
    server.serve id (.range key start stop) =
      (.items (sliceOf start stop (server.list key)), server.noted (.range key start stop)) := by
  have same : ((server.noted (.range key start stop)).connection id).queue = none := idle
  rw [calm.serve_eq]
  simp only [answer, same]
  rfl

theorem serve_delete (key : String) :
    ∃ count, server.serve id (.delete key) =
      (.number count, (server.noted (.delete key)).applyAll [.delete key]) := by
  have same : ((server.noted (.delete key)).connection id).queue = none := idle
  rw [calm.serve_eq]
  simp only [answer, same]
  by_cases present : (server.noted (.delete key)).lists.contains key = true
  · exact ⟨1, congrArg (·, _) (congrArg Prod.fst (if_pos present))⟩
  · exact ⟨0, congrArg (·, _) (congrArg Prod.fst (if_neg present))⟩

theorem serve_multi :
    server.serve id .multi = (.ok, (server.noted .multi).setConnection id
      { server.connection id with queue := some [] }) := by
  have same : ((server.noted .multi).connection id).queue = none := idle
  rw [calm.serve_eq]
  simp only [answer, same]
  rfl

end Idle

section Transaction

variable {queue : List Command} (calm : server.Calm url)
  (queued : (server.connection id).queue = some queue)
include calm queued

/-- In a transaction every command but its end is put off. -/
theorem serve_queued (later : command ≠ .exec) :
    server.serve id command = (.queued, (server.noted command).setConnection id
      { server.connection id with queue := some (queue ++ [command]) }) := by
  have same : ((server.noted command).connection id).queue = some queue := queued
  rw [calm.serve_eq]
  cases command with
  | exec => exact absurd rfl later
  | _ =>
    simp only [answer, same]
    rfl

/-- A transaction is run at its end, unless the connection has turned stale. -/
theorem serve_exec :
    server.serve id .exec =
      if (server.connection id).stale then (.nil, (server.noted .exec).setConnection id {})
      else (.all queue.length, ((server.noted .exec).setConnection id {}).applyAll queue) := by
  have same : ((server.noted .exec).connection id).queue = some queue := queued
  have unspoilt : ((server.noted .exec).connection id).spoilt = false := calm.unspoilt id
  rw [calm.serve_eq]
  simp only [answer, execute, same, unspoilt]
  rfl

end Transaction

end Calm

/-! ## The laws -/

/-- A server at an address, which knows of the connections that it has opened. -/
def view (url : String) : View Server where
  Sound server := server.Calm url
  list := list
  session? server id :=
    if id < server.opened then some (server.connection id).session else none

theorem session_of_known {session : Session}
    (known : (view url).session? server id = some session) :
    id < server.opened ∧ (server.connection id).session = session := by
  change (if id < server.opened then some (server.connection id).session else none) = _ at known
  by_cases opened : id < server.opened
  · rw [if_pos opened] at known
    exact ⟨opened, Option.some.inj known⟩
  · rw [if_neg opened] at known
    cases known

theorem known_of_session (url : String) (opened : id < server.opened) :
    (view url).session? server id = some (server.connection id).session :=
  if_pos opened

/-- What is neither an opened connection nor a list does not matter. -/
theorem undisturbed_of_eq (opened : server.opened ≤ after.opened)
    (connections : after.connection id = server.connection id) (lists : after.list = server.list) :
    (view url).Undisturbed id server after := by
  intro session known
  obtain ⟨open_before, same⟩ := session_of_known known
  refine ⟨session.stale, ?_, fun fresh => ⟨fresh, fun key _ => congrFun lists key⟩⟩
  rw [known_of_session url (Nat.lt_of_lt_of_le open_before opened), connections, same]

theorem undisturbed_writeList (id : Nat) (server : Server) (key : String) (items : List String) :
    (view url).Undisturbed id server (server.writeList key items) := by
  intro session known
  obtain ⟨opened, rfl⟩ := session_of_known known
  have still : (view url).session? (server.writeList key items) id =
      some ((server.writeList key items).connection id).session := known_of_session url opened
  rw [still, connection_writeList]
  by_cases watches : key ∈ (server.connection id).watched
  · rw [if_pos watches]
    exact ⟨true, rfl, nofun⟩
  · rw [if_neg watches]
    refine ⟨(server.connection id).stale, rfl, fun fresh => ⟨fresh, ?_⟩⟩
    intro place watched
    show (server.writeList key items).list place = server.list place
    rw [list_writeList, Function.update_of_ne]
    rintro rfl
    exact watches watched

theorem undisturbed_applyAll (id : Nat) (server : Server) (commands : List Command) :
    (view url).Undisturbed id server (server.applyAll commands) := by
  induction commands generalizing server with
  | nil => exact .refl _ id server
  | cons command rest ih =>
    refine View.Undisturbed.trans ?_ (ih (server.apply command).2)
    rcases server.apply_cases command with ⟨key, items, -, wrote⟩ | same
    · rw [wrote]
      exact undisturbed_writeList id server key items
    · rw [same]
      exact .refl _ id server

section Becoming

variable {session : Session} {commands : List Command}

/-- A command that only reads leaves all as it is. -/
theorem becomes_noted (calm : server.Calm url)
    (known : (view url).session? server id = some session) (command : Command) :
    (view url).Becomes id session [] server (server.noted command) where
  sound := calm.noted command
  session_eq := known
  list_eq := rfl
  undisturbed _ _ := undisturbed_of_eq (Nat.le_refl _) rfl rfl
  unconcerned _ _ _ had _ := had

/-- A command about its own connection leaves the others as they are. -/
theorem becomes_setConnection (calm : server.Calm url) (opened : id < server.opened)
    (command : Command) (shows : connection.session = session)
    (unspoilt : connection.spoilt = false) :
    (view url).Becomes id session [] server
      ((server.noted command).setConnection id connection) where
  sound := (calm.noted command).setConnection opened unspoilt
  session_eq := by
    have still : id < ((server.noted command).setConnection id connection).opened := opened
    rw [known_of_session url still, connection_setConnection, if_pos rfl, shows]
  list_eq := rfl
  undisturbed other different := by
    refine undisturbed_of_eq (Nat.le_refl _) ?_ rfl
    rw [connection_setConnection, if_neg different.symm]
    rfl
  unconcerned other had different known _ := by
    obtain ⟨open_there, rfl⟩ := session_of_known known
    have still : other < ((server.noted command).setConnection id connection).opened := open_there
    rw [known_of_session url still, connection_setConnection, if_neg different.symm]
    rfl

/-- Commands that are run on an idle connection write the lists. -/
theorem becomes_applyAll {middle : Server} (becomes : (view url).Becomes id {} [] server middle)
    (commands : List Command) :
    (view url).Becomes id {} commands server (middle.applyAll commands) where
  sound := becomes.sound.applyAll commands
  session_eq := by
    obtain ⟨opened, idle⟩ := session_of_known becomes.session_eq
    have unwatched : (middle.connection id).watched = [] := congrArg Session.watched idle
    rw [known_of_session url (by rwa [opened_applyAll]), connection_applyAll, idle]
    rw [unwatched]
    exact fun _ _ _ => nofun
  list_eq := by
    show (middle.applyAll commands).list = Command.editAll commands server.list
    rw [list_applyAll, show middle.list = server.list from becomes.list_eq]
  undisturbed other different :=
    (becomes.undisturbed other different).trans (undisturbed_applyAll other middle commands)
  unconcerned other had different known unwritten := by
    have kept := becomes.unconcerned other had different known fun _ => nofun
    obtain ⟨opened, rfl⟩ := session_of_known kept
    rw [known_of_session url (by rwa [opened_applyAll]), connection_applyAll unwritten]

theorem becomes_opening (calm : server.Calm url) :
    (view url).Becomes server.opened {} [] server server.opening where
  sound := calm.opening
  session_eq := by
    refine (known_of_session url (Nat.lt_succ_self _)).trans ?_
    exact congrArg (some <| Connection.session ·) (calm.unknown _ (Nat.le_refl _))
  list_eq := rfl
  undisturbed _ _ := undisturbed_of_eq (Nat.le_succ _) rfl rfl
  unconcerned _ _ _ known _ := by
    obtain ⟨opened, rfl⟩ := session_of_known known
    exact known_of_session url (Nat.lt_succ_of_lt opened)

end Becoming

theorem ne_exec_of_isWrite (writes : command.IsWrite) : command ≠ .exec := by
  rintro rfl
  exact writes.elim nofun

/-- A server keeps the laws at its address. -/
theorem lawful (url : String) : (view url).Lawful url where
  opens {server} calm := by
    refine ⟨server.opened, server.opening, if_pos calm.address.symm, ?_, becomes_opening calm⟩
    exact if_neg (Nat.lt_irrefl _)
  watch {server id} _ key calm known idle := by
    obtain ⟨opened, rfl⟩ := session_of_known known
    exact ⟨_, calm.serve_watch idle key, becomes_setConnection calm opened _ rfl (calm.unspoilt id)⟩
  length key calm known idle := by
    have noted := becomes_noted calm known (.length key)
    obtain ⟨opened, rfl⟩ := session_of_known known
    exact ⟨_, calm.serve_length idle key, noted⟩
  range key start stop calm known idle _ := by
    have noted := becomes_noted calm known (.range key start stop)
    obtain ⟨opened, rfl⟩ := session_of_known known
    exact ⟨_, calm.serve_range idle key start stop, noted⟩
  delete {server id} key calm known := by
    have idle : (server.connection id).queue = none :=
      congrArg Session.queue (session_of_known known).2
    obtain ⟨count, served⟩ := calm.serve_delete idle key
    exact ⟨count, _, served, becomes_applyAll (becomes_noted calm known _) [.delete key]⟩
  multi {server id} _ calm known idle := by
    obtain ⟨opened, rfl⟩ := session_of_known known
    exact ⟨_, calm.serve_multi idle, becomes_setConnection calm opened _ rfl (calm.unspoilt id)⟩
  queued {server id} _ _ _ calm known gathered writes := by
    obtain ⟨opened, rfl⟩ := session_of_known known
    exact ⟨_, calm.serve_queued gathered (ne_exec_of_isWrite writes),
      becomes_setConnection calm opened _ rfl (calm.unspoilt id)⟩
  exec_stale calm known gathered stale := by
    obtain ⟨opened, rfl⟩ := session_of_known known
    refine ⟨_, (calm.serve_exec gathered).trans (if_pos stale), ?_⟩
    exact becomes_setConnection calm opened .exec rfl rfl
  exec_fresh {server id} _ gathered calm known queued fresh _ := by
    obtain ⟨opened, rfl⟩ := session_of_known known
    have kept : ¬ (server.connection id).stale = true := by
      rw [show (server.connection id).stale = false from fresh]
      exact Bool.false_ne_true
    refine ⟨_, (calm.serve_exec queued).trans (if_neg kept), ?_⟩
    exact becomes_applyAll (becomes_setConnection calm opened .exec rfl rfl) gathered

end Server

end Backbeat.Redis
