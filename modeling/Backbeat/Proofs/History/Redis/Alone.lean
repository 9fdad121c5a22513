import Backbeat.Proofs.History.Redis.Connections

/-!
# Histories in Redis with one caller

Where one request comes after the other, nobody writes a list between the moment that an attempt
asks for its length and the end of its transaction.  So the connection does not turn stale, the
first attempt at a push commits, and the list has the item at its head and nothing beyond the bound.
-/

namespace Backbeat.RedisHistory

open Redis (Command Host Reply Session View placeOf sliceOf)

/-- From the first item to the last one there are all of them. -/
theorem sliceOf_all (items : List String) : sliceOf 0 (-1) items = items := by
  have past : (placeOf items.length (-1) + 1).toNat = items.length := by
    rw [placeOf, if_pos (by decide)]
    omega
  rw [sliceOf, past, List.take_length]
  rfl

variable {σ : Type} {view : View σ} {url : String} {shared id : Nat} {session : Session}
  {history now : RedisHistory σ} {command : Command}

/-- Only the server has changed, and the shared connection is ready. -/
structure Remains (view : View σ) (url : String) (shared : Nat) (history after : RedisHistory σ) :
    Prop where
  ready : Ready view url shared after
  keyStart_eq : after.keyStart = history.keyStart
  shared_eq : after.shared = history.shared
  budget_eq : after.retryBudget = history.retryBudget

/-- A connection at work on an attempt that nobody interferes with. -/
structure Gathers (view : View σ) (url : String) (shared id : Nat) (session : Session)
    (history now : RedisHistory σ) : Prop extends Remains view url shared history now where
  list_eq : view.list now.server = view.list history.server
  known : view.session? now.server id = some session
  different : id ≠ shared

/-- One list has an item at its head and nothing beyond the bound, and the others are the same. -/
structure Pushed (view : View σ) (url : String) (shared : Nat) (key item : String) (bound : Nat)
    (history after : RedisHistory σ) : Prop extends Remains view url shared history after where
  list_eq : view.list after.server = Function.update (view.list history.server) key
    (item :: (view.list history.server key).take (bound - 1))

theorem Gathers.remains {written : List Command} {left : Session} {server : σ}
    (gathers : Gathers view url shared id session history now)
    (becomes : view.Becomes id left written now.server server) :
    Remains view url shared history { now with server } where
  ready := ⟨becomes.sound, gathers.ready.url_eq,
    becomes.idle gathers.different.symm gathers.ready.idle⟩
  keyStart_eq := gathers.keyStart_eq
  shared_eq := gathers.shared_eq
  budget_eq := gathers.budget_eq

variable [Host σ]

theorem run_send {reply : Reply} {server : σ}
    (served : Host.serve id command history.server = (reply, server))
    (granted : reply.isRefusal = false) :
    (send id command).run history = .ok (.ok reply, { history with server }) :=
  congrArg Except.ok (served_eq served granted)

/-- A command that writes nothing changes what is known of its connection, and no more. -/
theorem Gathers.run_send {left : Session} {reply : Reply}
    (gathers : Gathers view url shared id session history now)
    (serves : ∃ server, Host.serve id command now.server = (reply, server) ∧
      view.Becomes id left [] now.server server) (granted : reply.isRefusal = false) :
    ∃ after, (send id command).run now = .ok (.ok reply, after) ∧
      Gathers view url shared id left history after := by
  obtain ⟨server, served, becomes⟩ := serves
  refine ⟨_, RedisHistory.run_send served granted, gathers.remains becomes, ?_,
    becomes.session_eq, gathers.different⟩
  exact becomes.list_eq.trans gathers.list_eq

theorem sendAll_cons (command last : Command) (rest : List Command) :
    (sendAll id (command :: (rest ++ [last])) : Action (RedisHistory σ) FeedError Reply) = (do
      let first ← (send id command).attempt
      let result ← (sendAll id (rest ++ [last])).attempt
      match first with
      | .error refusal => .fail refusal
      | .ok _ => .ofExcept result) := by
  cases rest <;> rfl

/-- A command that is granted leaves the end to the others. -/
theorem run_sendAll_cons {last : Command} {rest : List Command} {reply ending : Reply}
    {middle after : RedisHistory σ} (first : (send id command).run now = .ok (.ok reply, middle))
    (others : (sendAll id (rest ++ [last])).run middle = .ok (.ok ending, after)) :
    (sendAll id (command :: (rest ++ [last]))).run now = .ok (.ok ending, after) := by
  rw [sendAll_cons, Action.run_bind_of_ok (Action.run_attempt first),
    Action.run_bind_of_ok (Action.run_attempt others)]
  rfl

section Lawful

variable {key item : String} {bound : Nat} (lawful : view.Lawful url)
include lawful

/-- At its end, the transaction meets the list that it was made for. -/
theorem run_exec (room : 1 ≤ bound) (gathers : Gathers view url shared id session history now)
    (gathered : session.queue =
      some (transaction key item (view.list history.server key).length bound))
    (fresh : session.stale = false) :
    ∃ count after, (send id .exec).run now = .ok (.ok (.all count), after) ∧
      Pushed view url shared key item bound history after := by
  rw [← gathers.list_eq] at gathered
  obtain ⟨server, served, becomes⟩ := lawful.exec_fresh gathers.ready.sound gathers.known gathered
    fresh fun _ member => ⟨isWrite_of_mem_transaction member, fits_of_mem_transaction room member⟩
  refine ⟨_, _, run_send served rfl, gathers.remains becomes, ?_⟩
  show view.list server = _
  rw [becomes.list_eq, editAll_transaction _ key item room, gathers.list_eq]

/-- The commands of a transaction are put off until its end. -/
theorem run_putOff (room : 1 ≤ bound) {queue : List Command} (rest : List Command)
    (gathers : Gathers view url shared id session history now)
    (gathered : session.queue = some queue) (fresh : session.stale = false)
    (whole : queue ++ rest =
      transaction key item (view.list history.server key).length bound) :
    ∃ count after, (sendAll id (rest ++ [.exec])).run now = .ok (.ok (.all count), after) ∧
      Pushed view url shared key item bound history after := by
  induction rest generalizing queue session now with
  | nil =>
    rw [List.append_nil] at whole
    exact run_exec lawful room gathers (whole ▸ gathered) fresh
  | cons command rest ih =>
    have member : command ∈ queue ++ command :: rest :=
      List.mem_append_right queue List.mem_cons_self
    rw [whole] at member
    obtain ⟨middle, first, putOff⟩ := gathers.run_send
      (lawful.queued gathers.ready.sound gathers.known gathered (isWrite_of_mem_transaction member))
      rfl
    obtain ⟨count, after, others, pushed⟩ := ih putOff rfl fresh
      ((List.append_assoc queue [command] rest).trans whole)
    exact ⟨count, after, run_sendAll_cons first others, pushed⟩

/-- An attempt that nobody interferes with commits. -/
theorem run_tryPush (ready : Ready view url shared history) (key item : String)
    (room : 1 ≤ bound) :
    ∃ after, (tryPush key item bound).run history = .ok (.ok .committed, after) ∧
      Pushed view url shared key item bound history after := by
  obtain ⟨id, server, opens, unknown, becomes⟩ := lawful.opens ready.sound
  have different : id ≠ shared := by
    rintro rfl
    cases unknown.symm.trans ready.idle
  have connects : openConnection.run history = .ok (.ok id, { history with server }) := by
    show Except.ok history.connected = _
    rw [connected, ready.url_eq, opens]
    rfl
  have opened : Gathers view url shared id {} history { history with server } :=
    { ready := ⟨becomes.sound, ready.url_eq, becomes.idle different.symm ready.idle⟩
      keyStart_eq := rfl
      shared_eq := rfl
      budget_eq := rfl
      list_eq := becomes.list_eq
      known := becomes.session_eq
      different }
  obtain ⟨watching, watched, watches⟩ := opened.run_send
    (lawful.watch key opened.ready.sound opened.known rfl) rfl
  obtain ⟨asking, asked, asks⟩ := watches.run_send
    (lawful.length key watches.ready.sound watches.known rfl) rfl
  rw [watches.list_eq] at asked
  obtain ⟨beginning, begun, begins⟩ := asks.run_send
    (lawful.multi asks.ready.sound asks.known rfl) rfl
  obtain ⟨count, after, ended, pushed⟩ := run_putOff lawful room
    (transaction key item (view.list history.server key).length bound) begins rfl rfl
    (List.nil_append _)
  have sent := run_sendAll_cons begun ended
  rw [transaction, List.append_assoc] at sent
  refine ⟨after, ?_, pushed⟩
  rw [tryPush, Action.run_bind_of_ok connects, Action.run_bind_of_ok watched,
    Action.run_bind_of_ok asked]
  exact Action.run_bind_of_ok sent

/-! ## Reading and clearing -/

theorem run_seen (ready : Ready view url history.shared history) (user : String) :
    ∃ after, (SeenHistory.seen user).run history =
        .ok (.ok (view.list history.server (history.key user)), after) ∧
      Remains view url history.shared history after ∧
      view.list after.server = view.list history.server := by
  obtain ⟨server, served, becomes⟩ :=
    lawful.range (history.key user) 0 (-1) ready.sound ready.idle rfl (fits_all _ _)
  rw [sliceOf_all] at served
  exact ⟨_, Action.run_bind_of_ok (run_send served rfl),
    ⟨⟨becomes.sound, ready.url_eq, becomes.session_eq⟩, rfl, rfl, rfl⟩, becomes.list_eq⟩

theorem run_clear (ready : Ready view url history.shared history) (user : String) :
    ∃ after, (SeenHistory.clear user).run history = .ok (.ok (), after) ∧
      Remains view url history.shared history after ∧
      view.list after.server =
        Function.update (view.list history.server) (history.key user) [] := by
  obtain ⟨count, server, served, becomes⟩ :=
    lawful.delete (history.key user) ready.sound ready.idle
  exact ⟨_, Action.run_bind_of_ok (run_send served rfl),
    ⟨⟨becomes.sound, ready.url_eq, becomes.session_eq⟩, rfl, rfl, rfl⟩, becomes.list_eq⟩

end Lawful

end Backbeat.RedisHistory
