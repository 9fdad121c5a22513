import Backbeat.History.Redis.Steps
import Backbeat.Proofs.History.Accounting
import Backbeat.Proofs.Redis.Server

/-!
# Connections to Redis

Every attempt at a push works on a connection of its own, which nobody else uses, and from the
moment that the connection watches the key on, the list under it is what it was unless the
connection has turned stale.  Hence a transaction that is run meets a list of the length that was
asked for before, and the room that it makes is the right one, whatever was sent in between.  The
main statement is that callers of histories in a lawful host account for all their changes, in
whatever order their commands reach it.
-/

namespace Backbeat.RedisHistory

open Redis (Command Host Reply Server Session View placeOf sliceOf)

variable {σ : Type}

/-! ## Room for an item -/

theorem sliceOf_zero (items : List String) {last : Nat} :
    sliceOf 0 last items = items.take (last + 1) := by
  have first : placeOf items.length 0 = 0 := rfl
  have past : placeOf items.length last = last := if_neg (Int.not_lt.mpr (Int.natCast_nonneg last))
  rw [sliceOf, first, past]
  rfl

/-- Room is made for the list as long as it was said to be. -/
theorem editAll_makeRoom (lists : String → List String) (key : String) {bound : Nat}
    (room : 1 ≤ bound) :
    Command.editAll (makeRoom key (lists key).length bound) lists =
      Function.update lists key ((lists key).take (bound - 1)) := by
  rw [makeRoom]
  split
  · next short =>
    rw [List.take_of_length_le (by omega), Function.update_eq_self]
    rfl
  · split
    · next single =>
      rw [single]
      rfl
    · next more =>
      obtain ⟨last, rfl⟩ : ∃ last, bound = last + 2 := ⟨bound - 2, by omega⟩
      have index : ((last + 2 : Nat) : Int) - 2 = last := by omega
      rw [index, show last + 2 - 1 = last + 1 from rfl, ← sliceOf_zero]
      rfl

/-- The commands that an attempt puts off. -/
def transaction (key item : String) (length : Int) (bound : Nat) : List Command :=
  makeRoom key length bound ++ [.push key item]

/-- A transaction that meets the list that it was made for puts the item at its head and drops
what is beyond the bound. -/
theorem editAll_transaction (lists : String → List String) (key item : String) {bound : Nat}
    (room : 1 ≤ bound) :
    Command.editAll (transaction key item (lists key).length bound) lists =
      Function.update lists key (item :: (lists key).take (bound - 1)) := by
  rw [transaction, Command.editAll_append, editAll_makeRoom lists key room]
  show Command.edit _ (.push key item) = _
  rw [Command.edit, Function.update_self, Function.update_idem]

theorem fits_all (lists : String → List String) (key : String) :
    (Command.range key 0 (-1)).Fits lists :=
  ⟨Nat.zero_le _, Nat.le_add_left 1 _⟩

theorem isWrite_of_mem_transaction {key item : String} {length : Int} {bound : Nat}
    {command : Command} (member : command ∈ transaction key item length bound) :
    command.IsWrite := by
  rw [transaction, makeRoom] at member
  rcases List.mem_append.mp member with makes | puts
  · split at makes
    · cases makes
    · split at makes
      · cases List.mem_singleton.mp makes
        exact ⟨key, rfl⟩
      · cases List.mem_singleton.mp makes
        exact ⟨key, rfl⟩
  · cases List.mem_singleton.mp puts
    exact ⟨key, rfl⟩

/-- Room is made only in a list that has as many items as the bound, so it is cut inside. -/
theorem fits_of_mem_transaction {lists : String → List String} {key item : String} {bound : Nat}
    (room : 1 ≤ bound) {command : Command}
    (member : command ∈ transaction key item (lists key).length bound) : command.Fits lists := by
  rw [transaction, makeRoom] at member
  rcases List.mem_append.mp member with makes | puts
  · split at makes
    · cases makes
    · next full =>
      split at makes
      · cases List.mem_singleton.mp makes
        trivial
      · next more =>
        cases List.mem_singleton.mp makes
        constructor
        · exact Nat.zero_le _
        · rw [Command.Reaches]
          omega
  · cases List.mem_singleton.mp puts
    trivial

section Connections

variable {view : View σ} {history : RedisHistory σ} {url keyStart : String} {shared id : Nat}

/-- What a change does to all histories is what it does to the one that it concerns. -/
theorem update_eq_appliedTo (key : String → String) (histories : String → List String)
    (change : HistoryChange) :
    Function.update histories (key change.user) (change.applied (histories (key change.user))) =
      HistoryChange.appliedTo key histories change := by
  funext place
  rw [Function.update_apply, HistoryChange.appliedTo]
  by_cases same : place = key change.user
  · rw [if_pos same, if_pos same.symm, same]
  · rw [if_neg same, if_neg (Ne.symm same)]

/-! ## The discipline -/

/-- The host is sound, and the shared connection to it neither watches nor puts off. -/
structure Ready (view : View σ) (url : String) (shared : Nat) (history : RedisHistory σ) :
    Prop where
  sound : view.Sound history.server
  url_eq : history.url = url
  idle : view.session? history.server shared = some {}

/-- Everyone has a stake in the connection that is theirs, if they have one. -/
def connections (view : View σ) (url keyStart : String) (shared : Nat) :
    Discipline (RedisHistory σ) (HistoryChange.appliedTo (keyStart ++ ·)) where
  Stake := Option Nat
  good := Ready view url shared
  held stake history := ∀ id, stake = some id →
    (∃ session, view.session? history.server id = some session) ∧ id ≠ shared
  apart mine other := ∀ id, mine = some id → other ≠ some id
  spares stake history after := ∀ id, stake = some id →
    view.Undisturbed id history.server after.server
  view history := view.list history.server
  apart_symm apart id others mine := apart id mine others
  spares_refl _ history id _ := .refl view id history.server
  spares_trans before after id own := (before id own).trans (after id own)
  held_of_spares spared held id own := by
    obtain ⟨⟨session, known⟩, different⟩ := held id own
    obtain ⟨stale, still, -⟩ := spared id own session known
    exact ⟨⟨_, still⟩, different⟩

/-- A command on a connection that is nobody else's stake keeps to the discipline; on the shared
connection this asks that it stays as it is. -/
theorem allows_of_becomes {stake left : (connections view url keyStart shared).Stake}
    {event : Option HistoryChange} {session : Session} {written : List Command} {server : σ}
    (ready : Ready view url shared history)
    (becomes : view.Becomes id session written history.server server)
    (shares : id = shared → session = {})
    (foreign : ∀ other, (connections view url keyStart shared).held other history →
      (connections view url keyStart shared).apart stake other → other ≠ some id)
    (keeps : ∀ number, left = some number → number = id ∧ id ≠ shared)
    (changes : Command.editAll written (view.list history.server) =
      event.toList.foldl (HistoryChange.appliedTo (keyStart ++ ·)) (view.list history.server)) :
    (connections view url keyStart shared).Allows stake left event history
      { history with server } where
  good := by
    refine ⟨becomes.sound, ready.url_eq, ?_⟩
    by_cases same : id = shared
    · exact same ▸ shares same ▸ becomes.session_eq
    · exact becomes.idle (Ne.symm same) ready.idle
  view_eq := becomes.list_eq.trans changes
  held number own := by
    obtain ⟨rfl, different⟩ := keeps number own
    exact ⟨⟨session, becomes.session_eq⟩, different⟩
  apart other held apart number own := by
    rw [(keeps number own).1]
    exact foreign other held apart
  spares other held apart number own := by
    refine becomes.undisturbed number ?_
    rintro rfl
    exact foreign other held apart own

/-- Whoever has a connection may use it, and may then leave it. -/
theorem allows_own {left : (connections view url keyStart shared).Stake}
    {event : Option HistoryChange} {session : Session} {written : List Command} {server : σ}
    (ready : Ready view url shared history)
    (held : (connections view url keyStart shared).held (some id) history)
    (becomes : view.Becomes id session written history.server server)
    (keeps : left = some id ∨ left = none)
    (changes : Command.editAll written (view.list history.server) =
      event.toList.foldl (HistoryChange.appliedTo (keyStart ++ ·)) (view.list history.server)) :
    (connections view url keyStart shared).Allows (some id) left event history
      { history with server } := by
  have different : id ≠ shared := (held id rfl).2
  refine allows_of_becomes ready becomes (fun same => absurd same different)
    (fun other _ apart => apart id rfl) ?_ changes
  intro number own
  rcases keeps with rfl | rfl
  · exact ⟨(Option.some.inj own).symm, different⟩
  · cases own

/-- Everyone may use the shared connection. -/
theorem allows_shared {event : Option HistoryChange} {written : List Command} {server : σ}
    (ready : Ready view url shared history)
    (becomes : view.Becomes shared {} written history.server server)
    (changes : Command.editAll written (view.list history.server) =
      event.toList.foldl (HistoryChange.appliedTo (keyStart ++ ·)) (view.list history.server)) :
    (connections view url keyStart shared).Allows none none event history
      { history with server } :=
  allows_of_becomes ready becomes (fun _ => rfl) (fun _ held _ own => (held shared own).2 rfl)
    nofun changes

/-! ## Attempts -/

/-- What an attempt knows of its connection: it watches the key, it has put off what it was sent,
and unless it has turned stale, the list has the length that was asked for. -/
def Prepared (view : View σ) (key : String) (length : Nat) (queue : Option (List Command))
    (id : Nat) (server : σ) : Prop :=
  ∃ session, view.session? server id = some session ∧ session.queue = queue ∧
    key ∈ session.watched ∧
    (session.stale = false → (view.list server key).length = length)

theorem Prepared.later {key : String} {length : Nat} {queue : Option (List Command)}
    {server after : σ} (prepared : Prepared view key length queue id server)
    (undisturbed : view.Undisturbed id server after) :
    Prepared view key length queue id after := by
  obtain ⟨session, known, queue_eq, watches, length_eq⟩ := prepared
  obtain ⟨stale, still, same⟩ := undisturbed session known
  refine ⟨_, still, queue_eq, watches, ?_⟩
  intro fresh
  obtain ⟨was_fresh, lists⟩ := same fresh
  rw [lists key watches]
  exact length_eq was_fresh

/-- After a command that writes nothing, the attempt knows of its connection what it knew of the
list. -/
theorem prepared_of_becomes {key : String} {length : Nat} {left : Session} {server after : σ}
    (becomes : view.Becomes id left [] server after) (watches : key ∈ left.watched)
    (length_eq : left.stale = false → (view.list server key).length = length) :
    Prepared view key length left.queue id after := by
  refine ⟨left, becomes.session_eq, rfl, watches, ?_⟩
  rw [becomes.list_eq]
  exact length_eq

variable [Host σ]

theorem served_eq {command : Command} {reply : Reply} {server : σ}
    (served : Host.serve id command history.server = (reply, server))
    (granted : reply.isRefusal = false) :
    history.served id command = (.ok reply, { history with server }) := by
  rw [RedisHistory.served, served]
  cases reply with
  | refused text => cases granted
  | _ => rfl

/-- To send a command, it is enough to know how it is served at the time. -/
theorem sound_sendStep {stake : (connections view url keyStart shared).Stake} {command : Command}
    {event : Reply → Option HistoryChange}
    {ending : List HistoryChange → (connections view url keyStart shared).Stake →
      RedisHistory σ → Except FeedError Reply → Prop}
    (stepped : ∀ now : RedisHistory σ, Ready view url shared now →
      (connections view url keyStart shared).held stake now →
      (connections view url keyStart shared).spares stake history now →
      ∃ reply server left, Host.serve id command now.server = (reply, server) ∧
        reply.isRefusal = false ∧
        (connections view url keyStart shared).Allows stake left (event reply) now
          { now with server } ∧
        ending (event reply).toList left { now with server } (.ok reply)) :
    (connections view url keyStart shared).Sound (· = []) ending [] stake history
      (sendStep event id command) := by
  refine .atomic rfl ?_
  intro now ready held spared
  obtain ⟨reply, server, left, served, granted, allowed, ends⟩ := stepped now ready held spared
  refine ⟨left, ?_⟩
  rw [served_eq served granted]
  exact ⟨allowed, ends⟩

/-- How a command that makes no change ends: the connection is still one's own, and the reply and
the host are as said. -/
def Kept (id : Nat) (ending : Reply → σ → Prop) (made : List HistoryChange) (stake : Option Nat)
    (history : RedisHistory σ) (result : Except FeedError Reply) : Prop :=
  made = [] ∧ stake = some id ∧ ∃ reply, result = .ok reply ∧ ending reply history.server

/-- A command that writes nothing may be sent on one's own connection. -/
theorem sound_ownStep {command : Command} {event : Reply → Option HistoryChange}
    {ending : Reply → σ → Prop}
    (stepped : ∀ server, view.Sound server → view.Undisturbed id history.server server →
      ∃ reply after left, Host.serve id command server = (reply, after) ∧
        reply.isRefusal = false ∧ event reply = none ∧ view.Becomes id left [] server after ∧
        ending reply after) :
    (connections view url keyStart shared).Sound (· = []) (Kept id ending) [] (some id) history
      (sendStep event id command) := by
  refine sound_sendStep ?_
  intro now ready held spared
  obtain ⟨reply, after, left, served, granted, quiet, becomes, ends⟩ :=
    stepped now.server ready.sound (spared id rfl)
  refine ⟨reply, after, some id, served, granted, ?_⟩
  rw [quiet]
  exact ⟨allows_own ready held becomes (.inl rfl) rfl, rfl, rfl, reply, rfl, ends⟩

theorem sendAllSteps_cons (event : Reply → Option HistoryChange) (command last : Command)
    (rest : List Command) :
    (sendAllSteps event id (command :: (rest ++ [last])) :
        Process (RedisHistory σ) HistoryChange FeedError Reply) = (do
      let first ← (sendStep event id command).attempt
      let result ← (sendAllSteps event id (rest ++ [last])).attempt
      match first with
      | .error refusal => .fail refusal
      | .ok _ => .ended result) := by
  cases rest <;> rfl

/-- How a transaction ends: it comes to nothing, or it is run and makes the change. -/
def Transacted (change : HistoryChange) (made : List HistoryChange) (stake : Option Nat)
    (result : Except FeedError Reply) : Prop :=
  (made = [] ∧ stake = none ∧ result = .ok .nil) ∨
    (made = [change] ∧ ∃ count, result = .ok (.all count))

section Lawful

variable (lawful : view.Lawful url)
include lawful

theorem sound_openStep (history : RedisHistory σ) :
    (connections view url keyStart shared).Sound (· = [])
      (fun made stake history result => made = [] ∧
        ∃ id, result = .ok id ∧ stake = some id ∧ view.session? history.server id = some {})
      [] none history openStep := by
  refine .atomic rfl ?_
  intro now ready _ _
  obtain ⟨id, after, opened, unknown, becomes⟩ := lawful.opens ready.sound
  have connected : now.connected = (.ok id, { now with server := after }) := by
    rw [RedisHistory.connected, ready.url_eq, opened]
    rfl
  have different : id ≠ shared := by
    rintro rfl
    cases unknown.symm.trans ready.idle
  refine ⟨some id, ?_⟩
  rw [connected]
  refine ⟨?_, rfl, id, rfl, rfl, becomes.session_eq⟩
  refine allows_of_becomes ready becomes (fun same => absurd same different) ?_ ?_ rfl
  · rintro other held - rfl
    obtain ⟨⟨session, known⟩, -⟩ := held id rfl
    cases unknown.symm.trans known
  · intro number own
    exact ⟨(Option.some.inj own).symm, different⟩

/-- From when the key is watched on, the length of the list can only change with the connection
turning stale. -/
theorem sound_watch (fresh : view.session? history.server id = some {}) (key : String) :
    (connections view url keyStart shared).Sound (· = [])
      (Kept id fun _ server => ∃ length, Prepared view key length none id server)
      [] (some id) history (sendStep (fun _ => none) id (.watch key)) := by
  refine sound_ownStep ?_
  intro server sound undisturbed
  obtain ⟨stale, still, -⟩ := undisturbed {} fresh
  obtain ⟨after, served, becomes⟩ := lawful.watch key sound still rfl
  exact ⟨.ok, after, _, served, rfl, rfl, becomes, _,
    prepared_of_becomes becomes List.mem_cons_self fun _ => rfl⟩

theorem sound_length {key : String} {length : Nat}
    (prepared : Prepared view key length none id history.server) :
    (connections view url keyStart shared).Sound (· = [])
      (Kept id fun reply server =>
        ∃ length : Nat, reply = .number length ∧ Prepared view key length none id server)
      [] (some id) history (sendStep (fun _ => none) id (.length key)) := by
  refine sound_ownStep ?_
  intro server sound undisturbed
  obtain ⟨session, known, idle, watches, -⟩ := prepared.later undisturbed
  obtain ⟨after, served, becomes⟩ := lawful.length key sound known idle
  exact ⟨_, after, session, served, rfl, rfl, becomes, (view.list server key).length, rfl,
    idle ▸ prepared_of_becomes becomes watches fun _ => rfl⟩

section Transaction

variable {user item : String} {bound length : Nat}

/-- If the transaction is run, the list still has the length that was asked for. -/
theorem sound_exec (room : 1 ≤ bound)
    (prepared : Prepared view (keyStart ++ user) length
      (some (transaction (keyStart ++ user) item length bound)) id history.server) :
    (connections view url keyStart shared).Sound (· = [])
      (fun made stake _ result => Transacted (.push user item bound) made stake result)
      [] (some id) history (sendStep (transacted (.push user item bound)) id .exec) := by
  refine sound_sendStep ?_
  intro now ready held spared
  obtain ⟨session, known, queued, -, length_eq⟩ := prepared.later (spared id rfl)
  cases stale : session.stale with
  | true =>
    obtain ⟨after, served, becomes⟩ := lawful.exec_stale ready.sound known queued stale
    exact ⟨_, after, none, served, rfl, allows_own ready held becomes (.inr rfl) rfl,
      .inl ⟨rfl, rfl, rfl⟩⟩
  | false =>
    rw [← length_eq stale] at queued
    obtain ⟨after, served, becomes⟩ := lawful.exec_fresh ready.sound known queued stale
      fun _ member => ⟨isWrite_of_mem_transaction member, fits_of_mem_transaction room member⟩
    refine ⟨_, after, none, served, rfl, allows_own ready held becomes (.inr rfl) ?_,
      .inr ⟨rfl, _, rfl⟩⟩
    rw [editAll_transaction _ _ item room]
    exact update_eq_appliedTo (keyStart ++ ·) _ (.push user item bound)

theorem sound_multi {key : String} (event : Reply → Option HistoryChange)
    (prepared : Prepared view key length none id history.server) (quiet : event .ok = none) :
    (connections view url keyStart shared).Sound (· = [])
      (Kept id fun _ server => Prepared view key length (some []) id server)
      [] (some id) history (sendStep event id .multi) := by
  refine sound_ownStep ?_
  intro server sound undisturbed
  obtain ⟨session, known, idle, watches, length_eq⟩ := prepared.later undisturbed
  obtain ⟨after, served, becomes⟩ := lawful.multi sound known idle
  exact ⟨.ok, after, _, served, rfl, quiet, becomes,
    prepared_of_becomes becomes watches length_eq⟩

/-- A command in a transaction is put off, and nothing else happens. -/
theorem sound_queued {key : String} {command : Command} {queue : List Command}
    (event : Reply → Option HistoryChange)
    (prepared : Prepared view key length (some queue) id history.server)
    (writes : command.IsWrite) (quiet : event .queued = none) :
    (connections view url keyStart shared).Sound (· = [])
      (Kept id fun _ server => Prepared view key length (some (queue ++ [command])) id server)
      [] (some id) history (sendStep event id command) := by
  refine sound_ownStep ?_
  intro server sound undisturbed
  obtain ⟨session, known, queued, watches, length_eq⟩ := prepared.later undisturbed
  obtain ⟨after, served, becomes⟩ := lawful.queued sound known queued writes
  exact ⟨.queued, after, _, served, rfl, quiet, becomes,
    prepared_of_becomes becomes watches length_eq⟩

/-- The commands of a transaction are put off until its end. -/
theorem sound_putOff (room : 1 ≤ bound) {queue : List Command} (rest : List Command)
    (prepared : Prepared view (keyStart ++ user) length (some queue) id history.server)
    (whole : queue ++ rest = transaction (keyStart ++ user) item length bound) :
    (connections view url keyStart shared).Sound (· = [])
      (fun made stake _ result => Transacted (.push user item bound) made stake result)
      [] (some id) history
      (sendAllSteps (transacted (.push user item bound)) id (rest ++ [.exec])) := by
  induction rest generalizing queue history with
  | nil =>
    rw [List.append_nil] at whole
    exact sound_exec lawful room (whole ▸ prepared)
  | cons command rest ih =>
    have writes : command.IsWrite := by
      have member : command ∈ queue ++ command :: rest :=
        List.mem_append_right queue List.mem_cons_self
      rw [whole] at member
      exact isWrite_of_mem_transaction member
    rw [List.cons_append, sendAllSteps_cons]
    refine (sound_queued lawful (transacted (.push user item bound)) prepared writes
      rfl).attempt_bind ?_
    rintro _ _ service _ ⟨rfl, rfl, reply, rfl, queued⟩
    refine (ih queued ((List.append_assoc queue [command] rest).trans whole)).attempt_bind ?_
    intro made stake service result ends
    exact ends

/-- The transaction of an attempt, sent on a connection that watches the key. -/
theorem sound_transaction (room : 1 ≤ bound)
    (prepared : Prepared view (keyStart ++ user) length none id history.server) :
    (connections view url keyStart shared).Sound (· = [])
      (fun made stake _ result => Transacted (.push user item bound) made stake result)
      [] (some id) history
      (sendAllSteps (transacted (.push user item bound)) id
        (.multi :: makeRoom (keyStart ++ user) length bound ++
          [.push (keyStart ++ user) item, .exec])) := by
  rw [show (.multi :: makeRoom (keyStart ++ user) length bound ++
      [.push (keyStart ++ user) item, .exec] : List Command) =
    .multi :: (transaction (keyStart ++ user) item length bound ++ [.exec]) by simp [transaction],
    sendAllSteps_cons]
  refine (sound_multi lawful (transacted (.push user item bound)) prepared rfl).attempt_bind ?_
  rintro _ _ service _ ⟨rfl, rfl, reply, rfl, begun⟩
  refine (sound_putOff lawful room _ begun (List.nil_append _)).attempt_bind ?_
  intro made stake service result ends
  exact ends

/-- An attempt makes its change if its transaction is run, and none otherwise. -/
theorem sound_attemptSteps (user item : String) (room : 1 ≤ bound) (history : RedisHistory σ) :
    (connections view url keyStart shared).Sound (· = [])
      (AttemptEnds none (.push user item bound)) [] none history
      (attemptSteps (keyStart ++ user) user item bound) := by
  refine (sound_openStep lawful history).bind
    (by rintro _ _ _ _ ⟨-, _, impossible, -⟩; cases impossible) ?_
  rintro _ _ opened _ ⟨rfl, id, ⟨⟩, rfl, fresh⟩
  refine (sound_watch lawful fresh (keyStart ++ user)).bind (fun _ _ _ _ ends => ends.1) ?_
  rintro _ _ watching _ ⟨rfl, rfl, reply, ⟨⟩, length, prepared⟩
  refine (sound_length lawful prepared).bind (fun _ _ _ _ ends => ends.1) ?_
  rintro _ _ asked _ ⟨rfl, rfl, reply, ⟨⟩, length, rfl, prepared⟩
  refine (sound_transaction lawful room prepared).bind ?_ ?_
  · rintro _ _ _ _ (⟨-, -, impossible⟩ | ⟨-, _, impossible⟩) <;> cases impossible
  · rintro _ _ _ _ (⟨rfl, rfl, ⟨⟩⟩ | ⟨rfl, _, ⟨⟩⟩)
    · exact ⟨rfl, rfl⟩
    · exact rfl

end Transaction

/-! ## Callers -/

theorem sound_seen (user : String) (history : RedisHistory σ) :
    (connections view url keyStart shared).Sound (· = []) (CallEnds []) [] none history
      ((steps keyStart shared).seen user) := by
  have range : (connections view url keyStart shared).Sound (· = [])
      (fun made _ _ _ => made = []) [] none history
      (sendStep (fun _ => none) shared (.range (keyStart ++ user) 0 (-1))) := by
    refine sound_sendStep ?_
    intro now ready _ _
    obtain ⟨after, served, becomes⟩ :=
      lawful.range (keyStart ++ user) 0 (-1) ready.sound ready.idle rfl (fits_all _ _)
    exact ⟨_, after, none, served, rfl, allows_shared ready becomes rfl, rfl⟩
  refine range.bind (fun _ _ _ _ ends => ends) ?_
  intro made stake service reply ends
  cases reply <;> exact ends

theorem sound_clear (user : String) (history : RedisHistory σ) :
    (connections view url keyStart shared).Sound (· = []) (CallEnds [.clear user]) [] none history
      ((steps keyStart shared).clear user) := by
  have delete : (connections view url keyStart shared).Sound (· = [])
      (fun made _ _ result => made = [.clear user] ∧ ∃ reply, result = .ok reply) [] none history
      (sendStep (fun _ => some (.clear user)) shared (.delete (keyStart ++ user))) := by
    refine sound_sendStep ?_
    intro now ready _ _
    obtain ⟨count, after, served, becomes⟩ :=
      lawful.delete (keyStart ++ user) ready.sound ready.idle
    refine ⟨_, after, none, served, rfl, allows_shared ready becomes ?_, rfl, _, rfl⟩
    exact update_eq_appliedTo (keyStart ++ ·) _ (.clear user)
  refine delete.bind (by rintro _ _ _ _ ⟨-, _, impossible⟩; cases impossible) ?_
  intro made stake service reply ends
  exact ends.1

theorem lawful_steps (keyStart : String) (shared : Nat) :
    (steps keyStart shared).Lawful (connections view url keyStart shared) none where
  attempt user item _ history room := sound_attemptSteps lawful user item room history
  seen user history := sound_seen lawful user history
  clear user history := sound_clear lawful user history

/-- At a lawful URL connecting succeeds, and the shared connection is then ready. -/
theorem connect_of_lawful {server : σ} (sound : view.Sound server) :
    ∃ history : RedisHistory σ, connect server url = .ok history ∧
      Ready view url history.shared history ∧ view.list history.server = view.list server := by
  obtain ⟨id, after, opened, -, becomes⟩ := lawful.opens sound
  refine ⟨{ server := after, url, shared := id }, ?_, ?_, becomes.list_eq⟩
  · rw [connect, opened]
  · exact ⟨becomes.sound, rfl, becomes.session_eq⟩

end Lawful

theorem keyStart_append_cancel {left right : String} (same : keyStart ++ left = keyStart ++ right) :
    left = right := by
  have texts := congrArg String.toList same
  rw [String.toList_append, String.toList_append] at texts
  exact String.toList_injective (List.append_cancel_left texts)

/-- Whoever calls, with whatever budgets, and in whatever order the commands of the calls reach a
lawful host, every change of the histories is accounted for.  The steps of a call in a row are the
call itself. -/
theorem accounted_transactions {κ : Type} [DecidableEq κ] (start : RedisHistory σ)
    (lawful : view.Lawful start.url) (ready : Ready view start.url start.shared start)
    (requests : κ → HistoryRequest) (budgets : κ → Nat) (turns : List κ) :
    (∀ (request : HistoryRequest) (history : RedisHistory σ),
      ((steps history.keyStart history.shared).process history.retryBudget request).whole.run
        history = request.call.run history) ∧
    Accounted start.key (fun history => view.list history.server) requests start (Crowd.run turns
      { service := start
        processes := fun caller =>
          (steps start.keyStart start.shared).process (budgets caller) (requests caller) }) :=
  ⟨whole_process, (lawful_steps lawful start.keyStart start.shared).accounted_run
    (fun _ _ => keyStart_append_cancel) ready nofun nofun requests budgets turns⟩

end Connections

/-- A keeper that has just connected to a new server. -/
def fresh : RedisHistory Server where
  server := ({} : Server).opening
  url := ({} : Server).address
  shared := 0

/-- Two callers who want the only place in a history. -/
def pair (first : Bool) : HistoryRequest :=
  .push "user" (if first then "first" else "second") 1

/-- One caller asks for the length, the other one makes its push, and so the first one has to make
another attempt. -/
def overtaken : List Bool :=
  List.replicate 3 true ++ List.replicate 6 false ++ List.replicate 10 true

theorem calm_new : ({} : Server).Calm ({} : Server).address :=
  ⟨rfl, rfl, rfl, fun _ => rfl, fun _ _ => rfl⟩

theorem accounted_transactions_overtaken :
    Accounted fresh.key (fun history => history.server.list) pair fresh (Crowd.run overtaken
      { service := fresh
        processes := fun caller => (steps fresh.keyStart fresh.shared).process 2 (pair caller) }) ∧
    (Crowd.run overtaken
      { service := fresh
        processes := fun caller =>
          (steps fresh.keyStart fresh.shared).process 2 (pair caller) }).log =
      [(false, .push "user" "second" 1), (true, .push "user" "first" 1)] := by
  have ready : Ready (Server.view fresh.url) fresh.url fresh.shared fresh :=
    ⟨calm_new.opening, rfl, rfl⟩
  exact ⟨(accounted_transactions fresh (Server.lawful _) ready pair (fun _ => 2) overtaken).2,
    by decide +kernel⟩

end Backbeat.RedisHistory
