import Backbeat.Redis.Host
import Mathlib.Logic.Function.Basic

/-!
# What is asked of a Redis host

Of the host that keeps the histories only its replies are known.  This module says what is taken of
them where something is proved about the lists: that connections do not fail, the usual meaning of
the commands on lists of any length, and that the commands of all connections are run one at a time.
A transaction comes to nothing just when its connection has turned stale, and a connection turns
stale when a list is written that it watches.  Whether this counts if the list stays as it was is
left open.
-/

namespace Backbeat.Redis

namespace Command

/-- Whether a command writes the list under a key. -/
def Writes (key : String) : Command → Prop
  | .trim place .. => place = key
  | .push place _ => place = key
  | .delete place => place = key
  | _ => False

/-- A command that a transaction may be made of. -/
def IsWrite (command : Command) : Prop :=
  ∃ key, command.Writes key

/-- Whether an index reaches at most one place past a list, from either end. -/
def Reaches (length : Nat) (index : Int) : Prop :=
  index.natAbs ≤ length + 1

/-- A command whose indices reach no further than that.  Indices are numbers of 64 bits, and no list
is too long for them, so these are never out of range. -/
def Fits (lists : String → List String) : Command → Prop
  | .range key start stop => Reaches (lists key).length start ∧ Reaches (lists key).length stop
  | .trim key start stop => Reaches (lists key).length start ∧ Reaches (lists key).length stop
  | _ => True

/-- The lists after a command. -/
def edit (lists : String → List String) : Command → String → List String
  | .trim key start stop => Function.update lists key (sliceOf start stop (lists key))
  | .push key item => Function.update lists key (item :: lists key)
  | .delete key => Function.update lists key []
  | _ => lists

/-- The lists after commands, one after the other. -/
def editAll (commands : List Command) (lists : String → List String) : String → List String :=
  commands.foldl edit lists

theorem editAll_append (first second : List Command) (lists : String → List String) :
    editAll (first ++ second) lists = editAll second (editAll first lists) :=
  List.foldl_append

end Command

/-- What a host remembers of a connection: the keys that it watches, whether one of their lists was
changed since, and the commands of a transaction that was begun. -/
structure Session where
  watched : List String := []
  stale : Bool := false
  queue : Option (List Command) := none

/-- How the state of a host is read: whether it is one in which no command fails, its lists, and its
sessions by the connections that were opened. -/
structure View (σ : Type) where
  Sound : σ → Prop
  list : σ → (key : String) → List String
  session? : σ → (id : Nat) → Option Session

namespace View

variable {σ : Type} (view : View σ)

/-- What others may do to a connection: it can turn stale, but unless it does, the lists that it
watches stay as they are. -/
def Undisturbed (id : Nat) (server after : σ) : Prop :=
  ∀ session, view.session? server id = some session →
    ∃ stale, view.session? after id = some { session with stale } ∧
      (stale = false → session.stale = false ∧
        ∀ key ∈ session.watched, view.list after key = view.list server key)

/-- What a command on a connection comes to: the connection has a new session, the lists are
written, and the other connections notice no more than that. -/
structure Becomes (id : Nat) (session : Session) (written : List Command) (server after : σ) :
    Prop where
  sound : view.Sound after
  session_eq : view.session? after id = some session
  list_eq : view.list after = Command.editAll written (view.list server)
  undisturbed : ∀ other, other ≠ id → view.Undisturbed other server after
  /-- Who watches none of the lists that are written does not turn stale. -/
  unconcerned : ∀ other had, other ≠ id → view.session? server other = some had →
    (∀ command ∈ written, ∀ key ∈ had.watched, ¬ command.Writes key) →
    view.session? after other = some had

/-- What Redis makes of the commands that the histories send, on connections to a URL that do not
fail. -/
structure Lawful [Host σ] (url : String) : Prop where
  opens {server : σ} : view.Sound server →
    ∃ id after, Host.openConnection url server = (.ok id, after) ∧
      view.session? server id = none ∧ view.Becomes id {} [] server after
  watch {server : σ} {id : Nat} {session : Session} (key : String) : view.Sound server →
    view.session? server id = some session → session.queue = none →
    ∃ after, Host.serve id (.watch key) server = (.ok, after) ∧
      view.Becomes id { session with watched := key :: session.watched } [] server after
  length {server : σ} {id : Nat} {session : Session} (key : String) : view.Sound server →
    view.session? server id = some session → session.queue = none →
    ∃ after,
      Host.serve id (.length key) server = (.number (view.list server key).length, after) ∧
        view.Becomes id session [] server after
  range {server : σ} {id : Nat} {session : Session} (key : String) (start stop : Int) :
    view.Sound server → view.session? server id = some session → session.queue = none →
    (Command.range key start stop).Fits (view.list server) →
    ∃ after,
      Host.serve id (.range key start stop) server =
        (.items (sliceOf start stop (view.list server key)), after) ∧
          view.Becomes id session [] server after
  /-- A command that writes is run at once on a connection that neither watches nor puts off. -/
  delete {server : σ} {id : Nat} (key : String) : view.Sound server →
    view.session? server id = some {} →
    ∃ count after, Host.serve id (.delete key) server = (.number count, after) ∧
      view.Becomes id {} [.delete key] server after
  multi {server : σ} {id : Nat} {session : Session} : view.Sound server →
    view.session? server id = some session → session.queue = none →
    ∃ after, Host.serve id .multi server = (.ok, after) ∧
      view.Becomes id { session with queue := some [] } [] server after
  queued {server : σ} {id : Nat} {session : Session} {gathered : List Command}
    {command : Command} : view.Sound server → view.session? server id = some session →
    session.queue = some gathered → command.IsWrite →
    ∃ after, Host.serve id command server = (.queued, after) ∧
      view.Becomes id { session with queue := some (gathered ++ [command]) } [] server after
  exec_stale {server : σ} {id : Nat} {session : Session} {gathered : List Command} :
    view.Sound server → view.session? server id = some session →
    session.queue = some gathered → session.stale = true →
    ∃ after, Host.serve id .exec server = (.nil, after) ∧ view.Becomes id {} [] server after
  exec_fresh {server : σ} {id : Nat} {session : Session} {gathered : List Command} :
    view.Sound server → view.session? server id = some session →
    session.queue = some gathered → session.stale = false →
    (∀ command ∈ gathered, command.IsWrite ∧ command.Fits (view.list server)) →
    ∃ after, Host.serve id .exec server = (.all gathered.length, after) ∧
      view.Becomes id {} gathered server after

variable {view} {id other : Nat} {session : Session} {written : List Command}
  {server middle after : σ}

theorem Undisturbed.refl (view : View σ) (id : Nat) (server : σ) :
    view.Undisturbed id server server :=
  fun session known => ⟨session.stale, known, fun fresh => ⟨fresh, fun _ _ => rfl⟩⟩

theorem Undisturbed.trans (before : view.Undisturbed id server middle)
    (later : view.Undisturbed id middle after) : view.Undisturbed id server after := by
  intro session known
  obtain ⟨between, met, still⟩ := before session known
  obtain ⟨stale, left, last⟩ := later _ met
  refine ⟨stale, left, ?_⟩
  intro fresh
  obtain ⟨fresh, same⟩ := last fresh
  obtain ⟨first_fresh, first_same⟩ := still fresh
  exact ⟨first_fresh, fun key watched => (same key watched).trans (first_same key watched)⟩

/-- A connection that neither watches nor puts off stays so, whatever happens on others. -/
theorem Becomes.idle (becomes : view.Becomes id session written server after)
    (different : other ≠ id) (known : view.session? server other = some {}) :
    view.session? after other = some {} :=
  becomes.unconcerned other {} different known fun _ _ => nofun

end View

end Backbeat.Redis
