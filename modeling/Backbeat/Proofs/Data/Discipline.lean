import Backbeat.Data.Crowd

/-!
# Crowds in which nobody is disturbed

How to reason about the callers of a crowd one at a time.  A discipline gives each caller a stake
in the service, such as a number that it has read or a connection of its own, and asks of every
step that it spares the stakes of the others.  It also says what the service amounts to, and how an
event changes that.

`Sound` says of one process, whatever others do between its steps as long as its stake is spared,
that all its steps keep to the discipline and do to the service what their events say.  It is shown
of a process by following its steps.  The main statement is that sound processes make an orderly
crowd, whatever the order of their turns: what the service amounts to is the outcome of the events
one after the other.
-/

namespace Backbeat

/-- Stakes in a service of state `σ`, and the view of it that events change by `apply`. -/
structure Discipline (σ : Type) {ω ν : Type} (apply : ν → ω → ν) where
  Stake : Type
  good : σ → Prop
  /-- The stake is one that someone can have in the service. -/
  held : Stake → σ → Prop
  /-- Two callers can have these stakes. -/
  apart : Stake → Stake → Prop
  /-- The change of the service leaves a stake as it was. -/
  spares : Stake → σ → σ → Prop
  view : σ → ν
  apart_symm : ∀ {mine other}, apart mine other → apart other mine
  spares_refl : ∀ stake service, spares stake service service
  spares_trans : ∀ {stake first second third},
    spares stake first second → spares stake second third → spares stake first third
  held_of_spares : ∀ {stake service after},
    spares stake service after → held stake service → held stake after

variable {κ σ ω ε α β ν : Type} {apply : ν → ω → ν}

namespace Discipline

/-- What a step may do that is made with one stake and leaves another one. -/
structure Allows (discipline : Discipline σ apply) (stake left : discipline.Stake)
    (event : Option ω) (service after : σ) : Prop where
  good : discipline.good after
  view_eq : discipline.view after = event.toList.foldl apply (discipline.view service)
  held : discipline.held left after
  apart : ∀ other, discipline.held other service → discipline.apart stake other →
    discipline.apart left other
  spares : ∀ other, discipline.held other service → discipline.apart stake other →
    discipline.spares other service after

/-- A process that has a stake in the service as it was last seen, and has brought about the events
`made`, keeps to the discipline.  Until it ends its events are `meanwhile`, and it ends as `ending`
says. -/
def Sound (discipline : Discipline σ apply) (meanwhile : List ω → Prop)
    (ending : List ω → discipline.Stake → σ → Except ε α → Prop) :
    List ω → discipline.Stake → σ → Process σ ω ε α → Prop
  | made, stake, service, .ended result => ending made stake service result
  | made, stake, service, .next change event rest =>
    meanwhile made ∧
      ∀ now, discipline.good now → discipline.held stake now → discipline.spares stake service now →
        ∃ left, discipline.Allows stake left (event now) now (change now) ∧
          Sound discipline meanwhile ending (made ++ (event now).toList) left (change now)
            (rest now)

/-- A step may leave everything as it is. -/
theorem Allows.refl {discipline : Discipline σ apply} {stake : discipline.Stake} {service : σ}
    (good : discipline.good service) (held : discipline.held stake service) :
    discipline.Allows stake stake none service service where
  good := good
  view_eq := rfl
  held := held
  apart _ _ apart := apart
  spares other _ _ := discipline.spares_refl other service

namespace Sound

variable {discipline : Discipline σ apply} {meanwhile : List ω → Prop}
  {ending : List ω → discipline.Stake → σ → Except ε α → Prop}
  {made : List ω} {stake : discipline.Stake} {service : σ} {process : Process σ ω ε α}

theorem atomic {step : σ → Except ε α × σ} {event : Except ε α → Option ω} (idle : meanwhile made)
    (stepped : ∀ now, discipline.good now → discipline.held stake now →
      discipline.spares stake service now →
      ∃ left, discipline.Allows stake left (event (step now).1) now (step now).2 ∧
        ending (made ++ (event (step now).1).toList) left (step now).2 (step now).1) :
    discipline.Sound meanwhile ending made stake service (.atomic step event) :=
  ⟨idle, stepped⟩

theorem look {view : σ → α} (idle : meanwhile made)
    (ends : ∀ now, discipline.good now → discipline.held stake now →
      discipline.spares stake service now → ending made stake now (.ok (view now))) :
    discipline.Sound meanwhile ending made stake service (.look view) := by
  refine atomic idle ?_
  intro now good held spared
  refine ⟨stake, .refl good held, ?_⟩
  rw [show (none : Option ω).toList = [] from rfl, List.append_nil]
  exact ends now good held spared

/-- A process in two parts goes on from where the first part has ended. -/
theorem bind {go : α → Process σ ω ε β}
    {endingThen : List ω → discipline.Stake → σ → Except ε β → Prop}
    (first : discipline.Sound meanwhile ending made stake service process)
    (failed : ∀ made stake service fault, ending made stake service (.error fault) →
      endingThen made stake service (.error fault))
    (second : ∀ made stake service value, ending made stake service (.ok value) →
      discipline.Sound meanwhile endingThen made stake service (go value)) :
    discipline.Sound meanwhile endingThen made stake service (process >>= go) := by
  induction process generalizing made stake service with
  | ended result =>
    cases result with
    | error fault => exact failed made stake service fault first
    | ok value => exact second made stake service value first
  | next change event rest ih =>
    refine ⟨first.1, ?_⟩
    intro now good held spared
    obtain ⟨left, allowed, sound⟩ := first.2 now good held spared
    exact ⟨left, allowed, ih now sound⟩

/-- After an attempt it goes on however that has ended. -/
theorem attempt_bind {δ : Type} {go : Except ε α → Process σ ω δ β}
    {endingThen : List ω → discipline.Stake → σ → Except δ β → Prop}
    (first : discipline.Sound meanwhile ending made stake service process)
    (second : ∀ made stake service result, ending made stake service result →
      discipline.Sound meanwhile endingThen made stake service (go result)) :
    discipline.Sound meanwhile endingThen made stake service (process.attempt >>= go) := by
  induction process generalizing made stake service with
  | ended result => exact second made stake service result first
  | next change event rest ih =>
    refine ⟨first.1, ?_⟩
    intro now good held spared
    obtain ⟨left, allowed, sound⟩ := first.2 now good held spared
    exact ⟨left, allowed, ih now sound⟩

/-- What others do between two steps does not matter if they spare the stake. -/
theorem later {after : σ} {promise : List ω → Except ε α → Prop}
    (sound : discipline.Sound meanwhile (fun made _ _ => promise made) made stake service process)
    (spared : discipline.spares stake service after) :
    discipline.Sound meanwhile (fun made _ _ => promise made) made stake after process := by
  cases process with
  | ended result => exact sound
  | next change event rest =>
    refine ⟨sound.1, ?_⟩
    intro now good held still
    exact sound.2 now good held (discipline.spares_trans spared still)

end Sound

end Discipline

namespace Crowd

variable [DecidableEq κ]

theorem eventsOf_append (caller : κ) (left right : List (κ × ω)) :
    eventsOf caller (left ++ right) = eventsOf caller left ++ eventsOf caller right := by
  rw [eventsOf, List.filter_append, List.map_append]
  rfl

theorem eventsOf_own (caller : κ) (event : Option ω) :
    eventsOf caller (event.toList.map (caller, ·)) = event.toList := by
  cases event <;> simp [eventsOf]

theorem eventsOf_other {caller other : κ} (different : other ≠ caller) (event : Option ω) :
    eventsOf other (event.toList.map (caller, ·)) = [] := by
  cases event <;> simp [eventsOf, different.symm]

/-- Everyone has a stake, no two have the same one, and everyone's process is sound. -/
structure Orderly (discipline : Discipline σ apply) (meanwhile : List ω → Prop)
    (promise : κ → List ω → Except ε α → Prop) (start : ν) (crowd : Crowd κ σ ω ε α)
    (stakes : κ → discipline.Stake) : Prop where
  good : discipline.good crowd.service
  view_eq : discipline.view crowd.service = (crowd.log.map Prod.snd).foldl apply start
  held : ∀ caller, discipline.held (stakes caller) crowd.service
  apart : ∀ caller other, caller ≠ other → discipline.apart (stakes caller) (stakes other)
  sound : ∀ caller, discipline.Sound meanwhile (fun made _ _ => promise caller made)
    (eventsOf caller crowd.log) (stakes caller) crowd.service (crowd.processes caller)

namespace Orderly

variable {discipline : Discipline σ apply} {meanwhile : List ω → Prop}
  {promise : κ → List ω → Except ε α → Prop} {start : ν} {crowd : Crowd κ σ ω ε α}
  {stakes : κ → discipline.Stake}

/-- Whoever's turn it is, the crowd stays orderly. -/
theorem step (orderly : Orderly discipline meanwhile promise start crowd stakes) (caller : κ) :
    ∃ stakes, Orderly discipline meanwhile promise start (crowd.step caller) stakes := by
  have own := orderly.sound caller
  rw [Crowd.step]
  split
  · exact ⟨stakes, orderly⟩
  · next change event rest going =>
    rw [going] at own
    obtain ⟨left, allowed, continued⟩ :=
      own.2 crowd.service orderly.good (orderly.held caller) (discipline.spares_refl _ _)
    have others : ∀ other, other ≠ caller → discipline.spares (stakes other) crowd.service
        (change crowd.service) := fun other different =>
      allowed.spares (stakes other) (orderly.held other)
        (orderly.apart caller other different.symm)
    have others_apart : ∀ other, other ≠ caller → discipline.apart left (stakes other) :=
      fun other different => allowed.apart (stakes other) (orderly.held other)
        (orderly.apart caller other different.symm)
    refine ⟨fun other => if other = caller then left else stakes other, allowed.good, ?_, ?_, ?_,
      ?_⟩
    · show discipline.view (change crowd.service) = _
      rw [allowed.view_eq, orderly.view_eq, List.map_append, List.foldl_append, List.map_map]
      simp [Function.comp_def]
    · intro other
      by_cases same : other = caller
      · simpa [same] using allowed.held
      · simpa [same] using discipline.held_of_spares (others other same) (orderly.held other)
    · intro first second different
      by_cases same : first = caller
      · have second_other : second ≠ caller := fun equal => different (same.trans equal.symm)
        simpa [same, second_other] using others_apart second second_other
      · by_cases same' : second = caller
        · simpa [same, same'] using discipline.apart_symm (others_apart first same)
        · simpa [same, same'] using orderly.apart first second different
    · intro other
      by_cases same : other = caller
      · subst same
        simpa [eventsOf_append, eventsOf_own] using continued
      · simpa [same, eventsOf_append, eventsOf_other same] using
          (orderly.sound other).later (others other same)

/-- Whatever the order of the turns, the crowd stays orderly. -/
theorem run (orderly : Orderly discipline meanwhile promise start crowd stakes) (turns : List κ) :
    ∃ stakes, Orderly discipline meanwhile promise start (crowd.run turns) stakes := by
  induction turns generalizing crowd stakes with
  | nil => exact ⟨stakes, orderly⟩
  | cons caller rest ih =>
    obtain ⟨_, next⟩ := orderly.step caller
    exact ih next

/-- Who has ended has kept its promise. -/
theorem promised (orderly : Orderly discipline meanwhile promise start crowd stakes) {caller : κ}
    {result : Except ε α} (ended : crowd.resultOf? caller = some result) :
    promise caller (eventsOf caller crowd.log) result := by
  have sound := orderly.sound caller
  rw [resultOf?] at ended
  split at ended
  · next ends =>
    cases ended
    rw [ends] at sound
    exact sound
  · cases ended

/-- Who has not ended is still on the way. -/
theorem pending (orderly : Orderly discipline meanwhile promise start crowd stakes) {caller : κ}
    (going : crowd.resultOf? caller = none) : meanwhile (eventsOf caller crowd.log) := by
  have sound := orderly.sound caller
  rw [resultOf?] at going
  split at going
  · cases going
  · next goes =>
    rw [goes] at sound
    exact sound.1

end Orderly

end Crowd

end Backbeat
