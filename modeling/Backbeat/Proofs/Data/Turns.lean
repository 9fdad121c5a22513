import Backbeat.Data.Crowd

/-!
# What callers rely on

How to reason about a crowd in which everyone works on the same part of the service.  Nobody's view
of the service stays as it was, but the service changes in one direction only, and what a caller has
learned about it stays true on the way.

An accord says how the service may grow, how far a caller can be, and what the service has to do
with the events so far.  It is shown of single turns.  The main statement is that a crowd abides by
its accord whatever the order of the turns.  A process that is short enough has come to its end
after so many turns of its own, whatever the others do.
-/

namespace Backbeat

variable {κ σ ω ε α β : Type}

namespace Process

/-- What one turn of a process leaves: the service, the event if there was one, and what is left of
the process. -/
structure Turn (σ ω ε α : Type) where
  service : σ
  event : Option ω
  rest : Process σ ω ε α

/-- One turn of a process, which does nothing at its end. -/
def turn : Process σ ω ε α → σ → Turn σ ω ε α
  | .ended result, service => ⟨service, none, .ended result⟩
  | .next change event rest, service => ⟨change service, event service, rest service⟩

/-- What is left of a process in two parts when the first has ended. -/
def goOn (go : α → Process σ ω ε β) : Except ε α → Process σ ω ε β
  | .error fault => .ended (.error fault)
  | .ok value => go value

theorem ended_bind (result : Except ε α) (go : α → Process σ ω ε β) :
    (.ended result >>= go) = goOn go result := by
  cases result <;> rfl

theorem turn_atomic (step : σ → Except ε α × σ) (event : Except ε α → Option ω)
    (go : α → Process σ ω ε β) (service : σ) :
    (atomic step event >>= go).turn service =
      ⟨(step service).2, event (step service).1, goOn go (step service).1⟩ :=
  congrArg (Turn.mk _ _) (ended_bind (step service).1 go)

/-- The process comes to its end within so many turns. -/
def EndsWithin : Nat → Process σ ω ε α → Prop
  | _, .ended _ => True
  | 0, .next .. => False
  | bound + 1, .next _ _ rest => ∀ service, EndsWithin bound (rest service)

theorem EndsWithin.ended (bound : Nat) (result : Except ε α) :
    (.ended result : Process σ ω ε α).EndsWithin bound := by
  cases bound <;> trivial

theorem EndsWithin.atomic {bound : Nat} {step : σ → Except ε α × σ}
    {event : Except ε α → Option ω} {go : α → Process σ ω ε β}
    (ends : ∀ value, (go value).EndsWithin bound) :
    (Process.atomic step event >>= go).EndsWithin (bound + 1) := by
  intro service
  show (.ended (step service).1 >>= go).EndsWithin bound
  rw [ended_bind]
  cases (step service).1 with
  | error fault => exact .ended bound _
  | ok value => exact ends value

theorem EndsWithin.turn {bound : Nat} {process : Process σ ω ε α} (ends : process.EndsWithin bound)
    (service : σ) : (process.turn service).rest.EndsWithin (bound - 1) := by
  cases process with
  | ended result => exact .ended _ result
  | next change event rest =>
    cases bound with
    | zero => exact ends.elim
    | succ bound => exact ends service

end Process

namespace Crowd

variable [DecidableEq κ] {crowd : Crowd κ σ ω ε α}

/-- A turn of a caller is a turn of its process, and of no other. -/
theorem step_eq (crowd : Crowd κ σ ω ε α) (caller : κ) :
    crowd.step caller =
      { service := ((crowd.processes caller).turn crowd.service).service
        processes := fun other =>
          if other = caller then ((crowd.processes caller).turn crowd.service).rest
          else crowd.processes other
        log := crowd.log ++
          ((crowd.processes caller).turn crowd.service).event.toList.map (caller, ·) } := by
  rw [step]
  split
  · next result ended =>
    have same : (fun other => if other = caller then .ended result else crowd.processes other) =
        crowd.processes := by
      funext other
      split
      · next own => rw [own, ended]
      · rfl
    simp [ended, Process.turn, same]
  · next going => rw [going, Process.turn]

theorem run_append (early late : List κ) (crowd : Crowd κ σ ω ε α) :
    crowd.run (early ++ late) = (crowd.run early).run late :=
  List.foldl_append

theorem endsWithin_run {bound : Nat} {caller : κ} (turns : List κ)
    (ends : (crowd.processes caller).EndsWithin bound) :
    ((crowd.run turns).processes caller).EndsWithin (bound - turns.count caller) := by
  induction turns generalizing crowd bound with
  | nil => exact ends
  | cons first rest ih =>
    show (((crowd.step first).run rest).processes caller).EndsWithin _
    by_cases own : first = caller
    · subst own
      have left : ((crowd.step first).processes first).EndsWithin (bound - 1) := by
        rw [step_eq]
        simpa using ends.turn crowd.service
      rw [List.count_cons_self, Nat.add_comm, Nat.sub_add_eq]
      exact ih left
    · have left : ((crowd.step first).processes caller).EndsWithin bound := by
        rw [step_eq]
        simpa [Ne.symm own] using ends
      rw [List.count_cons_of_ne own]
      exact ih left

/-- Whoever has had as many turns as its process may take has come to its end. -/
theorem ended_of_turns {bound : Nat} {caller : κ} {turns : List κ}
    (ends : (crowd.processes caller).EndsWithin bound) (enough : bound ≤ turns.count caller) :
    ∃ result, (crowd.run turns).resultOf? caller = some result := by
  have left := endsWithin_run turns ends
  rw [Nat.sub_eq_zero_of_le enough] at left
  cases last : (crowd.run turns).processes caller with
  | ended result => exact ⟨result, by rw [resultOf?, last]⟩
  | next change event rest =>
    rw [last] at left
    exact left.elim

end Crowd

/-- What callers who work on the same part of a service may rely on. -/
structure Accord (κ σ ω ε α : Type) where
  /-- What the service has to do with the events so far. -/
  holds : σ → List (κ × ω) → Prop
  /-- The service has only gained. -/
  grows : σ → σ → Prop
  /-- How far a caller can be. -/
  stage : κ → σ → Process σ ω ε α → Prop
  grows_refl : ∀ service, grows service service
  grows_trans : ∀ {first second third}, grows first second → grows second third → grows first third
  stage_of_grows : ∀ {caller service after process},
    grows service after → stage caller service process → stage caller after process
  turn : ∀ {caller service log process}, holds service log → stage caller service process →
    holds (process.turn service).service
        (log ++ (process.turn service).event.toList.map (caller, ·)) ∧
      grows service (process.turn service).service ∧
      stage caller (process.turn service).service (process.turn service).rest

namespace Crowd

variable [DecidableEq κ] {crowd : Crowd κ σ ω ε α}

/-- Everyone in a crowd is as far as the accord has it. -/
structure Abides (crowd : Crowd κ σ ω ε α) (accord : Accord κ σ ω ε α) : Prop where
  holds : accord.holds crowd.service crowd.log
  stage : ∀ caller, accord.stage caller crowd.service (crowd.processes caller)

namespace Abides

variable {accord : Accord κ σ ω ε α}

theorem grows_step (abides : crowd.Abides accord) (caller : κ) :
    accord.grows crowd.service (crowd.step caller).service := by
  rw [step_eq]
  exact (accord.turn abides.holds (abides.stage caller)).2.1

/-- Whoever's turn it is, a crowd abides by its accord. -/
theorem step (abides : crowd.Abides accord) (caller : κ) : (crowd.step caller).Abides accord where
  holds := by
    rw [step_eq]
    exact (accord.turn abides.holds (abides.stage caller)).1
  stage := by
    intro other
    have grown := abides.grows_step caller
    rw [step_eq] at grown ⊢
    by_cases own : other = caller
    · subst own
      simpa using (accord.turn abides.holds (abides.stage other)).2.2
    · simpa [own] using accord.stage_of_grows grown (abides.stage other)

/-- Whatever the order of the turns, a crowd abides by its accord. -/
theorem run (abides : crowd.Abides accord) (turns : List κ) : (crowd.run turns).Abides accord := by
  induction turns generalizing crowd with
  | nil => exact abides
  | cons caller rest ih => exact ih (abides.step caller)

theorem grows_run (abides : crowd.Abides accord) (turns : List κ) :
    accord.grows crowd.service (crowd.run turns).service := by
  induction turns generalizing crowd with
  | nil => exact accord.grows_refl _
  | cons caller rest ih =>
    exact accord.grows_trans (abides.grows_step caller) (ih (abides.step caller))

omit [DecidableEq κ] in
/-- Who has ended is at a stage that has a result. -/
theorem stage_of_result (abides : crowd.Abides accord) {caller : κ} {result : Except ε α}
    (ended : crowd.resultOf? caller = some result) :
    accord.stage caller crowd.service (.ended result) := by
  have last := abides.stage caller
  rw [resultOf?] at ended
  split at ended
  · next ends =>
    cases ended
    rwa [ends] at last
  · cases ended

end Abides

end Crowd

end Backbeat
