import Backbeat.Data.Action

/-!
# Processes

A process is an action laid open: it consists of atomic steps, and others may get at the service
between them.  A step can be an event, which is something that the process is known for, such as a
change that takes hold.  With all of its steps in a row, a process is an action again.
-/

namespace Backbeat

/-- A computation on a service of state `σ`: either it has ended, or it makes an atomic step and
goes on with what it found the service to be. -/
inductive Process (σ ω ε α : Type) where
  | ended (result : Except ε α)
  | next (change : σ → σ) (event : σ → Option ω) (rest : σ → Process σ ω ε α)

namespace Process

variable {σ ω ε δ α β : Type}

def andThen : Process σ ω ε α → (α → Process σ ω ε β) → Process σ ω ε β
  | .ended (.error fault), _ => .ended (.error fault)
  | .ended (.ok value), go => go value
  | .next change event rest, go => .next change event fun service => (rest service).andThen go

instance : Monad (Process σ ω ε) where
  pure value := .ended (.ok value)
  bind := andThen

def fail (fault : ε) : Process σ ω ε α :=
  .ended (.error fault)

/-- One atomic step, whose result tells whether it is an event. -/
def atomic (step : σ → Except ε α × σ) (event : Except ε α → Option ω) : Process σ ω ε α :=
  .next (fun service => (step service).2) (fun service => event (step service).1)
    fun service => .ended (step service).1

def look (view : σ → α) : Process σ ω ε α :=
  atomic (fun service => (.ok (view service), service)) fun _ => none

def attempt : Process σ ω ε α → Process σ ω δ (Except ε α)
  | .ended result => .ended (.ok result)
  | .next change event rest => .next change event fun service => (rest service).attempt

/-- The action of making all steps in a row. -/
def whole : Process σ ω ε α → Action σ ε α
  | .ended result => .ofExcept result
  | .next change _ rest => fun service => (rest service).whole (change service)

@[simp]
theorem whole_atomic (step : σ → Except ε α × σ) (event : Except ε α → Option ω) :
    (atomic step event).whole = Action.answer step := rfl

@[simp]
theorem whole_bind (process : Process σ ω ε α) (go : α → Process σ ω ε β) :
    (process >>= go).whole = process.whole >>= fun value => (go value).whole := by
  induction process with
  | ended result =>
    cases result with
    | error fault => rfl
    | ok value => rfl
  | next change event rest ih =>
    funext service
    exact congrFun (ih service) (change service)

@[simp]
theorem whole_attempt (process : Process σ ω ε α) :
    (process.attempt : Process σ ω δ (Except ε α)).whole = process.whole.attempt := by
  induction process with
  | ended result => rfl
  | next change event rest ih =>
    funext service
    exact congrFun (ih service) (change service)

end Process

end Backbeat
