/-!
# Actions on a service

An action works on a service of state `σ`.  It ends with a value or with an error `ε`, and the
service is left as the action made it in either case.  Arithmetic that leaves its range is a
different matter: it traps, and a trap ends the whole run.
-/

namespace Backbeat

/-- What ends a whole run: arithmetic out of range, a buffer that is too large for any memory, or a
slice with its ends in the wrong order. -/
inductive Trap where
  | addOverflow
  | subtractOverflow
  | multiplyOverflow
  | capacityOverflow
  | sliceOrder (start stop : Nat)
deriving DecidableEq

def Trap.message : Trap → String
  | .addOverflow => "attempt to add with overflow"
  | .subtractOverflow => "attempt to subtract with overflow"
  | .multiplyOverflow => "attempt to multiply with overflow"
  | .capacityOverflow => "capacity overflow"
  | .sliceOrder start stop =>
    s!"range start must not be greater than end: {start} <= {stop}"

/-- A value, or the trap that computing it ran into. -/
abbrev Checked (α : Type) : Type := Except Trap α

/-- An action on a service of state `σ` that may fail with `ε`. -/
def Action (σ ε α : Type) : Type := σ → Checked (Except ε α × σ)

namespace Action

variable {σ τ ε δ α β : Type}

def run (action : Action σ ε α) (service : σ) : Checked (Except ε α × σ) :=
  action service

/-- Go on with the value of `action`; an error or a trap ends both. -/
def andThen (action : Action σ ε α) (next : α → Action σ ε β) : Action σ ε β := fun service =>
  match action service with
  | .error trap => .error trap
  | .ok (.error fault, after) => .ok (.error fault, after)
  | .ok (.ok value, after) => next value after

instance : Monad (Action σ ε) where
  pure value := fun service => .ok (.ok value, service)
  bind := andThen

def fail (fault : ε) : Action σ ε α := fun service =>
  .ok (.error fault, service)

def look (view : σ → α) : Action σ ε α := fun service =>
  .ok (.ok (view service), service)

def change (step : σ → σ) : Action σ ε Unit := fun service =>
  .ok (.ok (), step service)

def answer (step : σ → Except ε α × σ) : Action σ ε α := fun service =>
  .ok (step service)

def ofExcept (result : Except ε α) : Action σ ε α := fun service =>
  .ok (result, service)

def ofChecked (computation : Checked α) : Action σ ε α := fun service =>
  match computation with
  | .error trap => .error trap
  | .ok value => .ok (.ok value, service)

/-- The result of an action as a value; only a trap goes on. -/
def attempt (action : Action σ ε α) : Action σ δ (Except ε α) := fun service =>
  match action service with
  | .error trap => .error trap
  | .ok (result, after) => .ok (.ok result, after)

/-- The action for what it does to the service, however it ends. -/
def regardless (action : Action σ ε α) : Action σ δ Unit := fun service =>
  match action service with
  | .error trap => .error trap
  | .ok (_, after) => .ok (.ok (), after)

/-- The same action with its errors put in other words. -/
def mapError (reword : ε → δ) (action : Action σ ε α) : Action σ δ α := fun service =>
  match action service with
  | .error trap => .error trap
  | .ok (result, after) => .ok (result.mapError reword, after)

/-- An action on one part of a larger service. -/
def onPart (part : σ → τ) (replace : τ → σ → σ) (action : Action τ ε α) : Action σ ε α :=
  fun service =>
    match action (part service) with
    | .error trap => .error trap
    | .ok (result, after) => .ok (result, replace after service)

/-- Do something with each of a list, one after the other. -/
def each (step : α → Action σ ε β) : List α → Action σ ε (List β)
  | [] => pure []
  | value :: later => do
    let result ← step value
    let results ← each step later
    return result :: results

theorem run_bind (action : Action σ ε α) (next : α → Action σ ε β) (service : σ) :
    (action >>= next).run service =
      match action.run service with
      | .error trap => .error trap
      | .ok (.error fault, after) => .ok (.error fault, after)
      | .ok (.ok value, after) => (next value).run after := rfl

/-! ## Running one step at a time -/

section Running

variable {action : Action σ ε α} {next : α → Action σ ε β} {service after : σ}

theorem run_bind_of_ok {value : α} (ran : action.run service = .ok (.ok value, after)) :
    (action >>= next).run service = (next value).run after := by
  rw [run_bind, ran]

theorem run_bind_of_error {fault : ε} (ran : action.run service = .ok (.error fault, after)) :
    (action >>= next).run service = .ok (.error fault, after) := by
  rw [run_bind, ran]

@[simp]
theorem run_look (view : σ → α) (service : σ) :
    (look view : Action σ ε α).run service = .ok (.ok (view service), service) := rfl

@[simp]
theorem run_change (step : σ → σ) (service : σ) :
    (change step : Action σ ε Unit).run service = .ok (.ok (), step service) := rfl

theorem run_bind_ofExcept_of_ok {result : Except ε α} {value : α} (succeeded : result = .ok value) :
    (ofExcept result >>= next).run service = (next value).run service := by
  subst succeeded
  rfl

theorem run_bind_ofExcept_of_error {result : Except ε α} {fault : ε}
    (failed : result = .error fault) :
    (ofExcept result >>= next).run service = .ok (.error fault, service) := by
  subst failed
  rfl

theorem run_bind_ofChecked_of_ok {computation : Checked α} {value : α}
    (computed : computation = .ok value) :
    (ofChecked computation >>= next).run service = (next value).run service := by
  subst computed
  rfl

theorem run_bind_of_trap {trap : Trap} (trapped : action.run service = .error trap) :
    (action >>= next).run service = .error trap := by
  rw [run_bind, trapped]

theorem run_bind_ofChecked_of_trap {computation : Checked α} {trap : Trap}
    (trapped : computation = .error trap) :
    (ofChecked computation >>= next).run service = .error trap := by
  subst trapped
  rfl

theorem run_attempt_eq (action : Action σ ε α) (service : σ) :
    (attempt action : Action σ δ (Except ε α)).run service =
      match action.run service with
      | .error trap => .error trap
      | .ok (result, after) => .ok (.ok result, after) := rfl

theorem run_attempt {result : Except ε α} (ran : action.run service = .ok (result, after)) :
    (attempt action : Action σ δ (Except ε α)).run service = .ok (.ok result, after) := by
  rw [run_attempt_eq, ran]

theorem run_regardless_eq (action : Action σ ε α) (service : σ) :
    (regardless action : Action σ δ Unit).run service =
      match action.run service with
      | .error trap => .error trap
      | .ok (_, after) => .ok (.ok (), after) := rfl

theorem run_regardless {result : Except ε α} (ran : action.run service = .ok (result, after)) :
    (regardless action : Action σ δ Unit).run service = .ok (.ok (), after) := by
  rw [run_regardless_eq, ran]

theorem run_mapError_eq (reword : ε → δ) (action : Action σ ε α) (service : σ) :
    (mapError reword action).run service =
      match action.run service with
      | .error trap => .error trap
      | .ok (result, after) => .ok (result.mapError reword, after) := rfl

theorem run_mapError {result : Except ε α} (reword : ε → δ)
    (ran : action.run service = .ok (result, after)) :
    (mapError reword action).run service = .ok (result.mapError reword, after) := by
  rw [run_mapError_eq, ran]

theorem run_onPart_eq (part : σ → τ) (replace : τ → σ → σ) (action : Action τ ε α) (service : σ) :
    (onPart part replace action).run service =
      match action.run (part service) with
      | .error trap => .error trap
      | .ok (result, after) => .ok (result, replace after service) := rfl

theorem run_onPart {part : σ → τ} {replace : τ → σ → σ} {partAction : Action τ ε α} {left : τ}
    {result : Except ε α} (ran : partAction.run (part service) = .ok (result, left)) :
    (onPart part replace partAction).run service = .ok (result, replace left service) := by
  rw [run_onPart_eq, ran]

end Running

end Action

end Backbeat
