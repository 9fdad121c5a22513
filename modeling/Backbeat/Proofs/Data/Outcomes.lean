import Backbeat.Data.Action

/-!
# How computations end

Three ways to follow a computation step by step.  `FailsOnly` says which errors it can end with,
`Keeps` says that an action never traps and keeps a property of the service, however it ends, and
`Follows` says that an action does what another one does on a service of less detail.  All of them
are closed under the ways in which computations are put together, so that they are shown of a
whole by showing them of its steps.
-/

namespace Backbeat

variable {σ τ ε δ α β : Type}

/-- Every error that a computation can end with has a property. -/
def FailsOnly (property : ε → Prop) (result : Except ε α) : Prop :=
  ∀ error, result = .error error → property error

namespace FailsOnly

variable {property : ε → Prop} {result : Except ε α}

theorem ok (value : α) : FailsOnly property (.ok value : Except ε α) := by
  intro error impossible
  cases impossible

theorem error {fault : ε} (holds : property fault) :
    FailsOnly property (.error fault : Except ε α) := by
  intro error same
  cases same
  exact holds

theorem bind {next : α → Except ε β} (head : FailsOnly property result)
    (tail : ∀ value, FailsOnly property (next value)) : FailsOnly property (result >>= next) := by
  intro error failed
  cases result with
  | error fault =>
    cases failed
    exact head error rfl
  | ok value => exact tail value error failed

theorem mapError {image : δ → Prop} {reword : ε → δ} (fails : FailsOnly property result)
    (carry : ∀ error, property error → image (reword error)) :
    FailsOnly image (result.mapError reword) := by
  intro error failed
  cases result with
  | error fault =>
    cases failed
    exact carry fault (fails fault rfl)
  | ok value => cases failed

end FailsOnly

/-- A computation in two steps succeeds when both steps do. -/
theorem bind_eq_ok_iff {first : Except ε α} {next : α → Except ε β} {value : β} :
    (first >>= next) = .ok value ↔ ∃ middle, first = .ok middle ∧ next middle = .ok value := by
  cases first with
  | error fault => exact ⟨nofun, nofun⟩
  | ok middle =>
    constructor
    · intro second
      exact ⟨middle, rfl, second⟩
    · rintro ⟨_, same, second⟩
      cases same
      exact second

theorem mapError_eq_ok_iff {result : Except ε α} {reword : ε → δ} {value : α} :
    result.mapError reword = .ok value ↔ result = .ok value := by
  cases result with
  | error fault => constructor <;> nofun
  | ok value =>
    constructor
    · rintro ⟨⟩
      rfl
    · rintro ⟨⟩
      rfl

/-- However an action ends, it does not trap, and the service keeps a property. -/
def Keeps (property : σ → Prop) (action : Action σ ε α) : Prop :=
  ∀ service, property service →
    ∃ result after, action.run service = .ok (result, after) ∧ property after

namespace Keeps

variable {property : σ → Prop} {action : Action σ ε α}

theorem pure (value : α) : Keeps property (Pure.pure value : Action σ ε α) :=
  fun _ holds => ⟨_, _, rfl, holds⟩

theorem fail (fault : ε) : Keeps property (Action.fail fault : Action σ ε α) :=
  fun _ holds => ⟨_, _, rfl, holds⟩

theorem look (view : σ → α) : Keeps property (Action.look view : Action σ ε α) :=
  fun _ holds => ⟨_, _, rfl, holds⟩

theorem change {step : σ → σ} (kept : ∀ service, property service → property (step service)) :
    Keeps property (Action.change step : Action σ ε Unit) :=
  fun service holds => ⟨_, _, rfl, kept service holds⟩

theorem answer {step : σ → Except ε α × σ}
    (kept : ∀ service, property service → property (step service).2) :
    Keeps property (Action.answer step) :=
  fun service holds => ⟨_, _, rfl, kept service holds⟩

/-- Two steps keep what each of them keeps. -/
theorem bind {next : α → Action σ ε β} (head : Keeps property action)
    (tail : ∀ value, Keeps property (next value)) : Keeps property (action >>= next) := by
  intro service holds
  rcases head service holds with ⟨result, middle, ran, kept⟩
  cases result with
  | error fault => exact ⟨_, _, Action.run_bind_of_error ran, kept⟩
  | ok value =>
    rcases tail value middle kept with ⟨last, after, continued, held⟩
    exact ⟨last, after, (Action.run_bind_of_ok ran).trans continued, held⟩

theorem attempt (kept : Keeps property action) :
    Keeps property (action.attempt : Action σ δ (Except ε α)) := by
  intro service holds
  rcases kept service holds with ⟨result, after, ran, held⟩
  exact ⟨_, _, Action.run_attempt ran, held⟩

theorem mapError (reword : ε → δ) (kept : Keeps property action) :
    Keeps property (action.mapError reword) := by
  intro service holds
  rcases kept service holds with ⟨result, after, ran, held⟩
  exact ⟨_, _, Action.run_mapError reword ran, held⟩

/-- What is done to a part keeps a property of the whole that the part can be put back into. -/
theorem onPart {whole : τ → Prop} {part : τ → σ} {replace : σ → τ → τ}
    (kept : Keeps property action) (enter : ∀ service, whole service → property (part service))
    (leave : ∀ service left, whole service → property left → whole (replace left service)) :
    Keeps whole (Action.onPart part replace action) := by
  intro service holds
  rcases kept (part service) (enter service holds) with ⟨result, after, ran, held⟩
  exact ⟨_, _, Action.run_onPart ran, leave service after holds held⟩

end Keeps

/-- Two ends are the same when the one service is seen through a view, and that service is in a good
state. -/
inductive SameEnd (good : σ → Prop) (view : σ → τ) :
    Checked (Except ε α × σ) → Checked (Except ε α × τ) → Prop where
  | trap (trap : Trap) : SameEnd good view (.error trap) (.error trap)
  | ends (result : Except ε α) {after : σ} (held : good after) :
      SameEnd good view (.ok (result, after)) (.ok (result, view after))

/-- Seen through a view of its service, an action does what another one does, as long as the
service is in a good state; and it stays in one. -/
def Follows (good : σ → Prop) (view : σ → τ) (action : Action σ ε α) (plain : Action τ ε α) :
    Prop :=
  ∀ service, good service → SameEnd good view (action.run service) (plain.run (view service))

namespace Follows

variable {good : σ → Prop} {view : σ → τ} {action : Action σ ε α} {plain : Action τ ε α}

theorem pure (value : α) :
    Follows good view (Pure.pure value : Action σ ε α) (Pure.pure value : Action τ ε α) :=
  fun _ holds => .ends (.ok value) holds

theorem fail (fault : ε) :
    Follows good view (Action.fail fault : Action σ ε α) (Action.fail fault : Action τ ε α) :=
  fun _ holds => .ends (.error fault) holds

theorem bind {next : α → Action σ ε β} {plainNext : α → Action τ ε β}
    (head : Follows good view action plain)
    (tail : ∀ value, Follows good view (next value) (plainNext value)) :
    Follows good view (action >>= next) (plain >>= plainNext) := by
  intro service holds
  have step := head service holds
  rw [Action.run_bind, Action.run_bind]
  generalize action.run service = ran at step ⊢
  generalize plain.run (view service) = same at step ⊢
  cases step with
  | trap => exact .trap _
  | @ends result after held =>
    cases result with
    | error fault => exact .ends _ held
    | ok value => exact tail value after held

theorem attempt (follows : Follows good view action plain) :
    Follows good view (action.attempt : Action σ δ (Except ε α)) plain.attempt := by
  intro service holds
  have step := follows service holds
  rw [Action.run_attempt_eq, Action.run_attempt_eq]
  generalize action.run service = ran at step ⊢
  generalize plain.run (view service) = same at step ⊢
  cases step with
  | trap => exact .trap _
  | ends _ held => exact .ends _ held

theorem mapError (reword : ε → δ) (follows : Follows good view action plain) :
    Follows good view (action.mapError reword) (plain.mapError reword) := by
  intro service holds
  have step := follows service holds
  rw [Action.run_mapError_eq, Action.run_mapError_eq]
  generalize action.run service = ran at step ⊢
  generalize plain.run (view service) = same at step ⊢
  cases step with
  | trap => exact .trap _
  | ends _ held => exact .ends _ held

theorem refl (action : Action σ ε α) : Follows (fun _ => True) id action action := by
  intro service _
  show SameEnd _ id (action.run service) (action.run service)
  cases action.run service with
  | error trap => exact .trap trap
  | ok outcome =>
    rcases outcome with ⟨result, after⟩
    exact SameEnd.ends result trivial

/-- What is done to parts of two services follows when it does so on the parts. -/
theorem onPart {σ' τ' : Type} {good' : σ' → Prop} {view' : σ' → τ'} {part : σ' → σ}
    {replace : σ → σ' → σ'} {plainPart : τ' → τ} {plainReplace : τ → τ' → τ'}
    (follows : Follows good view action plain) (enter : ∀ whole, good' whole → good (part whole))
    (leave : ∀ whole left, good' whole → good left → good' (replace left whole))
    (read : ∀ whole, plainPart (view' whole) = view (part whole))
    (write : ∀ whole left, view' (replace left whole) = plainReplace (view left) (view' whole)) :
    Follows good' view' (Action.onPart part replace action)
      (Action.onPart plainPart plainReplace plain) := by
  intro whole holds
  have step := follows (part whole) (enter whole holds)
  rw [Action.run_onPart_eq, Action.run_onPart_eq, read]
  generalize action.run (part whole) = ran at step ⊢
  generalize plain.run (view (part whole)) = same at step ⊢
  cases step with
  | trap => exact .trap _
  | @ends result left held =>
    have same : SameEnd good' view' (.ok (result, replace left whole))
        (.ok (result, view' (replace left whole))) :=
      .ends result (leave whole left holds held)
    rw [write] at same
    exact same

end Follows

end Backbeat
