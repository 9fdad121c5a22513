import Backbeat.Data.Action

/-!
# Actions that agree

Two actions agree on related services when they end alike: with the same result or the same trap,
and with services that are related again.  Agreement is closed under the ways in which actions are
put together, so that whole programs agree when their steps do.
-/

namespace Backbeat

variable {σ τ ε δ α β : Type}

/-- Two ends are alike when they are the same trap, or the same result on related services. -/
inductive AlikeEnd (related : σ → τ → Prop) :
    Checked (Except ε α × σ) → Checked (Except ε α × τ) → Prop where
  | trap (trap : Trap) : AlikeEnd related (.error trap) (.error trap)
  | ends (result : Except ε α) {after : σ} {other : τ} (held : related after other) :
      AlikeEnd related (.ok (result, after)) (.ok (result, other))

/-- On related services, two actions end alike. -/
def Agrees (related : σ → τ → Prop) (left : Action σ ε α) (right : Action τ ε α) : Prop :=
  ∀ service other, related service other → AlikeEnd related (left.run service) (right.run other)

namespace Agrees

variable {related : σ → τ → Prop} {left : Action σ ε α} {right : Action τ ε α}

theorem pure (value : α) :
    Agrees related (Pure.pure value : Action σ ε α) (Pure.pure value : Action τ ε α) :=
  fun _ _ held => .ends (.ok value) held

theorem fail (fault : ε) :
    Agrees related (Action.fail fault : Action σ ε α) (Action.fail fault : Action τ ε α) :=
  fun _ _ held => .ends (.error fault) held

theorem ofExcept (result : Except ε α) :
    Agrees related (Action.ofExcept result : Action σ ε α) (Action.ofExcept result) :=
  fun _ _ held => .ends result held

theorem ofChecked (computation : Checked α) :
    Agrees related (Action.ofChecked computation : Action σ ε α)
      (Action.ofChecked computation) := by
  intro service other held
  cases computation with
  | error trap => exact .trap trap
  | ok value => exact .ends (.ok value) held

theorem look {view : σ → α} {otherView : τ → α}
    (same : ∀ service other, related service other → view service = otherView other) :
    Agrees related (Action.look view : Action σ ε α) (Action.look otherView : Action τ ε α) := by
  intro service other held
  rw [Action.run_look, Action.run_look, same service other held]
  exact .ends _ held

theorem answer {step : σ → Except ε α × σ} {otherStep : τ → Except ε α × τ}
    (same : ∀ service other, related service other →
      (step service).1 = (otherStep other).1 ∧ related (step service).2 (otherStep other).2) :
    Agrees related (Action.answer step) (Action.answer otherStep) := by
  intro service other held
  obtain ⟨answered, kept⟩ := same service other held
  show AlikeEnd related (.ok ((step service).1, (step service).2))
    (.ok ((otherStep other).1, (otherStep other).2))
  rw [answered]
  exact .ends _ kept

theorem bind {next : α → Action σ ε β} {otherNext : α → Action τ ε β}
    (head : Agrees related left right)
    (tail : ∀ value, Agrees related (next value) (otherNext value)) :
    Agrees related (left >>= next) (right >>= otherNext) := by
  intro service other held
  have first := head service other held
  rw [Action.run_bind, Action.run_bind]
  generalize left.run service = ran at first ⊢
  generalize right.run other = otherRan at first ⊢
  cases first with
  | trap => exact .trap _
  | ends result kept =>
    cases result with
    | error fault => exact .ends _ kept
    | ok value => exact tail value _ _ kept

/-- What is done with each of a list agrees if it does so with any one. -/
theorem each {step : β → Action σ ε α} {otherStep : β → Action τ ε α}
    (agrees : ∀ value, Agrees related (step value) (otherStep value)) (values : List β) :
    Agrees related (Action.each step values) (Action.each otherStep values) := by
  induction values with
  | nil => exact .pure []
  | cons value later ih => exact (agrees value).bind fun _ => ih.bind fun _ => .pure _

theorem attempt (agrees : Agrees related left right) :
    Agrees related (left.attempt : Action σ δ _) (right.attempt : Action τ δ _) := by
  intro service other held
  have first := agrees service other held
  rw [Action.run_attempt_eq, Action.run_attempt_eq]
  generalize left.run service = ran at first ⊢
  generalize right.run other = otherRan at first ⊢
  cases first with
  | trap => exact .trap _
  | ends _ kept => exact .ends _ kept

theorem mapError (reword : ε → δ) (agrees : Agrees related left right) :
    Agrees related (left.mapError reword) (right.mapError reword) := by
  intro service other held
  have first := agrees service other held
  rw [Action.run_mapError_eq, Action.run_mapError_eq]
  generalize left.run service = ran at first ⊢
  generalize right.run other = otherRan at first ⊢
  cases first with
  | trap => exact .trap _
  | ends _ kept => exact .ends _ kept

theorem regardless (agrees : Agrees related left right) :
    Agrees related (left.regardless : Action σ δ Unit) (right.regardless : Action τ δ Unit) := by
  intro service other held
  have first := agrees service other held
  rw [Action.run_regardless_eq, Action.run_regardless_eq]
  generalize left.run service = ran at first ⊢
  generalize right.run other = otherRan at first ⊢
  cases first with
  | trap => exact .trap _
  | ends _ kept => exact .ends _ kept

/-- An action that agrees with one that ends ends likewise. -/
theorem run_ok (agrees : Agrees related left right) {service after : σ} {other : τ}
    {result : Except ε α} (held : related service other)
    (ran : left.run service = .ok (result, after)) :
    ∃ otherAfter, right.run other = .ok (result, otherAfter) ∧ related after otherAfter := by
  have ends := agrees service other held
  rw [ran] at ends
  generalize right.run other = otherRan at ends ⊢
  cases ends with
  | ends _ kept => exact ⟨_, rfl, kept⟩

/-- What actions that agree end with is the same. -/
theorem run_fst (agrees : Agrees related left right) {service : σ} {other : τ}
    (held : related service other) :
    (left.run service).map Prod.fst = (right.run other).map Prod.fst := by
  have ends := agrees service other held
  generalize left.run service = ran at ends ⊢
  generalize right.run other = otherRan at ends ⊢
  cases ends <;> rfl

end Agrees

end Backbeat
