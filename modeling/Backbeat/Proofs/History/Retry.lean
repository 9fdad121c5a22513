import Backbeat.Rehearsal.Attempts

/-!
# How often an attempt is made

Attempts at a change are made in the order of their numbers, each on the service as the one before
it left it, as long as they end in conflict.  The first one that does not decides how the change
ends, and none is made after it; if all that a budget allows end in conflict, the change is given
up.

The main statement is that the attempts are made exactly so, whatever becomes of each of them: which
numbers they are told is listed beside the service.
-/

namespace Backbeat

open Rehearsal.Attempted (listing run_listing run_listing_of_trap)

variable {σ : Type} {attempt : Nat → Action σ FeedError Attempt} {budget count made : Nat}
  {before after : σ} {trap : Trap}

/-- The first attempts, `count` of them, all end in conflict. -/
inductive Contended (attempt : Nat → Action σ FeedError Attempt) (before : σ) : Nat → σ → Prop where
  | start : Contended attempt before 0 before
  | conflict {count : Nat} {between after : σ} (earlier : Contended attempt before count between)
      (ran : (attempt (count + 1)).run between = .ok (.ok .conflict, after)) :
      Contended attempt before (count + 1) after

/-- How attempts at a change end, of which a budget may be made, and how many are made. -/
inductive RetryEnds (attempt : Nat → Action σ FeedError Attempt) (budget : Nat) (before : σ) :
    Nat → Except FeedError Unit → σ → Prop where
  /-- The first attempt that does not end in conflict commits. -/
  | committed {count : Nat} {between after : σ} (within : count < budget)
      (contended : Contended attempt before count between)
      (ran : (attempt (count + 1)).run between = .ok (.ok .committed, after)) :
      RetryEnds attempt budget before (count + 1) (.ok ()) after
  /-- The first attempt that does not end in conflict fails. -/
  | failed {count : Nat} {between after : σ} {fault : FeedError} (within : count < budget)
      (contended : Contended attempt before count between)
      (ran : (attempt (count + 1)).run between = .ok (.error fault, after)) :
      RetryEnds attempt budget before (count + 1) (.error fault) after
  /-- All attempts end in conflict. -/
  | exhausted {after : σ} (contended : Contended attempt before budget after) :
      RetryEnds attempt budget before budget (.error (.retriesExceeded budget)) after

/-- An attempt traps, and the ones before it have all ended in conflict. -/
def RetryTraps (attempt : Nat → Action σ FeedError Attempt) (budget : Nat) (before : σ)
    (trap : Trap) : Prop :=
  ∃ count < budget, ∃ between, Contended attempt before count between ∧
    (attempt (count + 1)).run between = .error trap

/-- One more attempt, with what is made of its outcome. -/
theorem run_retryLeft_of_lt (within : count < budget) (service : σ) :
    (retryLeft budget attempt (budget - count)).run service =
      match (attempt (count + 1)).run service with
      | .error trap => .error trap
      | .ok (.error fault, after) => .ok (.error fault, after)
      | .ok (.ok .committed, after) => .ok (.ok (), after)
      | .ok (.ok .conflict, after) =>
        (retryLeft budget attempt (budget - (count + 1))).run after := by
  -- Attempts are counted down from the budget, but numbered from one on.
  have left : budget - count = budget - (count + 1) + 1 := by omega
  have number : budget - (budget - (count + 1)) = count + 1 := by omega
  rw [left, retryLeft, number, Action.run_bind]
  cases (attempt (count + 1)).run service with
  | error trap => rfl
  | ok ended =>
    obtain ⟨outcome, after⟩ := ended
    cases outcome with
    | error fault => rfl
    | ok outcome => cases outcome <;> rfl

/-- After so many conflicts it remains to make the attempts that are left. -/
theorem Contended.run_retry (contended : Contended attempt before count after)
    (within : count ≤ budget) :
    (retry budget attempt).run before = (retryLeft budget attempt (budget - count)).run after := by
  induction contended with
  | start => rfl
  | conflict earlier ran ih => rw [ih (Nat.le_of_lt within), run_retryLeft_of_lt within, ran]

theorem RetryEnds.run_retry {result : Except FeedError Unit}
    (ends : RetryEnds attempt budget before made result after) :
    (retry budget attempt).run before = .ok (result, after) := by
  cases ends with
  | committed within contended ran =>
    rw [contended.run_retry (Nat.le_of_lt within), run_retryLeft_of_lt within, ran]
  | failed within contended ran =>
    rw [contended.run_retry (Nat.le_of_lt within), run_retryLeft_of_lt within, ran]
  | exhausted contended =>
    rw [contended.run_retry (Nat.le_refl budget), Nat.sub_self]
    rfl

theorem RetryTraps.run_retry (traps : RetryTraps attempt budget before trap) :
    (retry budget attempt).run before = .error trap := by
  obtain ⟨count, within, between, contended, trapped⟩ := traps
  rw [contended.run_retry (Nat.le_of_lt within), run_retryLeft_of_lt within, trapped]

/-! ## There is no other way to end -/

/-- Attempts go on to end in conflict until one of them does not. -/
theorem contended_or_decided (attempt : Nat → Action σ FeedError Attempt) (before : σ)
    (budget : Nat) :
    (∃ after, Contended attempt before budget after) ∨
      ∃ count < budget, ∃ between, Contended attempt before count between ∧
        ∀ after, (attempt (count + 1)).run between ≠ .ok (.ok .conflict, after) := by
  induction budget with
  | zero => exact Or.inl ⟨before, .start⟩
  | succ budget ih =>
    rcases ih with ⟨between, contended⟩ | ⟨count, within, decided⟩
    · by_cases conflicts : ∃ after, (attempt (budget + 1)).run between = .ok (.ok .conflict, after)
      · obtain ⟨after, ran⟩ := conflicts
        exact Or.inl ⟨after, .conflict contended ran⟩
      · exact Or.inr ⟨budget, Nat.lt_succ_self budget, between, contended, not_exists.mp conflicts⟩
    · exact Or.inr ⟨count, Nat.lt_succ_of_lt within, decided⟩

theorem retryEnds_or_traps (attempt : Nat → Action σ FeedError Attempt) (budget : Nat)
    (before : σ) :
    (∃ made result after, RetryEnds attempt budget before made result after) ∨
      ∃ trap, RetryTraps attempt budget before trap := by
  rcases contended_or_decided attempt before budget with
    ⟨after, contended⟩ | ⟨count, within, between, contended, decided⟩
  · exact Or.inl ⟨_, _, _, .exhausted contended⟩
  · cases ran : (attempt (count + 1)).run between with
    | error trap => exact Or.inr ⟨trap, count, within, between, contended, ran⟩
    | ok ended =>
      obtain ⟨outcome, after⟩ := ended
      match outcome with
      | .error fault => exact Or.inl ⟨_, _, _, .failed within contended ran⟩
      | .ok .committed => exact Or.inl ⟨_, _, _, .committed within contended ran⟩
      | .ok .conflict => exact absurd ran (decided after)

/-! ## The numbers that attempts are told -/

/-- One more attempt takes the next number. -/
theorem run_listing_range {outcome : Except FeedError Attempt}
    (ran : (attempt (count + 1)).run before = .ok (outcome, after)) :
    (listing attempt (count + 1)).run ⟨before, List.range' 1 count⟩ =
      .ok (outcome, ⟨after, List.range' 1 (count + 1)⟩) := by
  rw [run_listing ran, List.range'_1_concat, Nat.add_comm 1 count]

theorem Contended.listed (contended : Contended attempt before count after) :
    Contended (listing attempt) ⟨before, []⟩ count ⟨after, List.range' 1 count⟩ := by
  induction contended with
  | start => exact .start
  | conflict earlier ran ih => exact .conflict ih (run_listing_range ran)

theorem RetryEnds.listed {result : Except FeedError Unit}
    (ends : RetryEnds attempt budget before made result after) :
    RetryEnds (listing attempt) budget ⟨before, []⟩ made result ⟨after, List.range' 1 made⟩ := by
  cases ends with
  | committed within contended ran =>
    exact .committed within contended.listed (run_listing_range ran)
  | failed within contended ran =>
    exact .failed within contended.listed (run_listing_range ran)
  | exhausted contended => exact .exhausted contended.listed

theorem RetryTraps.listed (traps : RetryTraps attempt budget before trap) :
    RetryTraps (listing attempt) budget ⟨before, []⟩ trap := by
  obtain ⟨count, within, between, contended, trapped⟩ := traps
  exact ⟨count, within, _, contended.listed, run_listing_of_trap trapped _⟩

/-- Whatever becomes of each attempt, a change ends as the first attempt of the budget that does not
end in conflict, or is given up where there is none; and the attempts that have been made by then
are told the numbers from one on, each once and in order.  Only an attempt can trap. -/
theorem retry_attempts_exactly (attempt : Nat → Action σ FeedError Attempt) (budget : Nat)
    (before : σ) :
    (∀ result after numbers,
      (retry budget (listing attempt)).run ⟨before, []⟩ = .ok (result, ⟨after, numbers⟩) ↔
        ∃ made, RetryEnds attempt budget before made result after ∧
          numbers = List.range' 1 made) ∧
    (∀ trap, (retry budget (listing attempt)).run ⟨before, []⟩ = .error trap ↔
      RetryTraps attempt budget before trap) ∧
    (retry budget attempt).run before =
      ((retry budget (listing attempt)).run ⟨before, []⟩).map fun ended =>
        (ended.1, ended.2.kept) := by
  -- A run comes to one result, and to which one is settled by how the attempts end.
  rcases retryEnds_or_traps attempt budget before with
    ⟨made, result, after, ends⟩ | ⟨trap, traps⟩
  · have ran := ends.listed.run_retry
    rw [ran, ends.run_retry]
    refine ⟨?_, ?_, rfl⟩
    · intro other last numbers
      constructor
      · rintro ⟨⟩
        exact ⟨made, ends, rfl⟩
      · rintro ⟨again, otherwise, rfl⟩
        exact ran.symm.trans otherwise.listed.run_retry
    · intro trap
      exact ⟨nofun, fun traps => nomatch ran.symm.trans traps.listed.run_retry⟩
  · have ran := traps.listed.run_retry
    rw [ran, traps.run_retry]
    refine ⟨?_, ?_, rfl⟩
    · intro result after numbers
      refine ⟨nofun, ?_⟩
      rintro ⟨made, ends, -⟩
      cases ran.symm.trans ends.listed.run_retry
    · intro other
      constructor
      · rintro ⟨⟩
        exact traps
      · intro otherwise
        exact ran.symm.trans otherwise.listed.run_retry

/-- Of seven attempts the third one commits. -/
example :
    (retry 7 (listing fun number => Action.answer fun done : List Nat =>
      (.ok (if number = 3 then .committed else .conflict), done ++ [number]))).run ⟨[], []⟩ =
        .ok (.ok (), ⟨[1, 2, 3], [1, 2, 3]⟩) :=
  rfl

end Backbeat
