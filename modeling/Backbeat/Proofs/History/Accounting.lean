import Backbeat.History.Request
import Backbeat.Proofs.Data.Discipline

/-!
# Every change is accounted for

What it means that no change of a history gets lost in a crowd of callers: each history is the
outcome of the changes that took hold, in their order, and each caller has made exactly the changes
of its request if that was granted, and none otherwise.

The main statement is that this follows, for every keeper of histories, from what the keeper does
in one attempt at a push, in reading and in clearing.
-/

namespace Backbeat

namespace HistoryChange

variable {key : String → String}

/-- The changes of one user's history are the only ones that matter for it. -/
theorem foldl_appliedTo (distinct : ∀ left right, key left = key right → left = right)
    (changes : List HistoryChange) (histories : String → List String) (user : String) :
    changes.foldl (appliedTo key) histories (key user) =
      (changes.filter (·.user = user)).foldl applied (histories (key user)) := by
  induction changes generalizing histories with
  | nil => rfl
  | cons change rest ih =>
    rw [List.foldl_cons, ih]
    by_cases own : change.user = user
    · rw [List.filter_cons_of_pos (by simpa using own), List.foldl_cons, appliedTo, own, if_pos rfl]
    · have elsewhere : key change.user ≠ key user := fun same => own (distinct _ _ same)
      rw [List.filter_cons_of_neg (by simpa using own), appliedTo, if_neg elsewhere]

theorem foldl_appliedTo_of_ne {changes : List HistoryChange} {place : String}
    (elsewhere : ∀ change ∈ changes, key change.user ≠ place)
    (histories : String → List String) :
    changes.foldl (appliedTo key) histories place = histories place := by
  induction changes generalizing histories with
  | nil => rfl
  | cons change rest ih =>
    rw [List.foldl_cons, ih fun other later => elsewhere other (List.mem_cons_of_mem change later),
      appliedTo, if_neg (elsewhere change List.mem_cons_self)]

/-- A history within a bound stays so under changes that keep to it. -/
theorem length_foldl_applied_le {most : Nat} {changes : List HistoryChange} {items : List String}
    (short : items.length ≤ most)
    (bounded : ∀ user item bound, .push user item bound ∈ changes → 1 ≤ bound ∧ bound ≤ most) :
    (changes.foldl applied items).length ≤ most := by
  induction changes generalizing items with
  | nil => exact short
  | cons change rest ih =>
    refine ih ?_ fun user item bound later => bounded user item bound (List.mem_cons_of_mem _ later)
    cases change with
    | clear user => exact Nat.zero_le most
    | push user item bound =>
      obtain ⟨room, within⟩ := bounded user item bound List.mem_cons_self
      rw [applied, List.length_cons, List.length_take]
      omega

end HistoryChange

section Accounting

variable {κ σ : Type} [DecidableEq κ]

/-- What a crowd of callers has done to the histories that a service keeps under keys. -/
structure Accounted (key : String → String) (histories : σ → String → List String)
    (requests : κ → HistoryRequest) (start : σ)
    (crowd : Crowd κ σ HistoryChange FeedError HistoryAnswer) : Prop where
  /-- A history is the outcome of the changes that took hold, in their order. -/
  history_eq : ∀ user, histories crowd.service (key user) =
    ((crowd.log.map Prod.snd).filter (·.user = user)).foldl HistoryChange.applied
      (histories start (key user))
  /-- What is under a key that no caller asks for stays as it was. -/
  untouched : ∀ place, (∀ caller, key (requests caller).user ≠ place) →
    histories crowd.service place = histories start place
  granted : ∀ caller answer, crowd.resultOf? caller = some (.ok answer) →
    Crowd.eventsOf caller crowd.log = (requests caller).changes
  refused : ∀ caller error, crowd.resultOf? caller = some (.error error) →
    Crowd.eventsOf caller crowd.log = []
  pending : ∀ caller, crowd.resultOf? caller = none → Crowd.eventsOf caller crowd.log = []
  length_le : ∀ user most, (histories start (key user)).length ≤ most →
    (∀ caller item bound, requests caller = .push user item bound → bound ≤ most) →
    (histories crowd.service (key user)).length ≤ most

/-- The changes `made` are those of a request that is granted, or none. -/
def Fulfils (request : HistoryRequest) (made : List HistoryChange) :
    Except FeedError HistoryAnswer → Prop
  | .ok _ => made = request.changes ∧ request.HasRoom
  | .error _ => made = []

theorem mem_eventsOf {caller : κ} {change : HistoryChange} {log : List (κ × HistoryChange)}
    (listed : (caller, change) ∈ log) : change ∈ Crowd.eventsOf caller log := by
  rw [Crowd.eventsOf, List.mem_map]
  exact ⟨(caller, change), List.mem_filter.mpr ⟨listed, decide_eq_true rfl⟩, rfl⟩

section Orderly

variable {key : String → String} {discipline : Discipline σ (HistoryChange.appliedTo key)}
  {requests : κ → HistoryRequest} {start : σ}
  {crowd : Crowd κ σ HistoryChange FeedError HistoryAnswer} {stakes : κ → discipline.Stake}

/-- Only what a caller asks for takes hold. -/
theorem mem_changes_of_orderly
    (orderly : crowd.Orderly discipline (· = []) (fun caller => Fulfils (requests caller))
      (discipline.view start) stakes) {caller : κ} {change : HistoryChange}
    (listed : (caller, change) ∈ crowd.log) :
    change ∈ (requests caller).changes ∧ (requests caller).HasRoom := by
  have made := mem_eventsOf listed
  cases ended : crowd.resultOf? caller with
  | none =>
    rw [orderly.pending ended] at made
    cases made
  | some result =>
    have promised := orderly.promised ended
    cases result with
    | error error =>
      rw [show Crowd.eventsOf caller crowd.log = [] from promised] at made
      cases made
    | ok answer =>
      rw [promised.1] at made
      exact ⟨made, promised.2⟩

theorem user_eq_of_mem_changes {request : HistoryRequest} {change : HistoryChange}
    (member : change ∈ request.changes) : change.user = request.user := by
  cases request with
  | seen user => cases member
  | push user item bound =>
    cases List.mem_singleton.mp member
    rfl
  | clear user =>
    cases List.mem_singleton.mp member
    rfl

theorem eq_push_of_mem_changes {request : HistoryRequest} {user item : String} {bound : Nat}
    (member : .push user item bound ∈ request.changes) : request = .push user item bound := by
  cases request with
  | seen user => cases member
  | push user item bound =>
    cases List.mem_singleton.mp member
    rfl
  | clear user => cases List.mem_singleton.mp member

/-- In an orderly crowd every change is accounted for. -/
theorem accounted_of_orderly (distinct : ∀ left right, key left = key right → left = right)
    (orderly : crowd.Orderly discipline (· = []) (fun caller => Fulfils (requests caller))
      (discipline.view start) stakes) :
    Accounted key discipline.view requests start crowd where
  history_eq user := by
    rw [orderly.view_eq]
    exact HistoryChange.foldl_appliedTo distinct _ _ user
  untouched place elsewhere := by
    rw [orderly.view_eq]
    refine HistoryChange.foldl_appliedTo_of_ne ?_ _
    intro change member
    obtain ⟨⟨caller, _⟩, listed, rfl⟩ := List.mem_map.mp member
    rw [user_eq_of_mem_changes (mem_changes_of_orderly orderly listed).1]
    exact elsewhere caller
  granted caller answer ended := (orderly.promised ended).1
  refused caller error ended := orderly.promised ended
  pending caller going := orderly.pending going
  length_le user most short bounded := by
    rw [orderly.view_eq, HistoryChange.foldl_appliedTo distinct]
    refine HistoryChange.length_foldl_applied_le short ?_
    intro owner item bound member
    obtain ⟨member, own⟩ := List.mem_filter.mp member
    obtain ⟨⟨caller, _⟩, listed, rfl⟩ := List.mem_map.mp member
    obtain ⟨own_change, room⟩ := mem_changes_of_orderly orderly listed
    have asked := eq_push_of_mem_changes own_change
    rw [asked] at room
    rw [show owner = user from of_decide_eq_true own] at asked
    exact ⟨room, bounded caller item bound asked⟩

end Orderly

/-- How an attempt ends that is to make one change. -/
def AttemptEnds {key : String → String} {discipline : Discipline σ (HistoryChange.appliedTo key)}
    (idle : discipline.Stake) (change : HistoryChange) (made : List HistoryChange)
    (stake : discipline.Stake) (_service : σ) : Except FeedError Attempt → Prop
  | .ok .committed => made = [change]
  | .ok .conflict => made = [] ∧ stake = idle
  | .error _ => made = []

/-- How a call ends that is to make some changes. -/
def CallEnds {α : Type} {key : String → String}
    {discipline : Discipline σ (HistoryChange.appliedTo key)}
    (changes : List HistoryChange) (made : List HistoryChange) (_stake : discipline.Stake)
    (_service : σ) : Except FeedError α → Prop
  | .ok _ => made = changes
  | .error _ => made = []

/-- The steps of a keeper keep to a discipline, if they begin with an idle stake. -/
structure HistorySteps.Lawful {key : String → String} (steps : HistorySteps σ)
    (discipline : Discipline σ (HistoryChange.appliedTo key)) (idle : discipline.Stake) : Prop where
  seen : ∀ user service, discipline.Sound (· = []) (CallEnds []) [] idle service (steps.seen user)
  attempt : ∀ user item bound service, 1 ≤ bound →
    discipline.Sound (· = []) (AttemptEnds idle (.push user item bound)) [] idle service
      (steps.attempt user item bound)
  clear : ∀ user service,
    discipline.Sound (· = []) (CallEnds [.clear user]) [] idle service (steps.clear user)

namespace HistorySteps.Lawful

variable {key : String → String} {steps : HistorySteps σ}
  {discipline : Discipline σ (HistoryChange.appliedTo key)} {idle : discipline.Stake}

/-- Attempts are made until one commits, and the ones before it change nothing. -/
theorem retryLeft (lawful : steps.Lawful discipline idle) (user item : String) {bound : Nat}
    (room : 1 ≤ bound) (service : σ) (budget left : Nat) :
    discipline.Sound (· = []) (CallEnds [.push user item bound]) [] idle service
      (Process.retryLeft budget (fun _ => steps.attempt user item bound) left) := by
  induction left generalizing service with
  | zero => rfl
  | succ left ih =>
    refine (lawful.attempt user item bound service room).bind (fun _ _ _ _ failed => failed) ?_
    intro made stake service outcome ends
    cases outcome with
    | committed => exact ends
    | conflict =>
      obtain ⟨rfl, rfl⟩ := ends
      exact ih service

/-- The process of a request does what it promises. -/
theorem process (lawful : steps.Lawful discipline idle) (budget : Nat) (request : HistoryRequest)
    (service : σ) :
    discipline.Sound (· = []) (fun made _ _ => Fulfils request made) [] idle service
      (steps.process budget request) := by
  cases request with
  | seen user =>
    refine (lawful.seen user service).bind (fun _ _ _ _ failed => failed) ?_
    intro made stake service texts ends
    exact ⟨ends, trivial⟩
  | clear user =>
    refine (lawful.clear user service).bind (fun _ _ _ _ failed => failed) ?_
    intro made stake service _ ends
    exact ⟨ends, trivial⟩
  | push user item bound =>
    rw [HistorySteps.process, Process.checkBound]
    by_cases none : bound = 0
    · rw [if_pos none]
      exact rfl
    · rw [if_neg none]
      have room : 1 ≤ bound := Nat.one_le_iff_ne_zero.mpr none
      refine (lawful.retryLeft user item room service budget budget).bind
        (fun _ _ _ _ failed => failed) ?_
      intro made stake service _ ends
      exact ⟨ends, room⟩

/-- Callers who set out with an idle stake each account for all their changes, in whatever order
they take their turns. -/
theorem accounted_run (lawful : steps.Lawful discipline idle)
    (distinct : ∀ left right, key left = key right → left = right) {start : σ}
    (good : discipline.good start) (held : discipline.held idle start)
    (alone : discipline.apart idle idle) (requests : κ → HistoryRequest) (budgets : κ → Nat)
    (turns : List κ) :
    Accounted key discipline.view requests start (Crowd.run turns
      { service := start
        processes := fun caller => steps.process (budgets caller) (requests caller) }) := by
  have ordered : Crowd.Orderly discipline (· = []) (fun caller => Fulfils (requests caller))
      (discipline.view start)
      { service := start
        processes := fun caller => steps.process (budgets caller) (requests caller) }
      fun _ => idle :=
    { good := good
      view_eq := rfl
      held := fun _ => held
      apart := fun _ _ _ => alone
      sound := fun caller => lawful.process (budgets caller) (requests caller) start }
  obtain ⟨stakes, orderly⟩ := ordered.run turns
  exact accounted_of_orderly distinct orderly

end HistorySteps.Lawful

end Accounting

end Backbeat
