import Backbeat.Data.Process

/-!
# Crowds

In a crowd, several callers work on one service, each at a process of its own.  They take turns in
any order, one atomic step at a time.  A crowd remembers the events in the order in which they came
about, and whose they were.
-/

namespace Backbeat

/-- Callers at work on a service, with what is left of their processes. -/
structure Crowd (κ σ ω ε α : Type) where
  service : σ
  processes : κ → Process σ ω ε α
  log : List (κ × ω) := []

namespace Crowd

variable {κ σ ω ε α : Type} [DecidableEq κ]

def eventsOf (caller : κ) (log : List (κ × ω)) : List ω :=
  (log.filter (·.1 = caller)).map Prod.snd

def resultOf? (crowd : Crowd κ σ ω ε α) (caller : κ) : Option (Except ε α) :=
  match crowd.processes caller with
  | .ended result => some result
  | .next .. => none

/-- It is the turn of a caller: unless it has ended, it makes its next step. -/
def step (crowd : Crowd κ σ ω ε α) (caller : κ) : Crowd κ σ ω ε α :=
  match crowd.processes caller with
  | .ended _ => crowd
  | .next change event rest =>
    { service := change crowd.service
      processes := fun other => if other = caller then rest crowd.service else crowd.processes other
      log := crowd.log ++ (event crowd.service).toList.map (caller, ·) }

def run (turns : List κ) (crowd : Crowd κ σ ω ε α) : Crowd κ σ ω ε α :=
  turns.foldl step crowd

end Crowd

end Backbeat
