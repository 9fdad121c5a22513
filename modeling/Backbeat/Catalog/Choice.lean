import Backbeat.Catalog.Beat

/-!
# Choices among beats

Where several beats will do, one is chosen.  A choice is any rule that picks a member of every
list that has one; nothing else is promised, so what holds for all choices holds whatever is
picked, by chance or otherwise.
-/

namespace Backbeat

/-- A rule that picks a member of every list that has one. -/
structure Choice where
  pick : List Beat → Option Beat
  mem_of_pick : ∀ {candidates beat}, pick candidates = some beat → beat ∈ candidates
  pick_isSome : ∀ {candidates}, candidates ≠ [] → (pick candidates).isSome = true

namespace Choice

def first : Choice where
  pick := List.head?
  mem_of_pick := List.mem_of_head?
  pick_isSome := by
    intro candidates nonempty
    cases candidates with
    | nil => exact absurd rfl nonempty
    | cons beat rest => rfl

/-- The beat with the smaller identifier, the first of two equal ones. -/
def lesser (left right : Beat) : Beat :=
  if right.id.value < left.id.value then right else left

theorem lesser_eq (left right : Beat) : lesser left right = left ∨ lesser left right = right := by
  unfold lesser
  split <;> simp

theorem foldl_lesser_mem (beat : Beat) (rest : List Beat) :
    rest.foldl lesser beat ∈ beat :: rest := by
  induction rest generalizing beat with
  | nil => simp
  | cons next rest ih =>
    rcases lesser_eq beat next with same | same <;>
      · have := ih (lesser beat next)
        rw [same] at this
        simp only [List.foldl_cons, same]
        grind

def leastId : Choice where
  pick
    | [] => none
    | beat :: rest => some (rest.foldl lesser beat)
  mem_of_pick := by
    intro candidates beat picked
    cases candidates with
    | nil => simp at picked
    | cons first rest =>
      simp only [Option.some.injEq] at picked
      exact picked ▸ foldl_lesser_mem first rest
  pick_isSome := by
    intro candidates nonempty
    cases candidates with
    | nil => exact absurd rfl nonempty
    | cons beat rest => rfl

end Choice

end Backbeat
