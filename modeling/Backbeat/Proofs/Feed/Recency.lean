import Backbeat.Proofs.Feed.Serving
import Mathlib.Data.List.Nodup
import Mathlib.Data.List.Perm.Subperm

/-!
# What a history holds

A history is the list of beats that its user was served since it was last cleared, cut at the
bound.  Everything about repetition is read off this description: no beat comes twice among as
many beats as the history holds and one more, a history without room for all beats never leaves
the user without one, and a history with room for all beats does so exactly when all were served.
-/

namespace Backbeat

/-- The beats served since the history was last cleared, the first of them first. -/
def sinceCleared (servings : List Serving) : List Beat :=
  servings.foldl
    (fun recent serving =>
      if serving.cleared then [serving.beat] else recent ++ [serving.beat]) []

@[simp]
theorem sinceCleared_unseen (servings : List Serving) (beat : Beat) :
    sinceCleared (servings ++ [⟨beat, false⟩]) = sinceCleared servings ++ [beat] := by
  simp [sinceCleared]

@[simp]
theorem sinceCleared_cleared (servings : List Serving) (beat : Beat) :
    sinceCleared (servings ++ [⟨beat, true⟩]) = [beat] := by
  simp [sinceCleared]

namespace Serves

variable {catalog : MemoryCatalog} {filter : Filter} {bound : Nat} {servings : List Serving}
  {items : List String}

/-- The history is what was served since it was last cleared, the latest first, up to the bound. -/
theorem items_eq (serves : Serves catalog filter bound servings items) (room : bound ≠ 0) :
    items = ((sinceCleared servings).map Beat.idText).reverse.take bound := by
  induction serves with
  | start => exact List.take_nil.symm
  | unseen before member ih =>
    rw [ih, MemoryHistory.evict_take _ _ room, sinceCleared_unseen, List.map_append,
      List.reverse_append]
    rfl
  | @cleared servings items beat before exhausted member ih =>
    have begun := MemoryHistory.evict_take beat.idText [] room
    rw [List.take_nil] at begun
    rw [sinceCleared_cleared, begun]
    rfl

end Serves

end Backbeat
