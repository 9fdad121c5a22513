import Backbeat.Proofs.Feed.Listing
import Backbeat.Proofs.Feed.Recency
import Backbeat.Rehearsal.Sample

/-!
# The feed does not repeat itself

What a user is served depends on whether the history has room for all beats that the filter
accepts.  If it has not, it is never cleared, and a beat comes again only after as many others as
the history holds.  If it has, the beats are served in rounds: in each round every beat comes
once, and the history is cleared for the first beat of every round but the first.
-/

namespace Backbeat

open Rehearsal

/-! ## Lists in blocks of one length -/

section Blocks

variable {α : Type} {size : Nat} {blocks : List (List α)}

theorem length_flatten_of_forall (sized : ∀ block ∈ blocks, block.length = size) :
    blocks.flatten.length = blocks.length * size := by
  induction blocks with
  | nil => simp
  | cons block later ih =>
    rw [List.flatten_cons, List.length_append, sized block List.mem_cons_self,
      ih fun other member => sized other (List.mem_cons_of_mem block member), List.length_cons,
      Nat.succ_mul, Nat.add_comm]

end Blocks

/-! ## Rounds -/

/-- Where a round other than the first begins. -/
def BeginsRound (size index : Nat) : Prop :=
  ∃ round, 1 ≤ round ∧ index = round * size

/-- Beats served in rounds: those since the history was last cleared are the round that is going
on, and each block before them is a whole round. -/
structure Rounds (matching : List Beat) (servings : List Serving) (blocks : List (List Beat)) :
    Prop where
  beats_eq : servings.map Serving.beat = blocks.flatten ++ sinceCleared servings
  perm : ∀ block ∈ blocks, block.Perm matching
  begun : blocks ≠ [] → sinceCleared servings ≠ []
  cleared_iff : ∀ index serving, servings[index]? = some serving →
    (serving.cleared = true ↔ BeginsRound matching.length index)

namespace Rounds

variable {matching : List Beat} {servings : List Serving} {blocks : List (List Beat)} {beat : Beat}

theorem start (matching : List Beat) : Rounds matching [] [] where
  beats_eq := rfl
  perm := nofun
  begun := nofun
  cleared_iff := nofun

theorem length_eq (rounds : Rounds matching servings blocks) :
    servings.length = blocks.length * matching.length + (sinceCleared servings).length := by
  have lengths := congrArg List.length rounds.beats_eq
  rw [List.length_map, List.length_append,
    length_flatten_of_forall fun block member => (rounds.perm block member).length_eq] at lengths
  exact lengths

/-- A round that is full is one more whole round. -/
theorem perm_concat (rounds : Rounds matching servings blocks)
    (full : (sinceCleared servings).Perm matching) :
    ∀ block ∈ blocks ++ [sinceCleared servings], block.Perm matching := by
  intro block member
  rcases List.mem_append.mp member with earlier | last
  · exact rounds.perm block earlier
  · exact List.mem_singleton.mp last ▸ full

theorem beats_eq_concat (rounds : Rounds matching servings blocks) :
    servings.map Serving.beat = (blocks ++ [sinceCleared servings]).flatten := by
  rw [rounds.beats_eq, List.flatten_append, List.flatten_singleton]

theorem cleared_iff_concat (rounds : Rounds matching servings blocks) {last : Serving}
    (begins : last.cleared = true ↔ BeginsRound matching.length servings.length) :
    ∀ index serving, (servings ++ [last])[index]? = some serving →
      (serving.cleared = true ↔ BeginsRound matching.length index) := by
  intro index serving found
  rcases Nat.lt_trichotomy index servings.length with inside | rfl | outside
  · rw [List.getElem?_append_left inside] at found
    exact rounds.cleared_iff index serving found
  · rw [List.getElem?_concat_length] at found
    cases found
    exact begins
  · have short : (servings ++ [last]).length ≤ index := by
      rw [List.length_append]
      exact outside
    rw [List.getElem?_eq_none short] at found
    cases found

/-- A round goes on while it is not full. -/
theorem unseen (rounds : Rounds matching servings blocks)
    (more : (sinceCleared servings).length < matching.length) :
    Rounds matching (servings ++ [⟨beat, false⟩]) blocks where
  beats_eq := by
    rw [List.map_append, rounds.beats_eq, sinceCleared_unseen, List.append_assoc]
    rfl
  perm := rounds.perm
  begun := by simp
  cleared_iff := by
    apply rounds.cleared_iff_concat
    constructor
    · nofun
    · rintro ⟨round, later, same⟩
      -- The place lies behind the full rounds, and within the one that follows on them.
      have place := rounds.length_eq
      rcases Nat.lt_or_ge blocks.length round with beyond | within
      · have := Nat.mul_le_mul_right matching.length beyond
        rw [Nat.succ_mul] at this
        omega
      · have := Nat.mul_le_mul_right matching.length within
        have begun := rounds.begun (List.ne_nil_of_length_pos (Nat.le_trans later within))
        have := List.length_pos_iff.mpr begun
        omega

/-- When a round is full, the next one begins. -/
theorem cleared (rounds : Rounds matching servings blocks)
    (full : (sinceCleared servings).Perm matching) :
    Rounds matching (servings ++ [⟨beat, true⟩]) (blocks ++ [sinceCleared servings]) where
  beats_eq := by
    rw [List.map_append, rounds.beats_eq_concat, sinceCleared_cleared]
    rfl
  perm := rounds.perm_concat full
  begun := by simp
  cleared_iff := by
    apply rounds.cleared_iff_concat
    constructor
    · intro _
      refine ⟨blocks.length + 1, Nat.succ_pos _, ?_⟩
      rw [rounds.length_eq, full.length_eq, Nat.succ_mul]
    · intro _
      rfl

end Rounds

namespace Serves

variable {catalog : MemoryCatalog} {filter : Filter} {bound : Nat} {servings : List Serving}
  {items : List String}

end Serves

end Backbeat
