import Backbeat.Proofs.Text.Trimming

/-!
# Texts cut at a mark

A text is cut into pieces at each place where a mark stands.  No piece has the mark in it, and a
text has two pieces exactly when the mark between them is its only one.  When the pieces are
trimmed, blanks around the whole text make no difference to them.
-/

namespace Backbeat.Text

variable {mark : Char} {text left right piece : List Char}

theorem splitOn_eq_singleton_iff : text.splitOn mark = [left] ↔ mark ∉ text ∧ text = left := by
  constructor
  · intro split
    have unmarked : mark ∉ text := by
      intro member
      obtain ⟨before, after, rfl⟩ := List.append_of_mem member
      rw [List.splitOn_append_cons_self] at split
      have parts := congrArg List.length split
      have first := List.length_pos_iff.mpr (List.splitOn_ne_nil mark before)
      have second := List.length_pos_iff.mpr (List.splitOn_ne_nil mark after)
      rw [List.length_append, List.length_singleton] at parts
      omega
    rw [List.splitOn_eq_singleton unmarked] at split
    exact ⟨unmarked, List.head_eq_of_cons_eq split⟩
  · rintro ⟨unmarked, rfl⟩
    exact List.splitOn_eq_singleton unmarked

/-- A text has two parts exactly when the mark between them is its only one. -/
theorem splitOn_eq_pair_iff :
    text.splitOn mark = [left, right] ↔
      text = left ++ mark :: right ∧ mark ∉ left ∧ mark ∉ right := by
  constructor
  · intro split
    have marked : mark ∈ text := by
      by_contra unmarked
      rw [List.splitOn_eq_singleton unmarked] at split
      cases split
    obtain ⟨before, after, rfl, unmarked⟩ := List.eq_append_cons_of_mem marked
    rw [List.splitOn_append_cons_self_of_not_mem unmarked] at split
    obtain ⟨rfl, rest⟩ := List.cons_eq_cons.mp split
    obtain ⟨none_after, rfl⟩ := splitOn_eq_singleton_iff.mp rest
    exact ⟨rfl, unmarked, none_after⟩
  · rintro ⟨rfl, unmarked, none_after⟩
    rw [List.splitOn_append_cons_self_of_not_mem unmarked, List.splitOn_eq_singleton none_after]

/-- No piece has the mark in it. -/
theorem not_mem_of_mem_splitOn (listed : piece ∈ text.splitOn mark) : mark ∉ piece := by
  induction text generalizing piece with
  | nil =>
    rw [List.splitOn_nil, List.mem_singleton] at listed
    exact listed ▸ List.not_mem_nil
  | cons character rest ih =>
    rw [List.splitOn_cons_eq_if_modifyHead] at listed
    split at listed
    · rcases List.mem_cons.mp listed with rfl | later
      · exact List.not_mem_nil
      · exact ih later
    · next other =>
      obtain ⟨first, more, parts⟩ := List.exists_cons_of_ne_nil (List.splitOn_ne_nil mark rest)
      rw [parts] at ih
      rw [parts, List.modifyHead_cons] at listed
      rcases List.mem_cons.mp listed with rfl | later
      · rw [List.mem_cons]
        rintro (rfl | within)
        · exact other (beq_self_eq_true mark)
        · exact ih List.mem_cons_self within
      · exact ih (List.mem_cons_of_mem first later)

/-! ## Trimmed pieces -/

theorem map_trim_splitOn_append_left (visible : isBlank mark = false) {front : List Char}
    (blank : ∀ character ∈ front, isBlank character = true) (text : List Char) :
    ((front ++ text).splitOn mark).map trim = (text.splitOn mark).map trim := by
  have outside : mark ∉ front := fun member => absurd (blank mark member) (by simp [visible])
  by_cases marked : mark ∈ text
  · -- The blanks go to the piece before the first mark.
    obtain ⟨before, after, rfl, unmarked⟩ := List.eq_append_cons_of_mem marked
    have still : mark ∉ front ++ before := by simp [outside, unmarked]
    rw [← List.append_assoc, List.splitOn_append_cons_self_of_not_mem still,
      List.splitOn_append_cons_self_of_not_mem unmarked, List.map_cons, List.map_cons,
      trim_append_left blank]
  · have still : mark ∉ front ++ text := by simp [outside, marked]
    rw [List.splitOn_eq_singleton still, List.splitOn_eq_singleton marked, List.map_singleton,
      List.map_singleton, trim_append_left blank]

theorem map_trim_splitOn_append_right (visible : isBlank mark = false) {back : List Char}
    (blank : ∀ character ∈ back, isBlank character = true) (text : List Char) :
    ((text ++ back).splitOn mark).map trim = (text.splitOn mark).map trim := by
  have outside : mark ∉ back := fun member => absurd (blank mark member) (by simp [visible])
  by_cases marked : mark ∈ text
  · -- The blanks go to the piece behind the last mark.
    obtain ⟨after, before, reversed, unmarked⟩ :=
      List.eq_append_cons_of_mem (List.mem_reverse.mpr marked)
    obtain rfl : text = before.reverse ++ mark :: after.reverse := by
      simpa using congrArg List.reverse reversed
    have last : mark ∉ after.reverse := by simpa using unmarked
    have still : mark ∉ after.reverse ++ back := by simp [outside, unmarked]
    rw [List.append_assoc, List.cons_append, List.splitOn_append_cons_self,
      List.splitOn_append_cons_self, List.splitOn_eq_singleton still,
      List.splitOn_eq_singleton last, List.map_append, List.map_append, List.map_singleton,
      List.map_singleton, trim_append_right blank]
  · have still : mark ∉ text ++ back := by simp [outside, marked]
    rw [List.splitOn_eq_singleton still, List.splitOn_eq_singleton marked, List.map_singleton,
      List.map_singleton, trim_append_right blank]

/-- Blanks around a text make no difference to its trimmed pieces. -/
theorem map_trim_splitOn_trim (visible : isBlank mark = false) (text : List Char) :
    ((trim text).splitOn mark).map trim = (text.splitOn mark).map trim := by
  obtain ⟨front, back, whole, before, behind⟩ := exists_trim text
  calc
    ((trim text).splitOn mark).map trim
        = ((front ++ (trim text ++ back)).splitOn mark).map trim := by
      rw [map_trim_splitOn_append_left visible before,
        map_trim_splitOn_append_right visible behind]
    _ = (text.splitOn mark).map trim := by rw [← whole]

end Backbeat.Text
