import Backbeat.Text.Blank
import Backbeat.Text.Header
import Mathlib.Data.List.TakeWhile

/-!
# Trimmed texts

Trimming takes away the blanks at the two ends of a text and nothing else, so that blanks put
around a text make no difference to what is left of it, and trimming twice is trimming once.  The
blanks around the value of a header are among these, so that a text which trimming leaves as it is
arrives in a header as it is.
-/

namespace Backbeat.Text

variable {few many : Char → Bool} {text : List Char}

/-- What no character of a larger class begins, none of a smaller one does. -/
theorem dropWhile_eq_self_of_imp
    (within : ∀ character, few character = true → many character = true)
    (kept : text.dropWhile many = text) : text.dropWhile few = text := by
  rw [List.dropWhile_eq_self_iff] at kept ⊢
  exact fun long begins => kept long (within _ begins)

/-- A text without blanks has none to trim. -/
theorem trim_of_not_isBlank (unblank : ∀ character ∈ text, isBlank character = false) :
    trim text = text := by
  have kept {characters : List Char} (same : ∀ character ∈ characters, character ∈ text) :
      characters.dropWhile isBlank = characters := by
    rw [List.dropWhile_eq_self_iff]
    intro long
    rw [unblank _ (same _ (List.getElem_mem long))]
    exact Bool.false_ne_true
  rw [trim, kept fun _ member => member, kept fun _ => List.mem_reverse.mp, List.reverse_reverse]

theorem isBlank_of_isDigit {character : Char} (digit : character.isDigit = true) :
    isBlank character = false := by
  have bounds : 48 ≤ character.toNat ∧ character.toNat ≤ 57 := by
    simpa [Char.isDigit, UInt32.le_iff_toNat_le] using digit
  simp only [isBlank, Bool.or_eq_false_iff, Bool.and_eq_false_iff, decide_eq_false_iff_not,
    beq_eq_false_iff_ne]
  omega

theorem trim_of_isDigit (digits : ∀ character ∈ text, character.isDigit = true) :
    trim text = text :=
  trim_of_not_isBlank fun character member => isBlank_of_isDigit (digits character member)

theorem dropWhile_eq_self_of_trim (trimmed : trim text = text) :
    text.dropWhile isBlank = text := by
  refine (List.dropWhile_suffix isBlank).eq_of_length_le ?_
  have shorter := List.length_dropWhile_le isBlank (text.dropWhile isBlank).reverse
  rw [List.length_reverse, ← List.length_reverse] at shorter
  exact Nat.le_trans (Nat.le_of_eq (congrArg List.length trimmed).symm) shorter

theorem dropWhile_reverse_eq_self_of_trim (trimmed : trim text = text) :
    text.reverse.dropWhile isBlank = text.reverse := by
  have front := dropWhile_eq_self_of_trim trimmed
  rw [trim, front] at trimmed
  exact List.reverse_eq_iff.mp trimmed

/-! ## Blanks around a text -/

theorem dropWhile_append_of_isBlank {front : List Char}
    (blank : ∀ character ∈ front, isBlank character = true) (text : List Char) :
    (front ++ text).dropWhile isBlank = text.dropWhile isBlank := by
  rw [List.dropWhile_append, List.dropWhile_eq_nil_iff.mpr blank]
  rfl

theorem trim_append_left {front : List Char}
    (blank : ∀ character ∈ front, isBlank character = true) (text : List Char) :
    trim (front ++ text) = trim text := by
  rw [trim, dropWhile_append_of_isBlank blank, trim]

theorem trim_append_right {back : List Char}
    (blank : ∀ character ∈ back, isBlank character = true) (text : List Char) :
    trim (text ++ back) = trim text := by
  rw [trim, List.dropWhile_append, trim]
  split
  · next nothing => rw [List.isEmpty_iff.mp nothing, List.dropWhile_eq_nil_iff.mpr blank]
  · rw [List.reverse_append, dropWhile_append_of_isBlank]
    intro character listed
    exact blank character (List.mem_reverse.mp listed)

/-- A text is what trimming leaves of it, with blanks around it. -/
theorem exists_trim (text : List Char) :
    ∃ front back, text = front ++ (trim text ++ back) ∧
      (∀ character ∈ front, isBlank character = true) ∧
      ∀ character ∈ back, isBlank character = true := by
  refine ⟨text.takeWhile isBlank, ((text.dropWhile isBlank).reverse.takeWhile isBlank).reverse,
    ?_, ?_, ?_⟩
  · rw [trim, ← List.reverse_append, List.takeWhile_append_dropWhile, List.reverse_reverse,
      List.takeWhile_append_dropWhile]
  · intro character listed
    exact List.mem_takeWhile_imp listed
  · intro character listed
    exact List.mem_takeWhile_imp (List.mem_reverse.mp listed)

@[simp]
theorem trim_trim (text : List Char) : trim (trim text) = trim text := by
  obtain ⟨front, back, whole, before, behind⟩ := exists_trim text
  calc
    trim (trim text) = trim (front ++ (trim text ++ back)) := by
      rw [trim_append_left before, trim_append_right behind]
    _ = trim text := congrArg trim whole.symm

theorem mem_of_mem_trim {character : Char} (member : character ∈ trim text) : character ∈ text := by
  obtain ⟨front, back, whole, -, -⟩ := exists_trim text
  rw [whole]
  exact List.mem_append_right front (List.mem_append_left back member)

/-! ## What is left of a text -/

theorem trimmed?_eq_none_iff : trimmed? text = none ↔ trim text = [] := by
  unfold trimmed?
  split
  · next nothing => simp [nothing]
  · next something => simpa using something

theorem trimmed?_eq_some_iff {kept : List Char} :
    trimmed? text = some kept ↔ trim text = kept ∧ kept ≠ [] := by
  unfold trimmed?
  split
  · next nothing =>
    constructor
    · nofun
    · rintro ⟨rfl, something⟩
      exact absurd nothing something
  · next something =>
    constructor
    · rintro ⟨⟩
      exact ⟨rfl, something⟩
    · rintro ⟨rfl, -⟩
      rfl

theorem isBlank_of_isHeaderBlank {character : Char} (blank : isHeaderBlank character = true) :
    isBlank character = true := by
  rw [isHeaderBlank, Bool.or_eq_true, beq_iff_eq, beq_iff_eq] at blank
  rcases blank with rfl | rfl <;> decide

/-- A trimmed text arrives in a header as it is. -/
theorem headerValue_of_trimmed {text : String} (trimmed : trimText text = text) :
    headerValue text = text := by
  have kept : trim text.toList = text.toList := by
    rw [← toList_trimText, trimmed]
  have within : ∀ character, isHeaderBlank character = true → isBlank character = true :=
    fun _ => isBlank_of_isHeaderBlank
  rw [headerValue, dropWhile_eq_self_of_imp within (dropWhile_eq_self_of_trim kept),
    dropWhile_eq_self_of_imp within (dropWhile_reverse_eq_self_of_trim kept),
    List.reverse_reverse, String.ofList_toList]

end Backbeat.Text
