import Backbeat.Calendar.Instant
import Backbeat.Proofs.Text.Decimal
import Backbeat.Proofs.Text.Trimming
import Mathlib.Algebra.Group.Nat.Defs

/-!
# Instants are read back

The text of an instant of the years 0 to 9999 is read part by part, and each reader takes exactly
what was written for it: a number padded with zeros to its width, a separator, a fraction of three,
six or nine digits that reads as the same number of nanoseconds, and the mark of Greenwich.  Leap
seconds are no exception.
-/

namespace Backbeat.Calendar

open Text

/-! ## Parts of a date -/

namespace Instant

/-- A run of digits is taken whole if no more are wanted or no other digit follows. -/
theorem takeDigits_append {most : Nat} {digits rest : List Char}
    (all : ∀ character ∈ digits, character.isDigit = true) (filled : digits ≠ [])
    (short : digits.length ≤ most)
    (ended : digits.length = most ∨ ∀ character ∈ rest.head?, character.isDigit = false) :
    takeDigits most (digits ++ rest) = some (digits, rest) := by
  have none_left : (rest.take (most - digits.length)).takeWhile Char.isDigit = [] := by
    rcases ended with exactly | apart
    · simp [exactly]
    · cases rest with
      | nil => simp
      | cons character later =>
        cases most - digits.length with
        | zero => rfl
        | succ room => simp [apart character rfl]
  have taken : ((digits ++ rest).take most).takeWhile Char.isDigit = digits := by
    rw [List.take_append, List.take_of_length_le short, List.takeWhile_append_of_pos all, none_left,
      List.append_nil]
  simp [takeDigits, taken, filled]

section Padded

variable {width value : Nat}

theorem isDigit_of_mem_padded (width value : Nat) :
    ∀ character ∈ padded width value, character.isDigit = true := by
  intro character member
  rw [padded, Nat.toString_eq_ofList_toDigits, String.toList_ofList] at member
  rcases List.mem_append.mp member with zero | digit
  · rw [List.eq_of_mem_replicate zero]
    decide
  · exact isDigit_of_mem_toDigits character digit

theorem padded_ne_nil (width value : Nat) : padded width value ≠ [] := by
  rw [padded, Nat.toString_eq_ofList_toDigits, String.toList_ofList]
  exact List.append_ne_nil_of_right_ne_nil _ Nat.toDigits_ne_nil

theorem length_padded (wide : 0 < width) (fits : value < 10 ^ width) :
    (padded width value).length = width := by
  have short := (Nat.length_toDigits_le_iff (by decide) wide).mpr fits
  simp only [padded, Nat.toString_eq_ofList_toDigits, String.toList_ofList, List.length_append,
    List.length_replicate]
  omega

theorem valueOf_padded (width value : Nat) : valueOf (padded width value) = value := by
  rw [valueOf, padded, Nat.toString_eq_ofList_toDigits, String.toList_ofList,
    Nat.ofDigitChars_append, Nat.ofDigitChars_replicate_zero, Nat.mul_zero,
    Nat.ofDigitChars_ten_toDigits]

/-- A padded number begins with a digit. -/
theorem padded_eq_cons (width value : Nat) :
    ∃ first later, padded width value = first :: later ∧ first.isDigit = true := by
  obtain ⟨first, later, begun⟩ := List.exists_cons_of_ne_nil (padded_ne_nil width value)
  exact ⟨first, later, begun, isDigit_of_mem_padded width value first (begun ▸ List.mem_cons_self)⟩

theorem skipBlanks_padded (rest : List Char) :
    skipBlanks (padded width value ++ rest) = padded width value ++ rest := by
  obtain ⟨first, later, begun, digit⟩ := padded_eq_cons width value
  simp [begun, skipBlanks, isBlank_of_isDigit digit]

/-- A padded number is taken whole by a reader of its width. -/
theorem takeDigits_padded (wide : 0 < width) (fits : value < 10 ^ width) (rest : List Char) :
    takeDigits width (padded width value ++ rest) = some (padded width value, rest) :=
  takeDigits_append (isDigit_of_mem_padded width value) (padded_ne_nil width value)
    (Nat.le_of_eq (length_padded wide fits)) (Or.inl (length_padded wide fits))

end Padded

theorem takePart_padded {value : Nat} (fits : value < 100) (rest : List Char) :
    takePart (padded 2 value ++ rest) = some (value, rest) := by
  rw [takePart, skipBlanks_padded, takeDigits_padded (by decide) fits]
  exact congrArg (fun number => some (number, rest)) (valueOf_padded 2 value)

theorem takeYear_yearText {year : Int} (nonneg : 0 ≤ year) (short : year ≤ 9999)
    (rest : List Char) : takeYear (yearText year ++ rest) = some (year, rest) := by
  obtain ⟨first, later, begun, digit⟩ := padded_eq_cons 4 year.toNat
  rw [yearText, if_pos ⟨nonneg, short⟩, takeYear, skipBlanks_padded]
  split
  · next same =>
    rw [begun] at same
    cases same
    cases digit
  · next same =>
    rw [begun] at same
    cases same
    cases digit
  · rw [takeDigits_padded (by decide) (by omega)]
    have same : (valueOf (padded 4 year.toNat) : Int) = year := by
      rw [valueOf_padded, Int.toNat_of_nonneg nonneg]
    exact congrArg (fun number => some (number, rest)) same

theorem takeMark_cons {mark : Char} (visible : isBlank mark = false) (rest : List Char) :
    takeMark mark (mark :: rest) = some rest := by
  simp [takeMark, skipBlanks, visible]

/-- A fraction in a number of digits that loses nothing is read as the nanoseconds it was. -/
theorem takeFraction_padded {width value : Nat} (wide : 0 < width) (narrow : width ≤ 9)
    (fits : value < 10 ^ width) {rest : List Char}
    (ended : ∀ character ∈ rest.head?, character.isDigit = false) :
    takeFraction ('.' :: padded width value ++ rest) = some (10 ^ (9 - width) * value, rest) := by
  have length := length_padded wide fits
  have taken : takeDigits 9 (padded width value ++ rest) = some (padded width value, rest) :=
    takeDigits_append (isDigit_of_mem_padded width value) (padded_ne_nil width value)
      (Nat.le_trans (Nat.le_of_eq length) narrow) (Or.inr ended)
  have nanos : valueOf (padded width value ++ List.replicate (9 - width) '0') =
      10 ^ (9 - width) * value := by
    rw [valueOf, Nat.ofDigitChars_append, Nat.ofDigitChars_replicate_zero]
    exact congrArg (10 ^ (9 - width) * ·) (valueOf_padded width value)
  have stopped : rest.dropWhile Char.isDigit = rest := by
    cases rest with
    | nil => rfl
    | cons character later => simp [ended character rfl]
  simp only [List.cons_append, takeFraction, taken, Option.map_some, length, nanos, stopped]

theorem takeFraction_fractionText {nanos : Nat} (within : nanos < nanosPerSecond) :
    takeFraction (fractionText nanos ++ ['Z']) = some (nanos, ['Z']) := by
  have ended : ∀ character ∈ ['Z'].head?, character.isDigit = false := by
    intro character same
    cases same
    rfl
  unfold nanosPerSecond at within
  rw [fractionText]
  split
  · next none =>
    subst none
    rfl
  · split
    · rw [takeFraction_padded (by decide) (by decide) (by omega) ended]
      exact congrArg (fun number => some (number, ['Z'])) (by omega)
    · split
      · rw [takeFraction_padded (by decide) (by decide) (by omega) ended]
        exact congrArg (fun number => some (number, ['Z'])) (by omega)
      · rw [takeFraction_padded (by decide) (by decide) (by omega) ended]
        exact congrArg (fun number => some (number, ['Z'])) (by omega)

end Instant

/-! ## The whole text -/

namespace Time

theorem written_lt (time : Time) : time.written.1 < 100 ∧ time.written.2 < nanosPerSecond := by
  have second := time.second_valid
  have nanos := time.nanos_valid
  rw [written]
  split <;> omega

/-- A time is made again of what is written of it, a leap second included. -/
theorem of?_written (time : Time) :
    of? time.hour time.minute time.written.1 time.written.2 = some time := by
  have valid : time.hour < 24 ∧ time.minute < 60 ∧ time.written.2 < nanosPerSecond :=
    ⟨time.hour_valid, time.minute_valid, time.written_lt.2⟩
  have second := time.second_valid
  have nanos := time.nanos_valid
  rw [of?, dif_pos valid]
  by_cases ordinary : time.nanos < nanosPerSecond
  · have same : time.written = (time.second, time.nanos) := if_pos ordinary
    simp [same, second]
  · have leap : time.written = (time.second + 1, time.nanos - nanosPerSecond) := if_neg ordinary
    have last : time.second = 59 := by omega
    have whole : nanosPerSecond + (time.nanos - nanosPerSecond) = time.nanos := by omega
    simp only [leap, last, whole]
    cases time
    cases last
    rfl

end Time

namespace Instant

/-- At Greenwich, the clock shows the instant itself. -/
theorem ofLocal_zero (date : Date) (time : Time) : ofLocal date time 0 = ⟨date, time⟩ := by
  have hour := time.hour_valid
  have minute := time.minute_valid
  have minutes : (60 * (time.hour : Int) + time.minute - 0) % (24 * 60) =
      ((60 * time.hour + time.minute : Nat) : Int) := by omega
  have sameDay : ¬60 * (time.hour : Int) + time.minute - 0 < 0 ∧
      ¬24 * 60 ≤ 60 * (time.hour : Int) + time.minute - 0 := by omega
  have sameHour : (60 * time.hour + time.minute) / 60 = time.hour := by omega
  have sameMinute : (60 * time.hour + time.minute) % 60 = time.minute := by omega
  simp only [ofLocal, minutes, sameDay, Int.toNat_natCast, sameHour, sameMinute]
  simp

/-- An instant of the years 0 to 9999 is read back from its text. -/
theorem ofText?_toText {instant : Instant} (nonneg : 0 ≤ instant.date.year)
    (short : instant.date.year ≤ 9999) : ofText? instant.toText = some instant := by
  have month := instant.date.month_valid
  have day := instant.date.day_valid
  have length := (daysIn_bounds instant.date.year instant.date.month).2
  have hour := instant.time.hour_valid
  have minute := instant.time.minute_valid
  obtain ⟨second, nanos⟩ := instant.time.written_lt
  have offset : takeOffset (skipBlanks ['Z']) = some (0, []) := by decide
  have inRange : yearInRange instant.date.year = true := by
    simp only [yearInRange, Bool.and_eq_true, decide_eq_true_eq]
    omega
  have dash : isBlank '-' = false := by decide
  have colon : isBlank ':' = false := by decide
  rw [ofText?, toText]
  simp only [List.append_assoc, List.cons_append]
  refine Option.bind_eq_some_iff.mpr ⟨_, takeYear_yearText nonneg short _, ?_⟩
  refine Option.bind_eq_some_iff.mpr ⟨_, takeMark_cons dash _, ?_⟩
  refine Option.bind_eq_some_iff.mpr ⟨_, takePart_padded (by omega) _, ?_⟩
  refine Option.bind_eq_some_iff.mpr ⟨_, takeMark_cons dash _, ?_⟩
  refine Option.bind_eq_some_iff.mpr ⟨_, takePart_padded (by omega) _, ?_⟩
  refine Option.bind_eq_some_iff.mpr ⟨_, rfl, ?_⟩
  refine Option.bind_eq_some_iff.mpr ⟨_, takePart_padded (by omega) _, ?_⟩
  refine Option.bind_eq_some_iff.mpr ⟨_, takeMark_cons colon _, ?_⟩
  refine Option.bind_eq_some_iff.mpr ⟨_, takePart_padded (by omega) _, ?_⟩
  refine Option.bind_eq_some_iff.mpr ⟨_, takeMark_cons colon _, ?_⟩
  refine Option.bind_eq_some_iff.mpr ⟨_, takePart_padded second _, ?_⟩
  refine Option.bind_eq_some_iff.mpr ⟨_, takeFraction_fractionText nanos, ?_⟩
  refine Option.bind_eq_some_iff.mpr ⟨_, offset, ?_⟩
  refine Option.bind_eq_some_iff.mpr ⟨_, Date.of?_self instant.date, ?_⟩
  refine Option.bind_eq_some_iff.mpr ⟨_, Time.of?_written instant.time, ?_⟩
  rw [ofLocal_zero]
  exact if_pos ⟨rfl, inRange, inRange⟩

end Instant

end Backbeat.Calendar
