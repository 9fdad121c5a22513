import Backbeat.Text.Integer

/-!
# Decimal integers read back

A run of digits is read as the number that it writes, as long as that number stays within the
limit; leading zeros make no difference.  The main statements are that the decimal text of an
integer is read back as this integer by every reader that can hold it, whatever the sign, and that
a natural number is read from its numerals and from nothing else, also by a reader of signed ones
unless it is zero.
-/

namespace Backbeat.Text

theorem digitValue?_of_isDigit {character : Char} (digit : character.isDigit = true) :
    digitValue? character = some (character.toNat - '0'.toNat) := by
  have bounds : '0' ≤ character ∧ character ≤ '9' := by
    simpa [Char.isDigit, Char.le_def] using digit
  exact if_pos bounds

/-- More digits never make a number smaller. -/
theorem le_ofDigitChars (digits : List Char) (value : Nat) :
    value ≤ Nat.ofDigitChars 10 digits value := by
  induction digits generalizing value with
  | nil => exact Nat.le_refl value
  | cons digit rest ih =>
    rw [Nat.ofDigitChars_cons]
    have := ih (10 * value + (digit.toNat - '0'.toNat))
    omega

/-- A run of digits is read as the number that it writes. -/
theorem scanDigits_of_isDigit {limit value : Nat} {digits : List Char} (excess : IntegerFault)
    (all : ∀ character ∈ digits, character.isDigit = true)
    (within : Nat.ofDigitChars 10 digits value ≤ limit) :
    scanDigits limit excess value digits = .ok (Nat.ofDigitChars 10 digits value) := by
  induction digits generalizing value with
  | nil => rfl
  | cons digit rest ih =>
    rw [Nat.ofDigitChars_cons] at within ⊢
    have fits : 10 * value + (digit.toNat - '0'.toNat) ≤ limit :=
      Nat.le_trans (le_ofDigitChars rest _) within
    rw [scanDigits, digitValue?_of_isDigit (all digit List.mem_cons_self)]
    simp only [if_pos fits]
    exact ih (fun character later => all character (List.mem_cons_of_mem digit later)) within

theorem scanSigned_of_isDigit {limit : Nat} {digits : List Char} (excess : IntegerFault)
    (some : digits ≠ []) (all : ∀ character ∈ digits, character.isDigit = true)
    (within : Nat.ofDigitChars 10 digits 0 ≤ limit) :
    scanSigned limit excess digits = .ok (Nat.ofDigitChars 10 digits 0) := by
  cases digits with
  | nil => exact absurd rfl some
  | cons digit rest => exact scanDigits_of_isDigit excess all within

/-- A number without a sign is read as it stands. -/
theorem readInt_of_isDigit {lowest highest : Nat} {digits : List Char} (some : digits ≠ [])
    (all : ∀ character ∈ digits, character.isDigit = true)
    (within : Nat.ofDigitChars 10 digits 0 ≤ highest) :
    readInt lowest highest digits = .ok (Nat.ofDigitChars 10 digits 0 : Int) := by
  cases digits with
  | nil => exact absurd rfl some
  | cons digit rest =>
    have first := all digit List.mem_cons_self
    rw [readInt]
    · rw [scanDigits_of_isDigit .tooLarge all within]
      rfl
    · exact List.cons_ne_nil digit rest
    · rintro more ⟨rfl, -⟩
      cases first
    · rintro more ⟨rfl, -⟩
      cases first

theorem isDigit_of_mem_toDigits {value : Nat} :
    ∀ character ∈ Nat.toDigits 10 value, character.isDigit = true :=
  fun _ member => Nat.isDigit_of_mem_toDigits (by decide) (by decide) member

/-- The decimal text of an integer is read back by every reader that can hold it. -/
theorem readInt_toString {lowest highest : Nat} {value : Int} (low : -(lowest : Int) ≤ value)
    (high : value ≤ highest) : readInt lowest highest (toString value).toList = .ok value := by
  rw [Int.toString_eq_repr, Int.repr_eq_if]
  by_cases nonneg : 0 ≤ value
  · have same : (value.toNat : Int) = value := Int.toNat_of_nonneg nonneg
    have within : Nat.ofDigitChars 10 (Nat.toDigits 10 value.toNat) 0 ≤ highest := by
      rw [Nat.ofDigitChars_ten_toDigits]
      omega
    rw [if_pos nonneg, Nat.toList_repr,
      readInt_of_isDigit Nat.toDigits_ne_nil isDigit_of_mem_toDigits within,
      Nat.ofDigitChars_ten_toDigits, same]
  · have same : -((-value).toNat : Int) = value := by omega
    have within : Nat.ofDigitChars 10 (Nat.toDigits 10 (-value).toNat) 0 ≤ lowest := by
      rw [Nat.ofDigitChars_ten_toDigits]
      omega
    have signed : ("-" ++ (-value).toNat.repr).toList = '-' :: Nat.toDigits 10 (-value).toNat := by
      rw [String.toList_append, Nat.toList_repr]
      rfl
    rw [if_neg nonneg, signed, readInt,
      scanSigned_of_isDigit .tooSmall Nat.toDigits_ne_nil isDigit_of_mem_toDigits within,
      Nat.ofDigitChars_ten_toDigits]
    exact congrArg Except.ok same

/-- Different integers have different texts. -/
theorem eq_of_toString_eq {left right : Int} (same : toString left = toString right) :
    left = right := by
  have read := congrArg (fun text : String =>
    readInt (left.natAbs + right.natAbs) (left.natAbs + right.natAbs) text.toList) same
  rw [readInt_toString (by omega) (by omega), readInt_toString (by omega) (by omega)] at read
  exact Except.ok.inj read

/-- A signed number of sixty-four bits is read back from its text. -/
theorem readSigned64_toString {value : Int} (low : -(maxSigned64 + 1 : Int) ≤ value)
    (high : value ≤ maxSigned64) : readSigned64 (toString value).toList = .ok value :=
  readInt_toString low high

/-! ## What is read at all -/

theorem digitValue?_eq_none {character : Char} (other : character.isDigit = false) :
    digitValue? character = none := by
  have outside : ¬ ('0' ≤ character ∧ character ≤ '9') := by
    simpa [Char.isDigit, Char.le_def] using other
  exact if_neg outside

/-- Exactly the runs of digits are read, each as the number that it writes. -/
theorem scanDigits_eq_ok_iff {limit value result : Nat} {text : List Char} (excess : IntegerFault)
    (small : value ≤ limit) :
    scanDigits limit excess value text = .ok result ↔
      (∀ character ∈ text, character.isDigit = true) ∧ Nat.ofDigitChars 10 text value = result ∧
        result ≤ limit := by
  constructor
  · induction text generalizing value with
    | nil =>
      rintro ⟨⟩
      exact ⟨nofun, rfl, small⟩
    | cons character rest ih =>
      intro scanned
      cases digit : character.isDigit with
      | false =>
        rw [scanDigits, digitValue?_eq_none digit] at scanned
        cases scanned
      | true =>
        rw [scanDigits, digitValue?_of_isDigit digit] at scanned
        dsimp only at scanned
        split at scanned
        · next fits =>
          obtain ⟨digits, written, within⟩ := ih fits scanned
          refine ⟨?_, ?_, within⟩
          · exact List.forall_mem_cons.mpr ⟨digit, digits⟩
          · rw [Nat.ofDigitChars_cons, written]
        · cases scanned
  · rintro ⟨digits, rfl, within⟩
    exact scanDigits_of_isDigit excess digits within

/-- The text is one or more digits, perhaps after a plus sign, and they write the number. -/
def IsNumeral (text : List Char) (value : Nat) : Prop :=
  ∃ digits, (text = digits ∨ text = '+' :: digits) ∧ digits ≠ [] ∧
    (∀ character ∈ digits, character.isDigit = true) ∧ Nat.ofDigitChars 10 digits 0 = value

theorem scanSigned_eq_ok_iff {limit result : Nat} {text : List Char} (excess : IntegerFault) :
    scanSigned limit excess text = .ok result ↔
      text ≠ [] ∧ (∀ character ∈ text, character.isDigit = true) ∧
        Nat.ofDigitChars 10 text 0 = result ∧ result ≤ limit := by
  cases text with
  | nil => simp [scanSigned]
  | cons character rest =>
    rw [scanSigned, scanDigits_eq_ok_iff excess (Nat.zero_le limit)]
    · simp
    · exact List.cons_ne_nil character rest

theorem IsNumeral.ne_nil {text : List Char} {value : Nat} (numeral : IsNumeral text value) :
    text ≠ [] := by
  obtain ⟨digits, rfl | rfl, some, -⟩ := numeral
  · exact some
  · exact List.cons_ne_nil '+' digits

/-- A run of digits is a number by itself. -/
theorem IsNumeral.of_digits {digits : List Char} (some : digits ≠ [])
    (all : ∀ character ∈ digits, character.isDigit = true) :
    IsNumeral digits (Nat.ofDigitChars 10 digits 0) :=
  ⟨digits, .inl rfl, some, all, rfl⟩

theorem isNumeral_toDigits (value : Nat) : IsNumeral (Nat.toDigits 10 value) value := by
  have numeral : IsNumeral (Nat.toDigits 10 value) _ :=
    .of_digits Nat.toDigits_ne_nil isDigit_of_mem_toDigits
  rwa [Nat.ofDigitChars_ten_toDigits] at numeral

/-- Exactly the numerals of numbers within the limit are read. -/
theorem readNat_eq_ok_iff {limit value : Nat} {text : List Char} :
    readNat limit text = .ok value ↔ IsNumeral text value ∧ value ≤ limit := by
  unfold readNat
  split
  · constructor
    · nofun
    · rintro ⟨⟨digits, rfl | plus, some, -⟩, -⟩
      · exact absurd rfl some
      · cases plus
  · next digits =>
    rw [scanSigned_eq_ok_iff]
    constructor
    · rintro ⟨some, all, written, within⟩
      exact ⟨⟨digits, .inr rfl, some, all, written⟩, within⟩
    · rintro ⟨⟨_, rfl | signed, some, all, written⟩, within⟩
      · cases all '+' List.mem_cons_self
      · cases signed
        exact ⟨some, all, written, within⟩
  · next some unsigned =>
    rw [scanDigits_eq_ok_iff .tooLarge (Nat.zero_le limit)]
    constructor
    · rintro ⟨all, written, within⟩
      exact ⟨⟨text, .inl rfl, some, all, written⟩, within⟩
    · rintro ⟨⟨digits, rfl | signed, -, all, written⟩, within⟩
      · exact ⟨all, written, within⟩
      · exact absurd signed (unsigned digits)

/-- A text is the numeral of one number only. -/
theorem IsNumeral.unique {text : List Char} {first second : Nat} (left : IsNumeral text first)
    (right : IsNumeral text second) : first = second := by
  have one := readNat_eq_ok_iff.mpr ⟨left, Nat.le_max_left first second⟩
  have other := readNat_eq_ok_iff.mpr ⟨right, Nat.le_max_right first second⟩
  exact Except.ok.inj (one.symm.trans other)

theorem map_ofNat_eq_ok_iff {result : Except IntegerFault Nat} {value : Nat} :
    result.map Int.ofNat = .ok (value : Int) ↔ result = .ok value := by
  cases result with
  | error fault => simp [Except.map]
  | ok found =>
    rw [Except.map, Except.ok.injEq, Except.ok.injEq]
    exact Int.ofNat_inj

/-- A positive number is read from its numerals also where a sign may stand. -/
theorem readInt_eq_ok_natCast_iff {lowest highest value : Nat} {text : List Char}
    (positive : 0 < value) :
    readInt lowest highest text = .ok (value : Int) ↔ IsNumeral text value ∧ value ≤ highest := by
  rw [← readNat_eq_ok_iff]
  unfold readInt
  split
  · simp [readNat]
  · exact map_ofNat_eq_ok_iff
  · next digits =>
    -- A minus sign is no digit, and no number behind it is positive.
    have refused : readNat highest ('-' :: digits) = .error .invalidDigit := rfl
    rw [refused]
    constructor
    · intro read
      cases scanned : scanSigned lowest .tooSmall digits with
      | error fault =>
        rw [scanned] at read
        cases read
      | ok found =>
        rw [scanned] at read
        have negative : -(found : Int) = value := Except.ok.inj read
        omega
    · nofun
  · next some unsigned _ =>
    rw [map_ofNat_eq_ok_iff, readNat]
    · exact some
    · exact unsigned

end Backbeat.Text
