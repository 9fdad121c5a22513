/-!
# Hexadecimal digits

Digits are read in either case and written in small letters.
-/

namespace Backbeat.Text

/-- The value of a hexadecimal digit of either case. -/
def hexValue? (character : Char) : Option Nat :=
  if '0' ≤ character ∧ character ≤ '9' then some (character.toNat - '0'.toNat)
  else if 'a' ≤ character ∧ character ≤ 'f' then some (character.toNat - 'a'.toNat + 10)
  else if 'A' ≤ character ∧ character ≤ 'F' then some (character.toNat - 'A'.toNat + 10)
  else none

/-- The small hexadecimal digit of a value below sixteen. -/
def hexDigit (value : Nat) : Char :=
  if value < 10 then Char.ofNat ('0'.toNat + value) else Char.ofNat ('a'.toNat + (value - 10))

/-- The number that a run of hexadecimal digits continues from `value`, or nothing where another
character stands among them. -/
def readHexFrom (value : Nat) : List Char → Option Nat
  | [] => some value
  | character :: rest =>
    match hexValue? character with
    | none => none
    | some digit => readHexFrom (16 * value + digit) rest

def readHex (digits : List Char) : Option Nat :=
  readHexFrom 0 digits

/-- The last `count` hexadecimal digits of a number. -/
def writeHex : (count : Nat) → (value : Nat) → List Char
  | 0, _ => []
  | count + 1, value => writeHex count (value / 16) ++ [hexDigit (value % 16)]

@[simp]
theorem length_writeHex (count value : Nat) : (writeHex count value).length = count := by
  induction count generalizing value with
  | zero => rfl
  | succ count ih => simp [writeHex, ih]

theorem hexValue?_hexDigit {value : Nat} (small : value < 16) :
    hexValue? (hexDigit value) = some value := by
  revert small
  revert value
  decide

theorem readHexFrom_append (value : Nat) (left right : List Char) :
    readHexFrom value (left ++ right) = (readHexFrom value left).bind (readHexFrom · right) := by
  induction left generalizing value with
  | nil => rfl
  | cons character rest ih =>
    simp only [List.cons_append, readHexFrom]
    cases hexValue? character with
    | none => rfl
    | some digit => exact ih _

/-- What is written in enough digits reads back. -/
theorem readHex_writeHex {count value : Nat} (fits : value < Nat.pow 16 count) :
    readHex (writeHex count value) = some value := by
  unfold readHex
  induction count generalizing value with
  | zero =>
    have : value = 0 := Nat.lt_one_iff.mp fits
    subst this
    rfl
  | succ count ih =>
    have smaller : value / 16 < Nat.pow 16 count := by
      have : value < Nat.pow 16 count * 16 := fits
      omega
    simp only [writeHex, readHexFrom_append, ih smaller, Option.bind_some, readHexFrom,
      hexValue?_hexDigit (Nat.mod_lt value (by decide : 0 < 16))]
    congr 1
    omega

/-- Only digits are written. -/
theorem eq_hexDigit_of_mem_writeHex {count value : Nat} {character : Char}
    (member : character ∈ writeHex count value) :
    ∃ digit, digit < 16 ∧ character = hexDigit digit := by
  induction count generalizing value with
  | zero => cases member
  | succ count ih =>
    rcases List.mem_append.mp member with before | last
    · exact ih before
    · exact ⟨value % 16, Nat.mod_lt value (by decide), List.mem_singleton.mp last⟩

def hexOfBytes (bytes : ByteArray) : String :=
  bytes.foldl (fun text byte => (text.push (hexDigit (byte.toNat / 16))).push
    (hexDigit (byte.toNat % 16))) ""

end Backbeat.Text
