/-!
# Reading UTF-8

Octets are read one at a time.  Between characters a lead octet either is a character by itself,
or opens one that owes up to three more octets, or is no beginning at all; an owed octet must lie
between two bounds.  An octet that cannot go on ends the unfinished character and is judged again
as a lead, so each maximal malformed run is read as one replacement character.
-/

namespace Backbeat.Text.Utf8

/-- A character that is owed more octets: how many, between which bounds the next one must lie,
and the bits collected so far. -/
structure Unfinished where
  owed : Nat
  low : UInt8
  high : UInt8
  bits : Nat

/-- What an octet means between two characters. -/
inductive Lead where
  | character (point : Char)
  | unfinished (state : Unfinished)
  | malformed

/-- The character that stands for octets which are no text. -/
def replacement : Char := Char.ofNat 0xFFFD

def lead (octet : UInt8) : Lead :=
  if octet < 0x80 then .character (Char.ofNat octet.toNat)
  else if octet < 0xC2 then .malformed
  else if octet < 0xE0 then .unfinished ⟨1, 0x80, 0xBF, octet.toNat - 0xC0⟩
  else if octet == 0xE0 then .unfinished ⟨2, 0xA0, 0xBF, 0⟩
  else if octet == 0xED then .unfinished ⟨2, 0x80, 0x9F, 0xD⟩
  else if octet < 0xF0 then .unfinished ⟨2, 0x80, 0xBF, octet.toNat - 0xE0⟩
  else if octet == 0xF0 then .unfinished ⟨3, 0x90, 0xBF, 0⟩
  else if octet < 0xF4 then .unfinished ⟨3, 0x80, 0xBF, octet.toNat - 0xF0⟩
  else if octet == 0xF4 then .unfinished ⟨3, 0x80, 0x8F, 4⟩
  else .malformed

/-- Whether an octet may go on an unfinished character. -/
def Unfinished.accepts (state : Unfinished) (octet : UInt8) : Bool :=
  state.low ≤ octet && octet ≤ state.high

/-- The bits of an unfinished character after one more octet. -/
def Unfinished.grow (state : Unfinished) (octet : UInt8) : Nat :=
  64 * state.bits + (octet.toNat - 0x80)

/-- Read octets with replacement, from the middle of a character or from between two. -/
def decodeFrom : Option Unfinished → List UInt8 → List Char
  | none, [] => []
  | some _, [] => [replacement]
  | none, octet :: rest =>
    match lead octet with
    | .character point => point :: decodeFrom none rest
    | .unfinished state => decodeFrom (some state) rest
    | .malformed => replacement :: decodeFrom none rest
  | some state, octet :: rest =>
    if state.accepts octet then
      if state.owed ≤ 1 then
        Char.ofNat (state.grow octet) :: decodeFrom none rest
      else
        decodeFrom (some ⟨state.owed - 1, 0x80, 0xBF, state.grow octet⟩) rest
    else
      replacement ::
        match lead octet with
        | .character point => point :: decodeFrom none rest
        | .unfinished next => decodeFrom (some next) rest
        | .malformed => replacement :: decodeFrom none rest

/-- The text of octets, with the replacement character for each malformed run. -/
def decodeLossy (octets : List UInt8) : String :=
  String.ofList (decodeFrom none octets)

/-- The text of octets that are text. -/
def decode? (octets : List UInt8) : Option String :=
  String.fromUTF8? octets.toByteArray

def encode (text : String) : List UInt8 :=
  text.toUTF8.data.toList

end Backbeat.Text.Utf8
