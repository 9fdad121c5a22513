/-!
# JSON values

Integers are values; a number written with a fraction or an exponent (or as minus zero) is kept
as its literal, because nothing here computes with one.  The members of an object keep their
order, and a repeated name keeps all its members, so that a reader can object to the repetition.

A string literal may spell half of a surrogate pair.  Such a literal is well formed but denotes
no text; it is read as `unreadable`, and so is an object with such a name.
-/

namespace Backbeat

inductive Json where
  | null
  | bool (value : Bool)
  | int (value : Int)
  | decimal (literal : String)
  | str (text : String)
  | arr (items : List Json)
  | obj (members : List (String × Json))
  | unreadable

namespace Json

def nat (value : Nat) : Json := .int (Int.ofNat value)

def strs (texts : List String) : Json := .arr (texts.map .str)

def orNull {α : Type} (write : α → Json) : Option α → Json
  | none => .null
  | some value => write value

/-- The members of an object; other values have none. -/
def members : Json → List (String × Json)
  | .obj pairs => pairs
  | _ => []

def get? (value : Json) (name : String) : Option Json :=
  (value.members.reverse.find? fun member => member.1 == name).map Prod.snd

/-- The object with the members of `value` and then those of `more`. -/
def extend (value : Json) (more : List (String × Json)) : Json :=
  .obj (value.members ++ more)

end Json

end Backbeat
