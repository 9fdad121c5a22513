import Backbeat.Json.Value
import Backbeat.Text.Integer

/-!
# Records in JSON

A record has named fields in a declared order.  It is written as an object of them; it may also
be read from a list of its values in the declared order, of which the last may be missing.  An
object may hold members that are no fields, which are ignored, but no field twice.
-/

namespace Backbeat.Json

/-- Why a value is not a record with certain fields. -/
inductive RecordFault where
  | noRecord
  | tooManyItems
  | repeated (field : String)
  | missing (field : String)
  | unfit (field : String)
deriving DecidableEq

def RecordFault.message : RecordFault → String
  | .noRecord => "the value is not a record"
  | .tooManyItems => "the list has too many items"
  | .repeated field => s!"the field {field} is repeated"
  | .missing field => s!"the field {field} is missing"
  | .unfit field => s!"the value of the field {field} does not fit"

/-- The first name that stands in a list more than once. -/
def repeated? : List String → Option String
  | [] => none
  | name :: rest => if name ∈ rest then some name else repeated? rest

def fieldsOf (declared : List String) : Json → Except RecordFault (List (String × Json))
  | .obj members =>
    let known := members.filter fun member => declared.contains member.1
    match repeated? (known.map Prod.fst) with
    | some field => .error (.repeated field)
    | none => .ok known
  | .arr items =>
    if items.length ≤ declared.length then .ok (declared.zip items) else .error .tooManyItems
  | _ => .error .noRecord

def required {α : Type} (fields : List (String × Json)) (field : String)
    (read : Json → Option α) : Except RecordFault α :=
  match fields.lookup field with
  | none => .error (.missing field)
  | some value =>
    match read value with
    | none => .error (.unfit field)
    | some content => .ok content

/-- The value of a field that may be left out. -/
def optional {α : Type} (fields : List (String × Json)) (field : String) (default : α)
    (read : Json → Option α) : Except RecordFault α :=
  match fields.lookup field with
  | none => .ok default
  | some value =>
    match read value with
    | none => .error (.unfit field)
    | some content => .ok content

def str? : Json → Option String
  | .str text => some text
  | _ => none

def bool? : Json → Option Bool
  | .bool value => some value
  | _ => none

def int? : Json → Option Int
  | .int value => some value
  | _ => none

def nat? : Json → Option Nat
  | .int (.ofNat value) => some value
  | _ => none

def word? (value : Json) : Option UInt32 :=
  match nat? value with
  | some number => if number ≤ Text.max32 then some (UInt32.ofNat number) else none
  | none => none

def items? : Json → Option (List Json)
  | .arr items => some items
  | _ => none

def strs? (value : Json) : Option (List String) :=
  value.items?.bind fun items => items.mapM str?

@[simp]
theorem strs?_strs (texts : List String) : strs? (strs texts) = some texts := by
  have : (texts.map Json.str).mapM str? = some texts := by
    induction texts with
    | nil => rfl
    | cons text rest ih => simp [List.mapM_cons, str?, ih]
  simpa [strs, strs?, items?] using this

end Backbeat.Json
