import Backbeat.Json.Value
import Backbeat.Text.Hex

/-!
# Reading JSON

The reader is a pushdown machine that takes one character at a time, so that it neither recurses
on the depth of the value nor needs a bound on its length.  Its state is what is being spelt (the
lexeme), what may come next, and the containers that are still open.

The grammar is the strict one: no comments, no trailing commas, no byte-order mark, nothing after
the value, no leading zeros, no control characters in strings.
-/

namespace Backbeat.Json

inductive ReadFault where
  /-- The text ends inside the thing named. -/
  | ended (inside : String) (line column : Nat)
  /-- The character at this place cannot stand there. -/
  | unexpected (line column : Nat)

def ReadFault.message : ReadFault → String
  | .ended inside line column => s!"EOF while parsing {inside} at line {line} column {column}"
  | .unexpected line column => s!"unexpected character at line {line} column {column}"

/-! ## Numbers -/

/-- How far a number literal has been spelt. -/
inductive NumberPart where
  | start
  | minus
  | zero
  | whole
  | point
  | fraction
  | mark
  | markSign
  | exponent
deriving DecidableEq

/-- Spell one more character of a number literal. -/
def NumberPart.step (part : NumberPart) (character : Char) : Option NumberPart :=
  let digit := character.isDigit
  match part with
  | .start =>
    if character = '-' then some .minus
    else if character = '0' then some .zero
    else if digit then some .whole
    else none
  | .minus => if character = '0' then some .zero else if digit then some .whole else none
  | .zero => afterWhole
  | .whole => if digit then some .whole else afterWhole
  | .point => if digit then some .fraction else none
  | .fraction => if digit then some .fraction else afterFraction
  | .mark =>
    if character = '+' ∨ character = '-' then some .markSign
    else if digit then some .exponent
    else none
  | .markSign => if digit then some .exponent else none
  | .exponent => if digit then some .exponent else none
where
  afterFraction : Option NumberPart :=
    if character = 'e' ∨ character = 'E' then some .mark else none
  afterWhole : Option NumberPart :=
    if character = '.' then some .point else afterFraction

def number? (literal : List Char) : Option Json :=
  match literal.foldlM NumberPart.step NumberPart.start with
  | some .zero =>
    if literal.head? = some '-' then some (.decimal "-0") else some (.int 0)
  | some .whole =>
    match literal with
    | '-' :: digits => some (.int (-Int.ofNat (Nat.ofDigitChars 10 digits 0)))
    | digits => some (.nat (Nat.ofDigitChars 10 digits 0))
  | some .fraction | some .exponent => some (.decimal (String.ofList literal))
  | _ => none

/-- The value of a bare word: a number or one of the three names. -/
def bareWord? (letters : List Char) : Option Json :=
  if letters = "null".toList then some .null
  else if letters = "true".toList then some (.bool true)
  else if letters = "false".toList then some (.bool false)
  else number? letters

/-! ## Strings -/

/-- A string literal part way through: its characters in reverse, the first half of a surrogate
pair that still waits for the second, and whether it already denotes no text. -/
structure Spelling where
  reversed : List Char := []
  half : Option Nat := none
  hopeless : Bool := false

def Spelling.push (spelling : Spelling) (character : Char) : Spelling :=
  { reversed := character :: spelling.reversed
    hopeless := spelling.hopeless || spelling.half.isSome }

def Spelling.pushUnit (spelling : Spelling) (unit : Nat) : Spelling :=
  if 0xDC00 ≤ unit ∧ unit ≤ 0xDFFF then
    match spelling.half with
    | some high =>
      { spelling with
        reversed :=
          Char.ofNat (0x10000 + (high - 0xD800) * 0x400 + (unit - 0xDC00)) :: spelling.reversed
        half := none }
    | none => { spelling with hopeless := true }
  else if 0xD800 ≤ unit ∧ unit ≤ 0xDBFF then
    { spelling with half := some unit, hopeless := spelling.hopeless || spelling.half.isSome }
  else
    spelling.push (Char.ofNat unit)

/-- The text of a finished literal, if it denotes one. -/
def Spelling.text? (spelling : Spelling) : Option String :=
  if spelling.hopeless || spelling.half.isSome then none
  else some (String.ofList spelling.reversed.reverse)

/-- The character that an escape of one letter stands for. -/
def escaped? : Char → Option Char
  | '"' => some '"'
  | '\\' => some '\\'
  | '/' => some '/'
  | 'b' => some (Char.ofNat 8)
  | 'f' => some (Char.ofNat 12)
  | 'n' => some '\n'
  | 'r' => some '\r'
  | 't' => some '\t'
  | _ => none

/-! ## The machine -/

inductive Lexeme where
  | between
  | word (reversed : List Char)
  | text (spelling : Spelling)
  | escape (spelling : Spelling)
  | unit (spelling : Spelling) (digitsLeft : Nat) (value : Nat)

/-- A container that is still open, with what it holds so far in reverse. -/
inductive Frame where
  | items (before : List Json)
  | members (before : List (String × Json)) (readable : Bool) (name : Option String)

inductive Awaiting where
  | value
  | firstItem
  | firstName
  | name
  | colon
  | next
  | nothing (whole : Json)

structure Reader where
  lexeme : Lexeme := .between
  awaiting : Awaiting := .value
  stack : List Frame := []
  line : Nat := 1
  column : Nat := 0

namespace Reader

/-- The blanks that may stand between the parts of a value. -/
def isSpace (character : Char) : Bool :=
  character == ' ' || character == '\n' || character == '\t' || character == '\r'

def isWordPart (character : Char) : Bool :=
  character.isAlphanum || character == '+' || character == '-' || character == '.'

/-- Put a finished value where it belongs. -/
def place (reader : Reader) (value : Json) : Reader :=
  match reader.stack with
  | [] => { reader with awaiting := .nothing value }
  | .items before :: rest =>
    { reader with awaiting := .next, stack := .items (value :: before) :: rest }
  | .members before readable (some name) :: rest =>
    { reader with
      awaiting := .next
      stack := .members ((name, value) :: before) readable none :: rest }
  | .members before _ none :: rest =>
    { reader with awaiting := .next, stack := .members before false none :: rest }

def takeScalar (reader : Reader) (value : Json) : Option Reader :=
  match reader.awaiting with
  | .value | .firstItem => some (reader.place value)
  | _ => none

/-- Take a finished string, which is a value or a name. -/
def takeText (reader : Reader) (text : Option String) : Option Reader :=
  match reader.awaiting, reader.stack with
  | .firstName, .members before readable _ :: rest | .name, .members before readable _ :: rest =>
    some { reader with awaiting := .colon, stack := .members before readable text :: rest }
  | _, _ =>
    match text with
    | some content => reader.takeScalar (.str content)
    | none => reader.takeScalar .unreadable

def close (reader : Reader) (bracket : Char) : Option Reader :=
  match reader.awaiting, reader.stack with
  | .firstItem, .items before :: rest | .next, .items before :: rest =>
    if bracket = ']' then some ({ reader with stack := rest }.place (.arr before.reverse)) else none
  | .firstName, .members before readable _ :: rest | .next, .members before readable _ :: rest =>
    if bracket = '}' then
      let value := if readable then .obj before.reverse else .unreadable
      some ({ reader with stack := rest }.place value)
    else
      none
  | _, _ => none

/-- Take a character between two lexemes. -/
def takeMark (reader : Reader) (character : Char) : Option Reader :=
  if isSpace character then some reader
  else if character = '"' then some { reader with lexeme := .text {} }
  else if isWordPart character then some { reader with lexeme := .word [character] }
  else
    match character, reader.awaiting, reader.stack with
    | '[', .value, _ | '[', .firstItem, _ =>
      some { reader with awaiting := .firstItem, stack := .items [] :: reader.stack }
    | '{', .value, _ | '{', .firstItem, _ =>
      some { reader with awaiting := .firstName, stack := .members [] true none :: reader.stack }
    | ':', .colon, _ => some { reader with awaiting := .value }
    | ',', .next, .items _ :: _ => some { reader with awaiting := .value }
    | ',', .next, .members .. :: _ => some { reader with awaiting := .name }
    | bracket, _, _ => reader.close bracket

/-- Finish the lexeme that is being spelt, if one is, as the end of a bare word. -/
def endWord (reader : Reader) : Option Reader :=
  match reader.lexeme with
  | .word reversed =>
    match bareWord? reversed.reverse with
    | some value => { reader with lexeme := .between }.takeScalar value
    | none => none
  | _ => some reader

def take (reader : Reader) (character : Char) : Option Reader :=
  match reader.lexeme with
  | .between => reader.takeMark character
  | .word reversed =>
    if isWordPart character then some { reader with lexeme := .word (character :: reversed) }
    else
      match reader.endWord with
      | some ended => ended.takeMark character
      | none => none
  | .text spelling =>
    if character = '"' then { reader with lexeme := .between }.takeText spelling.text?
    else if character = '\\' then some { reader with lexeme := .escape spelling }
    else if character.toNat < 0x20 then none
    else some { reader with lexeme := .text (spelling.push character) }
  | .escape spelling =>
    if character = 'u' then some { reader with lexeme := .unit spelling 4 0 }
    else
      match escaped? character with
      | some plain => some { reader with lexeme := .text (spelling.push plain) }
      | none => none
  | .unit spelling digitsLeft value =>
    match Text.hexValue? character with
    | none => none
    | some digit =>
      let grown := 16 * value + digit
      if digitsLeft ≤ 1 then some { reader with lexeme := .text (spelling.pushUnit grown) }
      else some { reader with lexeme := .unit spelling (digitsLeft - 1) grown }

def advance (reader : Reader) (character : Char) : Reader :=
  if character = '\n' then { reader with line := reader.line + 1, column := 0 }
  else { reader with column := reader.column + 1 }

/-- What the end of the text would cut short. -/
def inside (reader : Reader) : String :=
  match reader.lexeme, reader.awaiting, reader.stack with
  | .text _, _, _ | .escape _, _, _ | .unit .., _, _ => "a string"
  | _, .value, _ => "a value"
  | _, _, .items _ :: _ => "a list"
  | _, _, _ => "an object"

def finish (reader : Reader) : Except ReadFault Json :=
  match reader.endWord with
  | none => .error (.unexpected reader.line reader.column)
  | some ended =>
    match ended.lexeme, ended.awaiting with
    | .between, .nothing value => .ok value
    | _, _ => .error (.ended ended.inside ended.line ended.column)

def takeAll (reader : Reader) : List Char → Except ReadFault Json
  | [] => reader.finish
  | character :: rest =>
    match reader.take character with
    | some after => (after.advance character).takeAll rest
    | none =>
      let place := reader.advance character
      .error (.unexpected place.line place.column)

end Reader

def read (text : String) : Except ReadFault Json :=
  ({} : Reader).takeAll text.toList

end Backbeat.Json
