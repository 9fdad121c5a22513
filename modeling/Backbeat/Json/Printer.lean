import Backbeat.Json.Value
import Backbeat.Text.Hex

/-!
# Writing JSON

Values are written without any space.  Quotes, backslashes and control characters are escaped in
strings, and every other character stands for itself.  What denotes no value is written as null.
-/

namespace Backbeat.Json

def appendEscaped (written : String) (character : Char) : String :=
  if character = '"' then written ++ "\\\""
  else if character = '\\' then written ++ "\\\\"
  else if character = '\n' then written ++ "\\n"
  else if character = '\r' then written ++ "\\r"
  else if character = '\t' then written ++ "\\t"
  else if character.toNat < 0x20 then
    written ++ "\\u" ++ String.ofList (Text.writeHex 4 character.toNat)
  else written.push character

def appendText (written : String) (text : String) : String :=
  (text.toList.foldl appendEscaped (written.push '"')).push '"'

mutual

def append (written : String) : Json → String
  | .null => written ++ "null"
  | .bool true => written ++ "true"
  | .bool false => written ++ "false"
  | .int value => written ++ toString value
  | .decimal literal => written ++ literal
  | .str text => appendText written text
  | .arr items => (appendItems (written.push '[') true items).push ']'
  | .obj members => (appendMembers (written.push '{') true members).push '}'
  | .unreadable => written ++ "null"

def appendItems (written : String) (first : Bool) : List Json → String
  | [] => written
  | item :: rest =>
    appendItems (append (if first then written else written.push ',') item) false rest

def appendMembers (written : String) (first : Bool) : List (String × Json) → String
  | [] => written
  | (name, value) :: rest =>
    let named := (appendText (if first then written else written.push ',') name).push ':'
    appendMembers (append named value) false rest

end

def render (value : Json) : String :=
  append "" value

end Backbeat.Json
