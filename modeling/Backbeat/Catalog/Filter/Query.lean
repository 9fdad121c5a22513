import Backbeat.Catalog.Beat.Json
import Backbeat.Catalog.Filter
import Backbeat.Data.Table
import Backbeat.Failure
import Backbeat.Text.Integer

/-!
# Filters in a query

A filter is written in five query parameters: three lists separated by commas, a note as its name
and scale with a comma between, and a tempo.  Blanks around every piece are ignored, and a blank
parameter is as good as an absent one.  All problems with the parameters are reported together.
-/

namespace Backbeat

abbrev Query : Type := Table String String

namespace Filter

inductive QueryProblem where
  | noteForm
  | scaleName
  | bpmForm
  | bpmRange
deriving DecidableEq

namespace QueryProblem

def field : QueryProblem → String
  | .noteForm => "note"
  | .scaleName => "scale"
  | .bpmForm => "bpm"
  | .bpmRange => "bpm"

def message : QueryProblem → String
  | .noteForm => "must be in form note,scale"
  | .scaleName => Scale.expected
  | .bpmForm => "must be integer"
  | .bpmRange => "must be positive"

end QueryProblem

def problemsFailure (problems : List QueryProblem) : Failure where
  kind := .badRequest
  message := "Invalid feed filter"
  reason := some "ValidationFailed"
  details := some (.obj (problems.map fun problem => (problem.field, .strs [problem.message])))

/-- The pieces of a text between its commas, without the blanks around them. -/
def pieces (text : List Char) : List (List Char) :=
  (text.splitOn ',').map Text.trim

def entries (parameter : Option String) : List String :=
  match parameter with
  | none => []
  | some text => ((pieces text.toList).filter (! ·.isEmpty)).map String.ofList

/-- The text of a parameter without the blanks around it, unless it is blank or absent. -/
def filled? (parameter : Option String) : Option (List Char) :=
  parameter.bind fun text => Text.trimmed? text.toList

def readNote (parameter : Option String) : Except QueryProblem (Option Note) :=
  match filled? parameter with
  | none => .ok none
  | some text =>
    match pieces text with
    | [name, scale] =>
      if name.isEmpty then .error .noteForm
      else
        match Scale.ofText? scale with
        | some scale => .ok (some { name := String.ofList name, scale })
        | none => .error .scaleName
    | _ => .error .noteForm

def readBpm (parameter : Option String) : Except QueryProblem (Option UInt32) :=
  match filled? parameter with
  | none => .ok none
  | some text =>
    match Text.readSigned64 text with
    | .error _ => .error .bpmForm
    | .ok value =>
      if 1 ≤ value ∧ value ≤ Text.max32 then .ok (some (UInt32.ofNat value.toNat))
      else .error .bpmRange

/-- The filter of a query, or everything that is wrong with it. -/
def ofQuery (query : Query) : Except (List QueryProblem) Filter :=
  let lists : Filter :=
    { genres := entries (query.get? "genres")
      moods := entries (query.get? "moods")
      tags := entries (query.get? "tags") }
  match readNote (query.get? "note"), readBpm (query.get? "bpm") with
  | .ok note, .ok bpm => .ok { lists with note, bpm }
  | .ok _, .error bpm => .error [bpm]
  | .error note, .ok _ => .error [note]
  | .error note, .error bpm => .error [note, bpm]

/-! ## Writing -/

def writeEntries (entries : List String) : String :=
  ",".intercalate entries

def writeNote (note : Note) : String :=
  note.name ++ "," ++ note.scale.name

def toQuery (filter : Filter) : Query :=
  .ofList <|
    [("genres", writeEntries filter.genres), ("moods", writeEntries filter.moods),
      ("tags", writeEntries filter.tags)] ++
    (filter.note.map fun note => ("note", writeNote note)).toList ++
    (filter.bpm.map fun bpm => ("bpm", toString bpm.toNat)).toList

def toJson (filter : Filter) : Json :=
  .obj
    [("genres", .strs filter.genres), ("moods", .strs filter.moods), ("tags", .strs filter.tags),
      ("note", .orNull Note.toJson filter.note),
      ("bpm", .orNull (fun bpm => .nat bpm.toNat) filter.bpm)]

end Filter

end Backbeat
