import Backbeat.Catalog.Filter.Query
import Backbeat.Text.Form

/-!
# Targets of requests

A target is a path and perhaps a query.  It may be given with a scheme and an authority before
the path and a fragment behind the query; neither plays a part.  Path and query are kept as they
were written, because signatures cover them in that form.
-/

namespace Backbeat.Web

structure Target where
  path : String
  query : Option String := none
deriving DecidableEq

namespace Target

/-- The part of a target behind its authority.  A target that begins with a slash has none. -/
def behindAuthority (text : List Char) : List Char :=
  if text.head? = some '/' then text
  else
    match text.dropWhile (· ≠ ':') with
    | ':' :: '/' :: '/' :: rest => rest.dropWhile fun character => character ≠ '/' ∧ character ≠ '?'
    | _ => text

/-- The target that a path and a query write, without a fragment. -/
def ofPathAndQuery (text : List Char) : Target :=
  let path := text.takeWhile (· ≠ '?')
  { path := if path.isEmpty then "/" else String.ofList path
    query :=
      match text.dropWhile (· ≠ '?') with
      | [] => none
      | _ :: query => some (String.ofList query) }

def ofText (text : String) : Target :=
  ofPathAndQuery (behindAuthority (text.toList.takeWhile (· ≠ '#')))

/-- The path and the query as they were written. -/
def url (target : Target) : String :=
  match target.query with
  | none => target.path
  | some query => target.path ++ "?" ++ query

/-- The segments of the path.  What stands before the first slash is the first one. -/
def segments (target : Target) : List String :=
  (target.path.toList.splitOn '/').map String.ofList

def parameters (target : Target) : Query :=
  .ofList (Text.Form.read (Text.Utf8.encode (target.query.getD "")))

end Target

/-- The text that a segment of a path encodes, if it is one. -/
def decodeSegment? (segment : String) : Option String :=
  Text.Utf8.decode? (Text.percentDecode (Text.Utf8.encode segment))

end Backbeat.Web
