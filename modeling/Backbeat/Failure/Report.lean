import Backbeat.Failure

/-!
# Reports

A report says what went wrong and why: it is a chain of links, the outermost first, each caused by
the next.  A link is a failure, a plain text, or the context that a text adds to what it wraps.

Whatever is reported, a client is told of one failure.  `normalized` looks for it under the
contexts only; `shown` looks along the whole chain.
-/

namespace Backbeat

inductive Link where
  | context (text : String)
  | plain (text : String)
  | failure (failure : Failure)

def Link.text : Link → String
  | .context words => words
  | .plain words => words
  | .failure told => told.text

/-- A chain of links, the outermost first. -/
structure Report where
  outer : Link
  causes : List Link := []

namespace Report

def links (report : Report) : List Link :=
  report.outer :: report.causes

def text (report : Report) : String :=
  report.outer.text

def chainText (report : Report) : String :=
  ": ".intercalate (report.links.map Link.text)

def ofText (text : String) : Report :=
  { outer := .plain text }

def ofFailure (failure : Failure) : Report :=
  { outer := .failure failure }

def causedBy (failure : Failure) (cause : Report) : Report :=
  { outer := .failure failure, causes := cause.links }

def inContext (report : Report) (text : String) : Report :=
  { outer := .context text, causes := report.links }

/-- The report with texts wrapped around it, the first innermost. -/
def inContexts (report : Report) (texts : List String) : Report :=
  texts.foldl inContext report

/-- What caused the outermost link, if anything did. -/
def cause? (report : Report) : Option Report :=
  match report.causes with
  | [] => none
  | next :: rest => some { outer := next, causes := rest }

/-- The failure that a chain begins with under its contexts, and the links behind it. -/
def underContexts : List Link → Option (Failure × List Link)
  | .context _ :: rest => underContexts rest
  | .failure failure :: rest => some (failure, rest)
  | _ => none

/-- A general failure in place of a report that has none. -/
def general (report : Report) : Failure :=
  { kind := .general, message := report.text }

/-- The failure under the contexts of a report with its causes, or else a general failure that
the whole report caused. -/
def normalized (report : Report) : Report :=
  match underContexts report.links with
  | some (failure, rest) => { outer := .failure failure, causes := rest }
  | none => causedBy report.general report

/-- The failure at the head of a report, if it has one there. -/
def failure? (report : Report) : Option Failure :=
  match report.outer with
  | .failure failure => some failure
  | _ => none

def firstFailure? (links : List Link) : Option Failure :=
  links.findSome? fun link =>
    match link with
    | .failure failure => some failure
    | _ => none

/-- The failure that a client is shown: the first one of the chain, or else a general one, in the
form in which it may be seen. -/
def shown (report : Report) : Failure :=
  ((firstFailure? report.links).getD report.general).sanitized

end Report

end Backbeat
