/-!
# Faults of streams

A stream may break while it is read or written.  A fault says in which way, and carries a text.
-/

namespace Backbeat

inductive StreamFaultKind where
  | brokenPipe
  | connectionReset
  | connectionAborted
  | timedOut
  | unexpectedEnd
  | interrupted
  | notConnected
  | writeZero
  | other
deriving DecidableEq

namespace StreamFaultKind

def all : List StreamFaultKind :=
  [.brokenPipe, .connectionReset, .connectionAborted, .timedOut, .unexpectedEnd, .interrupted,
    .notConnected, .writeZero, .other]

def name : StreamFaultKind → String
  | .brokenPipe => "broken_pipe"
  | .connectionReset => "connection_reset"
  | .connectionAborted => "connection_aborted"
  | .timedOut => "timed_out"
  | .unexpectedEnd => "unexpected_eof"
  | .interrupted => "interrupted"
  | .notConnected => "not_connected"
  | .writeZero => "write_zero"
  | .other => "other"

def ofName? (name : String) : Option StreamFaultKind :=
  all.find? fun kind => kind.name == name

@[simp]
theorem ofName?_name (kind : StreamFaultKind) : ofName? kind.name = some kind := by
  cases kind <;> decide

end StreamFaultKind

structure StreamFault where
  kind : StreamFaultKind
  message : String
deriving DecidableEq

namespace StreamFault

/-- The fault of a write that took nothing. -/
def tookNothing : StreamFault :=
  ⟨.writeZero, "write zero"⟩

/-- Whether the other end has gone away. -/
def isDisconnect (fault : StreamFault) : Bool :=
  fault.kind == .brokenPipe || fault.kind == .connectionReset || fault.kind == .connectionAborted

end StreamFault

end Backbeat
