import Backbeat.Redis.Command

/-!
# Hosts of lists

The histories work with whoever answers their commands.  All that they know of that host is which
connections it grants and what it replies, so nothing else of a host is given here.
-/

namespace Backbeat.Redis

/-- A host in state `σ`: what becomes of an attempt to connect to a URL, and of a command that is
sent on a connection. -/
class Host (σ : Type) where
  openConnection : (url : String) → σ → Except String Nat × σ
  serve : (id : Nat) → Command → σ → Reply × σ

end Backbeat.Redis
