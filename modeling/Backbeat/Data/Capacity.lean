import Backbeat.Data.Action
import Backbeat.Text.Integer

/-!
# Capacities

A buffer has room for at most as many bytes as a signed number of sixty-four bits can tell, and
asking for a larger one is a trap.  Bytes that went by are counted in an unsigned number of as many
bits, and a count that outgrows it is a trap as well.
-/

namespace Backbeat

/-- Get room for some bytes. -/
def allocate (size : Nat) : Checked Unit :=
  if size ≤ Text.maxSigned64 then .ok () else .error .capacityOverflow

/-- Count some bytes. -/
def countBytes (count : Nat) : Checked Unit :=
  if count ≤ Text.max64 then .ok () else .error .addOverflow

theorem allocate_of_le {size : Nat} (fits : size ≤ Text.maxSigned64) : allocate size = .ok () :=
  if_pos fits

theorem allocate_of_lt {size : Nat} (beyond : Text.maxSigned64 < size) :
    allocate size = .error .capacityOverflow :=
  if_neg (Nat.not_le_of_lt beyond)

theorem countBytes_of_le {count : Nat} (few : count ≤ Text.max64) : countBytes count = .ok () :=
  if_pos few

end Backbeat
