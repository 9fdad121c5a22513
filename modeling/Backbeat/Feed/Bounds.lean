/-!
# The bounds of the feed

How long a user's history is, and how often a contended change is tried, unless said otherwise.
-/

namespace Backbeat

def defaultHistoryLength : Nat := 50

def defaultRetryBudget : Nat := 7

end Backbeat
