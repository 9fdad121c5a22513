import Backbeat.Media.Limits

/-!
# Settings of media delivery

How long issued URLs are good for, in seconds, how many bytes a chunk of a stream has, and how
large uploads may be.
-/

namespace Backbeat

def defaultChunkSize : Nat := 32 * 1024

structure MediaSettings where
  urlSeconds : Nat := 15 * 60
  chunkSize : Nat := defaultChunkSize
  limits : SizeLimits := {}

/-- The chunk size that is used: asking for no bytes is asking for the default. -/
def effectiveChunkSize (requested : Nat) : Nat :=
  if requested = 0 then defaultChunkSize else requested

theorem effectiveChunkSize_pos (requested : Nat) : 0 < effectiveChunkSize requested := by
  unfold effectiveChunkSize defaultChunkSize
  split <;> omega

end Backbeat
