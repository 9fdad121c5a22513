import Backbeat.Media.Error

/-!
# Size limits

Each kind of medium has a limit on the length that an upload may declare.  A body exactly at the
limit is accepted, and so is one whose length is declared as unknown, by a negative number.
-/

namespace Backbeat

def mebibyte : Nat := 1024 * 1024

structure SizeLimits where
  file : Nat := 50 * mebibyte
  archive : Nat := 500 * mebibyte
  image : Nat := 5 * mebibyte
deriving DecidableEq

namespace SizeLimits

def of (limits : SizeLimits) : MediaKind → Nat
  | .file => limits.file
  | .archive => limits.archive
  | .image => limits.image

/-- Refuse a declared length above the limit of its kind. -/
def check (limits : SizeLimits) (kind : MediaKind) (declared : Int) : Except MediaError Unit :=
  if 0 < declared ∧ (limits.of kind : Int) < declared then
    .error (.sizeExceeded kind declared (limits.of kind))
  else
    .ok ()

end SizeLimits

end Backbeat
