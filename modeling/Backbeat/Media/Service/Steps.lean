import Backbeat.Media.Service

/-!
# The steps of opening an object

An object is opened in two steps: the store is asked for its size, and then for its bytes.  Others
may put objects between the two.
-/

namespace Backbeat

/-- A body that somebody offers to a store. -/
structure Offer where
  key : String
  contentType : String
  body : ByteStream

namespace Offer

variable {σ : Type} [ObjectStore σ]

/-- Put a body, whatever becomes of it. -/
def make (offer : Offer) : Action σ MediaError Unit :=
  (ObjectStore.put offer.key offer.contentType offer.body : Action σ MediaError _).regardless

def makeAll : List Offer → Action σ MediaError Unit
  | [] => pure ()
  | offer :: later => do
    offer.make
    makeAll later

end Offer

namespace MediaService

variable {σ : Type} [ObjectStore σ]

/-- What is left of opening an object once its size is known. -/
def fetch (key : String) (range : Option ByteRange) (head : ObjectHead) :
    Action σ MediaError OpenedMedia := do
  let span ← Action.ofExcept (range.mapM fun range =>
    (range.resolve head.size).mapError .invalidRange)
  let stream ← ObjectStore.getRange key span
  return { stream, contentType := head.contentType, total := head.size, span }

/-- Open an object while others put theirs between the two steps. -/
def openAmid (offers : List Offer) (key : String) (range : Option ByteRange) :
    Action σ MediaError OpenedMedia := do
  let head ← ObjectStore.stat key
  Offer.makeAll offers
  fetch key range head

theorem openMedia_eq (key : String) (range : Option ByteRange) :
    (openMedia key range : Action σ MediaError OpenedMedia) =
      ObjectStore.stat key >>= fetch key range := rfl

/-- When nobody puts anything, the two steps are in a row. -/
theorem openAmid_nil (key : String) (range : Option ByteRange) :
    (openAmid [] key range : Action σ MediaError OpenedMedia) = openMedia key range := rfl

end MediaService

end Backbeat
