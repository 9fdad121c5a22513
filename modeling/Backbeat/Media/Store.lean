import Backbeat.Data.Action
import Backbeat.Media.Error
import Backbeat.Media.Stream

/-!
# Object stores

An object store keeps byte strings with a content type under keys.  This module says what the
media paths ask of one.
-/

namespace Backbeat

structure ObjectHead where
  size : Nat
  contentType : String
deriving DecidableEq

/-- What a store says of an object it has taken. -/
structure PutReceipt where
  etag : Option String
  size : Nat
deriving DecidableEq

/-- What can be asked of an object store in state `σ`. -/
class ObjectStore (σ : Type) where
  /-- The size and content type of the object under a key. -/
  stat : String → Action σ MediaError ObjectHead
  /-- The bytes of an object, or those of a span of it. -/
  getRange : String → Option Span → Action σ MediaError ByteStream
  /-- Keep a body under a key, in place of what is there. -/
  put : (key contentType : String) → ByteStream → Action σ MediaError PutReceipt
  /-- A URL that fetches an object for so many seconds. -/
  presignGet : String → (seconds : Nat) → Action σ MediaError String

end Backbeat
