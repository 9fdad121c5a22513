/-!
# SHA-256

The hash of a message is computed on blocks of sixty-four bytes over eight words of thirty-two
bits.  The message is followed by one bit, by zeros, and by its length in bits, so that whole
blocks come out.
-/

namespace Backbeat.Digest

namespace Sha256

/-- The eight words that the blocks of a message are mixed into. -/
structure HashState where
  a : UInt32
  b : UInt32
  c : UInt32
  d : UInt32
  e : UInt32
  f : UInt32
  g : UInt32
  h : UInt32

def blockSize : Nat := 64

/-- The fractional parts of the square roots of the first eight primes. -/
def start : HashState :=
  ⟨0x6a09e667, 0xbb67ae85, 0x3c6ef372, 0xa54ff53a, 0x510e527f, 0x9b05688c, 0x1f83d9ab, 0x5be0cd19⟩

/-- The fractional parts of the cube roots of the first sixty-four primes. -/
def roundConstants : Array UInt32 :=
  #[0x428a2f98, 0x71374491, 0xb5c0fbcf, 0xe9b5dba5, 0x3956c25b, 0x59f111f1, 0x923f82a4, 0xab1c5ed5,
    0xd807aa98, 0x12835b01, 0x243185be, 0x550c7dc3, 0x72be5d74, 0x80deb1fe, 0x9bdc06a7, 0xc19bf174,
    0xe49b69c1, 0xefbe4786, 0x0fc19dc6, 0x240ca1cc, 0x2de92c6f, 0x4a7484aa, 0x5cb0a9dc, 0x76f988da,
    0x983e5152, 0xa831c66d, 0xb00327c8, 0xbf597fc7, 0xc6e00bf3, 0xd5a79147, 0x06ca6351, 0x14292967,
    0x27b70a85, 0x2e1b2138, 0x4d2c6dfc, 0x53380d13, 0x650a7354, 0x766a0abb, 0x81c2c92e, 0x92722c85,
    0xa2bfe8a1, 0xa81a664b, 0xc24b8b70, 0xc76c51a3, 0xd192e819, 0xd6990624, 0xf40e3585, 0x106aa070,
    0x19a4c116, 0x1e376c08, 0x2748774c, 0x34b0bcb5, 0x391c0cb3, 0x4ed8aa4a, 0x5b9cca4f, 0x682e6ff3,
    0x748f82ee, 0x78a5636f, 0x84c87814, 0x8cc70208, 0x90befffa, 0xa4506ceb, 0xbef9a3f7, 0xc67178f2]

/-- The word with its bits turned to the right; the amount is between one and thirty-one. -/
@[inline]
def rotateRight (word amount : UInt32) : UInt32 :=
  (word >>> amount) ||| (word <<< (32 - amount))

/-- The word of four bytes at a place of a message, the most significant byte first. -/
def wordAt (message : ByteArray) (place : Nat) : UInt32 :=
  let octet := fun shift => ((message[place + shift]?).getD 0).toUInt32
  (octet 0 <<< 24) ||| (octet 1 <<< 16) ||| (octet 2 <<< 8) ||| octet 3

/-- The word of the message schedule that follows the words so far. -/
def nextWord (words : Array UInt32) (index : Nat) : UInt32 :=
  let before := fun distance => (words[index - distance]?).getD 0
  let small0 := fun word => rotateRight word 7 ^^^ rotateRight word 18 ^^^ (word >>> 3)
  let small1 := fun word => rotateRight word 17 ^^^ rotateRight word 19 ^^^ (word >>> 10)
  small1 (before 2) + before 7 + small0 (before 15) + before 16

/-- The sixty-four words that the block at a place of a message is mixed in as. -/
def schedule (message : ByteArray) (place : Nat) : Array UInt32 :=
  let first := Nat.fold 16 (fun index _ words => words.push (wordAt message (place + 4 * index)))
    (Array.mkEmpty 64)
  Nat.fold 48 (fun index _ words => words.push (nextWord words (index + 16))) first

def round (state : HashState) (constant word : UInt32) : HashState :=
  let ⟨a, b, c, d, e, f, g, h⟩ := state
  let big1 := rotateRight e 6 ^^^ rotateRight e 11 ^^^ rotateRight e 25
  let choice := (e &&& f) ^^^ (~~~e &&& g)
  let first := h + big1 + choice + constant + word
  let big0 := rotateRight a 2 ^^^ rotateRight a 13 ^^^ rotateRight a 22
  let majority := (a &&& b) ^^^ (a &&& c) ^^^ (b &&& c)
  ⟨first + (big0 + majority), a, b, c, d + first, e, f, g⟩

/-- Mix the block at a place of a message into a state. -/
def mixBlock (state : HashState) (message : ByteArray) (place : Nat) : HashState :=
  let words := schedule message place
  let mixed := Nat.fold 64
    (fun index _ state =>
      round state ((roundConstants[index]?).getD 0) ((words[index]?).getD 0)) state
  ⟨state.a + mixed.a, state.b + mixed.b, state.c + mixed.c, state.d + mixed.d,
    state.e + mixed.e, state.f + mixed.f, state.g + mixed.g, state.h + mixed.h⟩

/-- The bytes of a number, the most significant first. -/
def bigEndian : (count : Nat) → (value : Nat) → List UInt8
  | 0, _ => []
  | count + 1, value => bigEndian count (value / 256) ++ [UInt8.ofNat value]

/-- What follows a message of a length to fill its last block. -/
def padding (length : Nat) : ByteArray :=
  let zeros := (2 * blockSize - 9 - length % blockSize) % blockSize
  (0x80 :: List.replicate zeros 0 ++ bigEndian 8 (8 * length)).toByteArray

def HashState.bytes (state : HashState) : ByteArray :=
  ([state.a, state.b, state.c, state.d, state.e, state.f, state.g, state.h].flatMap
    fun word => bigEndian 4 word.toNat).toByteArray

end Sha256

def sha256 (message : ByteArray) : ByteArray :=
  let whole := message ++ Sha256.padding message.size
  let mixed := Nat.fold (whole.size / Sha256.blockSize)
    (fun index _ state => Sha256.mixBlock state whole (Sha256.blockSize * index)) Sha256.start
  mixed.bytes

end Backbeat.Digest
