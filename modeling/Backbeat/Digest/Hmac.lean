import Backbeat.Digest.Sha256

/-!
# Keyed hashes

The tag of a message under a secret is the hash of the secret, masked in one way, followed by the
hash of the secret, masked in another way, and the message.  A secret longer than a block is
hashed first, and a shorter one is filled up with zeros.
-/

namespace Backbeat.Digest

def keyBlock (secret : ByteArray) : ByteArray :=
  let short := if Sha256.blockSize < secret.size then sha256 secret else secret
  short ++ (List.replicate (Sha256.blockSize - short.size) 0).toByteArray

def masked (mask : UInt8) (block : ByteArray) : ByteArray :=
  (block.data.toList.map (mask ^^^ ·)).toByteArray

def hmacSha256 (secret message : ByteArray) : ByteArray :=
  let key := keyBlock secret
  sha256 (masked 0x5C key ++ sha256 (masked 0x36 key ++ message))

end Backbeat.Digest
