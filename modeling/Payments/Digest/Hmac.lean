import Payments.Digest.Sha256

/-!
Keyed digests: HMAC over SHA-256, and digests as lower-case hexadecimal text.
-/

namespace Payments.Digest

def blockSize : Nat := 64

/-- The key filled up to a whole block; a longer key is replaced by its digest. -/
def blockKey (key : List UInt8) : List UInt8 :=
  let short := if blockSize < key.length then sha256 key else key
  short ++ List.replicate (blockSize - short.length) 0

def hmac (key message : List UInt8) : List UInt8 :=
  let inner := (blockKey key).map (· ^^^ 0x36)
  let outer := (blockKey key).map (· ^^^ 0x5c)
  sha256 (outer ++ sha256 (inner ++ message))

def hexDigit (n : Nat) : Char := if n < 10 then Char.ofNat (48 + n) else Char.ofNat (87 + n)

def hex (bytes : List UInt8) : List Char :=
  bytes.flatMap fun b => [hexDigit (b.toNat / 16), hexDigit (b.toNat % 16)]

end Payments.Digest
