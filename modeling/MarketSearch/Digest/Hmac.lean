/-
Keyed digests: the digest of a message under a secret.

The key, as it is or by its own digest if it is longer than a block, is filled
up with zeros to a block; the message is digested behind one mask of it and
the result behind another.
-/
import MarketSearch.Digest.Sha256

namespace MarketSearch
namespace Hmac

/-- The key as one block. -/
def keyBlock (key : Bytes) : Bytes :=
  let k := if Sha256.blockSize < key.length then Sha256.digest key else key
  k ++ List.replicate (Sha256.blockSize - k.length) 0

def mask (m : UInt8) (block : Bytes) : Bytes := block.map (· ^^^ m)

def sha256 (key message : Bytes) : Bytes :=
  let k := keyBlock key
  Sha256.digest (mask 0x5c k ++ Sha256.digest (mask 0x36 k ++ message))

end Hmac
end MarketSearch
