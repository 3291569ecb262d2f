import PackageSignature.Curve
import PackageSignature.Digest
/-! Nonces of ECDSA that are derived from the private key and the hash: a
generator of bytes is seeded with both, and the first number that it yields in the
range of scalars is the nonce. The generator works with the hash function that goes
with the curve, whichever one the message was hashed with. -/

namespace PackageSignature.Signing

structure NonceGenerator where
  digest : Digest
  key : Bytes
  value : Bytes

namespace NonceGenerator

def stir (generator : NonceGenerator) (mark : UInt8) (seed : Bytes) : NonceGenerator :=
  let key := generator.digest.mac generator.key (generator.value ++ mark :: seed)
  { generator with key, value := generator.digest.mac key generator.value }

def start (digest : Digest) (seed : Bytes) : NonceGenerator :=
  let blank : NonceGenerator :=
    { digest, key := List.replicate digest.size 0x00, value := List.replicate digest.size 0x01 }
  (blank.stir 0x00 seed).stir 0x01 seed

def next (generator : NonceGenerator) : Bytes × NonceGenerator :=
  let value := generator.digest.mac generator.key generator.value
  (value, { generator with value }.stir 0x00 [])

def firstScalar? (curve : Curve) : Nat → NonceGenerator → Option Nat
  | 0, _ => none
  | fuel + 1, generator =>
      let (value, behind) := generator.next
      let candidate := Bytes.toNatBE (value.take curve.width)
      if 1 ≤ candidate ∧ candidate < curve.order then
        some candidate
      else
        firstScalar? curve fuel behind

end NonceGenerator

def nonceDigest : Curve → Digest
  | .p256 => .sha256
  | .p384 => .sha384

def scalarBytes (curve : Curve) (hash : Bytes) : Bytes :=
  Bytes.zeros (curve.width - hash.length) ++ hash.take curve.width

/-- How many values are tried. All of them fail for less than one in `2 ^ 2000` seeds. -/
def nonceAttempts : Nat := 64

def nonce? (curve : Curve) (secret : Nat) (hash : Bytes) : Option Nat :=
  NonceGenerator.firstScalar? curve nonceAttempts
    (NonceGenerator.start (nonceDigest curve)
      (Bytes.ofNatBE curve.width secret ++ scalarBytes curve hash))

end PackageSignature.Signing
