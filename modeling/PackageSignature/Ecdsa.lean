import PackageSignature.Curve
import PackageSignature.Der.Value
/-! ECDSA over a hash that is computed already: what a signature is, how it is encoded,
and when it holds. -/

namespace PackageSignature

/-- A signature: two numbers between zero and the number of points, both excluded. -/
structure EcdsaSignature where
  r : Nat
  s : Nat
deriving DecidableEq, Repr

namespace Ecdsa

/-- The number that stands for a hash: its leftmost bytes, as many as a scalar has. A
shorter hash is taken whole. -/
def hashNumber (curve : Curve) (hash : Bytes) : Nat :=
  Bytes.toNatBE (hash.take curve.width)

def isScalar (curve : Curve) (n : Nat) : Bool :=
  1 ≤ n && n < curve.order

def readSignature : Der.Reader EcdsaSignature :=
  Der.Reader.sequence do
    let r ← Der.readNat
    let s ← Der.readNat
    return { r, s }

def decode? (curve : Curve) (encoded : Bytes) : Option EcdsaSignature :=
  (Der.Reader.complete readSignature encoded).filter (fun signature =>
    isScalar curve signature.r && isScalar curve signature.s)

def encode (signature : EcdsaSignature) : Bytes :=
  Der.encodeSequence [Der.encodeNat signature.r, Der.encodeNat signature.s]

def holds (curve : Curve) (key : Point) (hash : Bytes) (signature : EcdsaSignature) : Bool :=
  let n := curve.order
  let inverse := Modular.inverse n signature.s
  match curve.combine? (hashNumber curve hash * inverse % n) curve.generator
      (signature.r * inverse % n) key with
  | some point => point.x % n == signature.r
  | none => false

def sign? (curve : Curve) (secret nonce : Nat) (hash : Bytes) : Option EcdsaSignature := do
  let n := curve.order
  let point ← curve.multiply? nonce curve.generator
  let r := point.x % n
  let s := Modular.inverse n nonce * (hashNumber curve hash + r * secret) % n
  guard (r != 0 && s != 0)
  return { r, s }

end Ecdsa

end PackageSignature
