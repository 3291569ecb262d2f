import PackageSignature.PublicKey
import PackageSignature.Signing.Nonce
/-! Private keys and what they sign. -/

namespace PackageSignature.Signing

inductive PrivateKey where
  | ec (curve : Curve) (secret : Nat)
  | rsa (key : Rsa.PublicKey) (exponent : Nat)
deriving DecidableEq, Repr

namespace PrivateKey

def family : PrivateKey → KeyFamily
  | ec _ _ => .ec
  | rsa _ _ => .rsa

def name : PrivateKey → String
  | ec .p256 _ => "P256"
  | ec .p384 _ => "P384"
  | rsa _ _ => "Rsa"

def defaultAlgorithm : PrivateKey → SignatureAlgorithm
  | ec .p256 _ => .ecdsaSha256
  | ec .p384 _ => .ecdsaSha512
  | rsa _ _ => .rsaPkcs1Sha256

def publicKey? : PrivateKey → Option Bytes
  | ec curve secret => do
      let point ← curve.multiply? secret curve.generator
      let parameters : Der.Element := { tag := Der.Tag.objectId, content := curve.id.content }
      return SubjectKey.encode { id := SubjectKey.ecId, parameters := some parameters }
        (curve.encodePoint point)
  | rsa key _ =>
      some (SubjectKey.encode
        { id := SubjectKey.rsaId, parameters := some { tag := Der.Tag.null, content := [] } }
        key.toBytes)

def applyRsa (key : Rsa.PublicKey) (exponent : Nat) (block : Bytes) : Bytes :=
  Bytes.ofNatBE key.size (Modular.pow key.modulus (Bytes.toNatBE block) exponent)

def signPkcs1? (key : Rsa.PublicKey) (exponent : Nat) (digest : Digest) (hash : Bytes) :
    Option Bytes :=
  (Rsa.Pkcs1.pad? key.size digest hash).map (applyRsa key exponent)

def signPss? (key : Rsa.PublicKey) (exponent : Nat) (digest : Digest) (salt hash : Bytes) :
    Option Bytes :=
  (Rsa.Pss.pad? digest salt (key.bits - 1) hash).map (applyRsa key exponent)

def signEcdsa? (curve : Curve) (secret : Nat) (hash : Bytes) : Option Bytes := do
  let nonce ← nonce? curve secret hash
  return Ecdsa.encode (← Ecdsa.sign? curve secret nonce hash)

def salt? (randomness : Bytes) (length : Nat) : Option Bytes :=
  if length ≤ randomness.length then some (randomness.take length) else none

/-- The signature of a message, unless the key cannot be used with the algorithm. A
probabilistic padding takes its salt from the given bytes. -/
def sign? (privateKey : PrivateKey) (randomness : Bytes) (algorithm : SignatureAlgorithm)
    (message : Bytes) : Option Bytes :=
  let hash := algorithm.digest.hash message
  match privateKey, algorithm.scheme with
  | ec curve secret, .ecdsa => signEcdsa? curve secret hash
  | rsa key exponent, .pkcs1 => signPkcs1? key exponent algorithm.digest hash
  | rsa key exponent, .pss saltLength => do
      let salt ← salt? randomness saltLength
      signPss? key exponent algorithm.digest salt hash
  | _, _ => none

end PrivateKey

end PackageSignature.Signing
