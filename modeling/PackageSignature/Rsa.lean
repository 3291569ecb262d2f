import PackageSignature.Arithmetic.Modular
import PackageSignature.Digest
import PackageSignature.Der.Value
/-! RSA keys and the limits they have to keep. -/

namespace PackageSignature.Rsa

structure PublicKey where
  modulus : Nat
  exponent : Nat
deriving DecidableEq, Repr

inductive KeyError where
  | modulusTooLarge
  | invalidModulus
  | invalidExponent
  | exponentTooSmall
  | exponentTooLarge
deriving DecidableEq, Repr

namespace KeyError

def message : KeyError → String
  | modulusTooLarge => "modulus too large"
  | invalidModulus => "invalid modulus"
  | invalidExponent => "invalid exponent"
  | exponentTooSmall => "public exponent too small"
  | exponentTooLarge => "public exponent too large"

end KeyError

namespace PublicKey

def maxBits : Nat := 16384

def maxExponent : Nat := 0x1ffffffff

def bits (key : PublicKey) : Nat :=
  if key.modulus = 0 then 0 else key.modulus.log2 + 1

def size (key : PublicKey) : Nat :=
  Bytes.widthOf key.modulus

/-- The key, if it keeps the limits. An exponent that no machine word holds is refused
before the two numbers are compared. -/
def check (key : PublicKey) : Except KeyError PublicKey :=
  if maxBits < key.bits then .error .modulusTooLarge
  else if 0x10000000000000000 ≤ key.exponent then .error .exponentTooLarge
  else if key.modulus ≤ key.exponent ∨ key.modulus % 2 = 0 then .error .invalidModulus
  else if key.exponent % 2 = 0 then .error .invalidExponent
  else if key.exponent < 2 then .error .exponentTooSmall
  else if maxExponent < key.exponent then .error .exponentTooLarge
  else .ok key

def decode? (encoded : Bytes) : Option PublicKey :=
  Der.Reader.complete (Der.Reader.sequence do
    let modulus ← Der.readNat
    let exponent ← Der.readNat
    return { modulus, exponent }) encoded

def toBytes (key : PublicKey) : Bytes :=
  Der.encodeSequence [Der.encodeNat key.modulus, Der.encodeNat key.exponent]

def apply (key : PublicKey) (n : Nat) : Nat :=
  Modular.pow key.modulus (n % key.modulus) key.exponent

end PublicKey

end PackageSignature.Rsa
