import PackageSignature.Algorithm
import PackageSignature.Ecdsa
import PackageSignature.Rsa.Pkcs1
import PackageSignature.Rsa.Pss
import PackageSignature.SubjectKey
import PackageSignature.Certificate
/-! Public keys, and the primitives that keys and signatures are made of. What is done
with a key depends on the primitives only through what they decode and accept, so
the checks of a signature are stated for any primitives; one instance of them is the
standard one. -/

namespace PackageSignature

inductive KeyFault where
  | undecodable (words : String)
  | otherAlgorithm (family : KeyFamily) (id : Der.ObjectId)
  | unaligned
  | badPair (words : String)
  | refusedPair (error : Rsa.KeyError)
  | missingCurve (words : String)
  | otherCurve (id : Der.ObjectId)
  | badPoint (curve : Curve) (words : String)
  | otherKind (algorithm : SignatureAlgorithm)
deriving DecidableEq, Repr

namespace KeyFault

def message : KeyFault → String
  | undecodable words => words
  | otherAlgorithm .rsa id => s!"not an RSA key (algorithm {id.text})"
  | otherAlgorithm .ec id => s!"not an EC key (algorithm {id.text})"
  | unaligned => "unaligned key bit string"
  | badPair words => s!"bad PKCS#1 public key: {words}"
  | refusedPair error => error.message
  | missingCurve words => s!"missing curve parameters: {words}"
  | otherCurve id => s!"unsupported curve {id.text}"
  | badPoint curve words => s!"bad {curve.name} public key: {words}"
  | otherKind algorithm => s!"key type does not match {algorithm.name}"

end KeyFault

inductive PublicKey where
  | rsa (key : Rsa.PublicKey)
  | ec (curve : Curve) (point : Point)
deriving DecidableEq, Repr

/-- What keys, signatures and certificates are made of. Each decoder fails with words
that tell why. -/
structure Primitives where
  /-- Decodes a public key whose meaning is left open. -/
  subjectKey : Bytes → Except String SubjectKey
  rsaPair : Bytes → Except String Rsa.PublicKey
  point : Curve → SubjectKey → Except String Point
  pkcs1 : Rsa.PublicKey → Digest → Bytes → Bytes → Bool
  /-- Whether an RSA signature with probabilistic padding and a salt of the given
  length holds for a hash. -/
  pss : Rsa.PublicKey → Digest → Nat → Bytes → Bytes → Bool
  /-- Whether an ECDSA signature holds for a hash; one that is not decodable is told
  apart from one that does not hold. -/
  ecdsa : Curve → Point → Bytes → Bytes → Except String Bool
  certificate : Bytes → Except String Certificate

namespace Primitives

def malformed : String := "malformed encoding"

def orMalformed {α : Type} (value : Option α) : Except String α :=
  match value with
  | some value => .ok value
  | none => .error malformed

def standard : Primitives where
  subjectKey encoded := orMalformed (SubjectKey.decode? encoded)
  rsaPair encoded := orMalformed (Rsa.PublicKey.decode? encoded)
  point curve key := orMalformed (key.key.whole?.bind curve.decodePoint?)
  pkcs1 key digest hash signature := Rsa.Pkcs1.holds key digest hash signature
  pss key digest saltLength hash signature := Rsa.Pss.holds key digest saltLength hash signature
  ecdsa curve point hash signature :=
    (orMalformed (Ecdsa.decode? curve signature)).map (Ecdsa.holds curve point hash)
  certificate encoded := orMalformed (Certificate.decode? encoded)

end Primitives

namespace Curve

def id : Curve → Der.ObjectId
  | p256 => Der.ObjectId.ofArcs [1, 2, 840, 10045, 3, 1, 7]
  | p384 => Der.ObjectId.ofArcs [1, 3, 132, 0, 34]

def ofId? (id : Der.ObjectId) : Option Curve :=
  [p256, p384].find? (fun curve => curve.id == id)

end Curve

namespace PublicKey

def ofRsaKey (primitives : Primitives) (key : SubjectKey) : Except KeyFault PublicKey :=
  if key.algorithm.id ≠ SubjectKey.rsaId then
    .error (.otherAlgorithm .rsa key.algorithm.id)
  else
    match key.key.whole? with
    | none => .error .unaligned
    | some bytes =>
        match primitives.rsaPair bytes with
        | .error words => .error (.badPair words)
        | .ok pair =>
            match pair.check with
            | .error error => .error (.refusedPair error)
            | .ok checked => .ok (.rsa checked)

def ofEcKey (primitives : Primitives) (key : SubjectKey) : Except KeyFault PublicKey :=
  if key.algorithm.id ≠ SubjectKey.ecId then
    .error (.otherAlgorithm .ec key.algorithm.id)
  else
    match key.algorithm.parameterId? with
    | none => .error (.missingCurve Primitives.malformed)
    | some id =>
        match Curve.ofId? id with
        | none => .error (.otherCurve id)
        | some curve =>
            match primitives.point curve key with
            | .error words => .error (.badPoint curve words)
            | .ok point => .ok (.ec curve point)

def decode (primitives : Primitives) (family : KeyFamily) (encoded : Bytes) :
    Except KeyFault PublicKey :=
  match primitives.subjectKey encoded with
  | .error words => .error (.undecodable words)
  | .ok key =>
      match family with
      | .rsa => ofRsaKey primitives key
      | .ec => ofEcKey primitives key

end PublicKey

end PackageSignature
