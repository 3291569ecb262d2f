import PackageSignature.Proofs.Verification.Stages
import PackageSignature.Signing.EnvelopeDraft

/-! Keys that sign and keys that verify. The two sides choose hash, padding and curve by
themselves, each from the algorithm, and they choose alike: where the primitives accept what
the matching operation made, a signature is accepted by the very key that is published. -/

namespace PackageSignature

open Signing
open Signing.PrivateKey (signPkcs1? signPss? signEcdsa?)

theorem SignatureAlgorithm.family_eq (algorithm : SignatureAlgorithm) :
    algorithm.family = if algorithm.scheme = .ecdsa then .ec else .rsa := by
  cases algorithm <;> rfl

namespace SubjectKey

def ofBytes (algorithm : AlgorithmId) (bytes : Bytes) : SubjectKey where
  algorithm := algorithm
  key := { unused := 0, bytes }

def rsaAlgorithm : AlgorithmId where
  id := rsaId
  parameters := some { tag := Der.Tag.null, content := [] }

def ecAlgorithm (curve : Curve) : AlgorithmId where
  id := ecId
  parameters := some { tag := Der.Tag.objectId, content := curve.id.content }

theorem parameterId?_ecAlgorithm (curve : Curve) :
    (ecAlgorithm curve).parameterId? = some curve.id := by
  cases curve <;> decide +kernel

end SubjectKey

theorem Curve.ofId?_id (curve : Curve) : Curve.ofId? curve.id = some curve := by
  cases curve <;> decide +kernel

theorem Signing.PrivateKey.length_of_salt {randomness salt : Bytes} {length : Nat}
    (salted : salt? randomness length = some salt) : salt.length = length := by
  obtain ⟨enough, same⟩ := Option.ite_none_right_eq_some.mp salted
  cases same
  rw [List.length_take]
  exact Nat.min_eq_left enough

namespace PublicKey

variable {primitives : Primitives}

theorem ofRsaKey_ofBytes {key : Rsa.PublicKey}
    (pair : primitives.rsaPair key.toBytes = .ok key) (limits : key.check = .ok key) :
    ofRsaKey primitives (SubjectKey.ofBytes SubjectKey.rsaAlgorithm key.toBytes) =
      .ok (.rsa key) := by
  let subject := SubjectKey.ofBytes SubjectKey.rsaAlgorithm key.toBytes
  have named : ¬ subject.algorithm.id ≠ SubjectKey.rsaId := fun different => different rfl
  have whole : subject.key.whole? = some key.toBytes := rfl
  rw [ofRsaKey, if_neg named, whole]
  simp only [pair, limits]

theorem ofEcKey_ofBytes {curve : Curve} {point : Point} {bytes : Bytes}
    (read : primitives.point curve (SubjectKey.ofBytes (SubjectKey.ecAlgorithm curve) bytes) =
      .ok point) :
    ofEcKey primitives (SubjectKey.ofBytes (SubjectKey.ecAlgorithm curve) bytes) =
      .ok (.ec curve point) := by
  let subject := SubjectKey.ofBytes (SubjectKey.ecAlgorithm curve) bytes
  have named : ¬ subject.algorithm.id ≠ SubjectKey.ecId := fun different => different rfl
  have parameters : subject.algorithm.parameterId? = some curve.id :=
    SubjectKey.parameterId?_ecAlgorithm curve
  rw [ofEcKey, if_neg named, parameters]
  simp only [Curve.ofId?_id, read]

end PublicKey

/-- The primitives read what the private key publishes, and they accept what it signs. -/
inductive Primitives.Serves (primitives : Primitives) : PrivateKey → Prop
  | rsa {key : Rsa.PublicKey} {exponent : Nat}
      (read : primitives.subjectKey (SubjectKey.encode SubjectKey.rsaAlgorithm key.toBytes) =
        .ok (SubjectKey.ofBytes SubjectKey.rsaAlgorithm key.toBytes))
      (pair : primitives.rsaPair key.toBytes = .ok key)
      (limits : key.check = .ok key)
      (pkcs1 : ∀ digest hash signature,
        signPkcs1? key exponent digest hash = some signature →
          primitives.pkcs1 key digest hash signature = true)
      (pss : ∀ digest salt hash signature,
        signPss? key exponent digest salt hash = some signature →
          primitives.pss key digest salt.length hash signature = true) :
      Serves primitives (.rsa key exponent)
  | ec {curve : Curve} {secret : Nat} {point : Point}
      (multiplied : curve.multiply? secret curve.generator = some point)
      (read : primitives.subjectKey
          (SubjectKey.encode (SubjectKey.ecAlgorithm curve) (curve.encodePoint point)) =
        .ok (SubjectKey.ofBytes (SubjectKey.ecAlgorithm curve) (curve.encodePoint point)))
      (pointRead : primitives.point curve
          (SubjectKey.ofBytes (SubjectKey.ecAlgorithm curve) (curve.encodePoint point)) =
        .ok point)
      (ecdsa : ∀ hash signature, signEcdsa? curve secret hash = some signature →
        primitives.ecdsa curve point hash signature = .ok true) :
      Serves primitives (.ec curve secret)

def Signing.PrivateKey.verifyingKey? : PrivateKey → Option PublicKey
  | ec curve secret => (curve.multiply? secret curve.generator).map (.ec curve)
  | rsa key _ => some (.rsa key)

namespace Primitives.Serves

variable {primitives : Primitives} {privateKey : PrivateKey}

theorem decode_publicKey (served : primitives.Serves privateKey) {encoded : Bytes}
    (published : privateKey.publicKey? = some encoded) :
    ∃ key, privateKey.verifyingKey? = some key ∧
      PublicKey.decode primitives privateKey.family encoded = .ok key := by
  cases served with
  | @rsa key exponent read pair limits pkcs1 pss =>
      have decoded : PublicKey.decode primitives .rsa
          (SubjectKey.encode SubjectKey.rsaAlgorithm key.toBytes) = .ok (.rsa key) := by
        simp only [PublicKey.decode, read, PublicKey.ofRsaKey_ofBytes pair limits]
      cases published
      exact ⟨.rsa key, rfl, decoded⟩
  | @ec curve secret point multiplied read pointRead ecdsa =>
      have decoded : PublicKey.decode primitives .ec
          (SubjectKey.encode (SubjectKey.ecAlgorithm curve) (curve.encodePoint point)) =
            .ok (.ec curve point) := by
        simp only [PublicKey.decode, read, PublicKey.ofEcKey_ofBytes pointRead]
      rw [PrivateKey.publicKey?, multiplied] at published
      cases published
      exact ⟨.ec curve point, by rw [PrivateKey.verifyingKey?, multiplied, Option.map_some],
        decoded⟩

theorem accepts (served : primitives.Serves privateKey) {key : PublicKey}
    (verifying : privateKey.verifyingKey? = some key) {randomness : Bytes}
    {algorithm : SignatureAlgorithm} {message signature : Bytes}
    (signed : privateKey.sign? randomness algorithm message = some signature) :
    algorithm.family = privateKey.family ∧
      Verification.checkSignature primitives algorithm key message signature = .ok () := by
  cases served with
  | @rsa pair exponent read pairRead limits pkcs1 pss =>
      cases verifying
      cases scheme : algorithm.scheme with
      | pkcs1 =>
          simp only [PrivateKey.sign?, scheme] at signed
          have holds := pkcs1 _ _ _ signed
          refine ⟨by rw [algorithm.family_eq, scheme]; rfl, ?_⟩
          simp only [Verification.checkSignature, scheme, holds, if_true]
      | pss saltLength =>
          simp only [PrivateKey.sign?, scheme] at signed
          obtain ⟨salt, salted, signed⟩ := Option.bind_eq_some_iff.mp signed
          have holds := pss _ _ _ _ signed
          rw [PrivateKey.length_of_salt salted] at holds
          refine ⟨by rw [algorithm.family_eq, scheme]; rfl, ?_⟩
          simp only [Verification.checkSignature, scheme, holds, if_true]
      | ecdsa =>
          simp only [PrivateKey.sign?, scheme] at signed
          cases signed
  | @ec curve secret point multiplied read pointRead ecdsa =>
      rw [PrivateKey.verifyingKey?, multiplied] at verifying
      cases verifying
      cases scheme : algorithm.scheme with
      | ecdsa =>
          simp only [PrivateKey.sign?, scheme] at signed
          have holds := ecdsa _ _ signed
          refine ⟨by rw [algorithm.family_eq, scheme]; rfl, ?_⟩
          simp only [Verification.checkSignature, scheme, holds, if_true]
      | _ =>
          simp only [PrivateKey.sign?, scheme] at signed
          cases signed

end Primitives.Serves

namespace Signing.SigningKey

/-- The signing key is made of a private key that the primitives serve, and they read its
certificate, which carries the published key. -/
structure Certified (primitives : Primitives) (key : SigningKey) (certificate : Certificate) :
    Prop where
  made : ∃ privateKey validity randomness, primitives.Serves privateKey ∧
    privateKey.signingKey? validity randomness = some key
  read : primitives.certificate key.certificate = .ok certificate
  carries : certificate.subjectKey = key.publicKey

variable {primitives : Primitives} {key : SigningKey} {certificate : Certificate}

theorem Certified.accepts (certified : key.Certified primitives certificate)
    {algorithm : SignatureAlgorithm} {message signature : Bytes}
    (signed : key.sign? algorithm message = some signature) :
    ∃ verifying, PublicKey.decode primitives algorithm.family key.publicKey = .ok verifying ∧
      Verification.checkSignature primitives algorithm verifying message signature = .ok () := by
  obtain ⟨privateKey, validity, randomness, served, made⟩ := certified.made
  rw [PrivateKey.signingKey?] at made
  obtain ⟨publicKey, published, made⟩ := Option.bind_eq_some_iff.mp made
  obtain ⟨encoded, issued, made⟩ := Option.bind_eq_some_iff.mp made
  cases made
  obtain ⟨verifying, same, decoded⟩ := served.decode_publicKey published
  obtain ⟨family, accepted⟩ := served.accepts same signed
  rw [family]
  exact ⟨verifying, decoded, accepted⟩

end Signing.SigningKey

end PackageSignature
