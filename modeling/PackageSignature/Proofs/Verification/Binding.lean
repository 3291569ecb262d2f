import PackageSignature.Proofs.Record.SignedData
import PackageSignature.Proofs.Verification.Outcome

/-! A signature is bound to what was verified under it. Two accepted requests whose signers
carry the same key, algorithm and signature either agree in everything that is signed, or
the two messages rebuilt from them are different and the key accepts the one signature for
both. -/

namespace PackageSignature

namespace Verification

variable {primitives : Primitives} {request first second : Request}

/-- Two messages that the key accepts under one signature. -/
structure Forgery (primitives : Primitives) (algorithm : SignatureAlgorithm) (key : PublicKey)
    (signature message other : Bytes) : Prop where
  different : message ≠ other
  acceptsMessage : checkSignature primitives algorithm key message signature = .ok ()
  acceptsOther : checkSignature primitives algorithm key other signature = .ok ()

theorem exists_message {verified : VerifiedSigner}
    (accepted : request.outcome primitives = .ok verified) :
    ∃ hashing signer message algorithm key certificate,
      request.Selects hashing signer ∧
      SignedData.encode? request.fileSize hashing signer = some message ∧
      SignatureAlgorithm.ofId? signer.signatureAlgorithmId = some algorithm ∧
      PublicKey.decode primitives algorithm.family signer.publicKey = .ok key ∧
      checkSignature primitives algorithm key message signer.signature = .ok () ∧
      primitives.certificate signer.certificate = .ok certificate ∧
      verified =
        { certificates := [certificate]
          apkDigest := signer.apkDigest
          contentDigests := [(.verityChunkedSha256, hashing.rootHash)] } := by
  obtain ⟨records, passed, rfl⟩ := outcome_eq_ok_iff.mp accepted
  have selects := (passed.mono (by decide)).selects
  obtain ⟨-, -, -, -, rebuilt, resolved, keyDecoded, holds, certified, -, -⟩ :=
    passed_iff.mp passed
  exact ⟨records.hashing, records.signer, records.data, records.algorithm, records.key,
    records.certificate, selects, rebuilt, SignatureAlgorithm.ofId?_eq_some_iff.mpr resolved,
    keyDecoded, holds, certified, rfl⟩

/-- One signature vouches for one content, unless the key accepts it for two messages. -/
theorem agree_or_forgery {firstHashing secondHashing : HashingInfo}
    {firstSigner secondSigner : SigningInfo} {firstVerified secondVerified : VerifiedSigner}
    (firstAccepted : first.outcome primitives = .ok firstVerified)
    (secondAccepted : second.outcome primitives = .ok secondVerified)
    (firstSelects : first.Selects firstHashing firstSigner)
    (secondSelects : second.Selects secondHashing secondSigner)
    (sameKey : firstSigner.publicKey = secondSigner.publicKey)
    (sameAlgorithm : firstSigner.signatureAlgorithmId = secondSigner.signatureAlgorithmId)
    (sameSignature : firstSigner.signature = secondSigner.signature) :
    (first.fileSize = second.fileSize ∧ firstVerified = secondVerified ∧
      firstHashing = secondHashing ∧ firstSigner = secondSigner) ∨
    ∃ message other algorithm key,
      SignedData.encode? first.fileSize firstHashing firstSigner = some message ∧
      SignedData.encode? second.fileSize secondHashing secondSigner = some other ∧
      SignatureAlgorithm.ofId? firstSigner.signatureAlgorithmId = some algorithm ∧
      PublicKey.decode primitives algorithm.family firstSigner.publicKey = .ok key ∧
      Forgery primitives algorithm key firstSigner.signature message other := by
  obtain ⟨hashing, signer, message, algorithm, key, certificate, selects, rebuilt, resolved,
    keyDecoded, holds, certified, rfl⟩ := exists_message firstAccepted
  obtain ⟨otherHashing, otherSigner, other, otherAlgorithm, otherKey, otherCertificate,
    otherSelects, otherRebuilt, otherResolved, otherKeyDecoded, otherHolds, otherCertified,
    rfl⟩ := exists_message secondAccepted
  obtain ⟨rfl, rfl⟩ := selects.unique firstSelects
  obtain ⟨rfl, rfl⟩ := otherSelects.unique secondSelects
  rw [← sameAlgorithm, resolved] at otherResolved
  cases otherResolved
  rw [← sameKey, keyDecoded] at otherKeyDecoded
  cases otherKeyDecoded
  rw [← sameSignature] at otherHolds
  by_cases same : message = other
  · left
    subst same
    obtain ⟨sameSize, rfl, signerEq⟩ :=
      SignedData.eq_of_encode?_isPrefix rebuilt otherRebuilt (List.prefix_refl message)
    rw [← sameSignature] at signerEq
    obtain rfl : signer = otherSigner := signerEq
    rw [certified] at otherCertified
    cases otherCertified
    exact ⟨sameSize, rfl, rfl, rfl⟩
  · right
    exact ⟨message, other, algorithm, key, rebuilt, otherRebuilt, resolved, keyDecoded,
      same, holds, otherHolds⟩

def sampleMessage : Bytes :=
  SignedData.layout
    (UInt32.ofNat (SignedData.length sampleHashing SignerList.sampleSigner)) 7 sampleHashing
    SignerList.sampleSigner

def sampleKey : Rsa.PublicKey where
  modulus := 15
  exponent := 3

def sampleCertificate : Certificate where
  encoded := SignerList.sampleSigner.certificate
  serial := []
  issuer := { parts := [] }
  subject := { parts := [] }
  subjectKey := SignerList.sampleSigner.publicKey

/-- Primitives of one key and one certificate, for which nothing is signed but the sample
message. -/
def samplePrimitives : Primitives where
  subjectKey encoded :=
    .ok
      { algorithm := { id := SubjectKey.rsaId, parameters := none }
        key := { unused := 0, bytes := encoded } }
  rsaPair _ := .ok sampleKey
  point _ _ := .error Primitives.malformed
  pkcs1 _ digest hash signature :=
    hash == digest.hash sampleMessage && signature == SignerList.sampleSigner.signature
  pss _ _ _ _ _ := false
  ecdsa _ _ _ _ := .error Primitives.malformed
  certificate _ := .ok sampleCertificate

def sampleRecords : Records where
  envelope := sampleEnvelope SignerList.sampleSigner
  hashing := sampleHashing
  signers := sampleSigners SignerList.sampleSigner
  signer := SignerList.sampleSigner
  data := sampleMessage
  algorithm := .rsaPkcs1Sha256
  key := .rsa sampleKey
  certificate := sampleCertificate

theorem decode_sampleKey :
    PublicKey.decode samplePrimitives .rsa SignerList.sampleSigner.publicKey =
      .ok (.rsa sampleKey) := by
  have checked : sampleKey.check = .ok sampleKey := by rfl
  simp only [PublicKey.decode, PublicKey.ofRsaKey, samplePrimitives, ne_eq, not_true_eq_false,
    if_false, Der.BitString.whole?, if_true, checked]

theorem checkSignature_sampleMessage :
    checkSignature samplePrimitives .rsaPkcs1Sha256 (.rsa sampleKey) sampleMessage
      SignerList.sampleSigner.signature = .ok () := by
  simp [checkSignature, samplePrimitives, SignatureAlgorithm.scheme]

theorem sampleSigners_short : (sampleSigners SignerList.sampleSigner).toBytes.length ≤ 4096 := by
  decide

theorem sampleRequest_accepted {choice : SignerChoice}
    (either : choice = .default ∨ choice = .block 5) (tail : Bytes) :
    (sampleRequest SignerList.sampleSigner choice tail).outcome samplePrimitives =
      .ok sampleRecords.verified := by
  have meant := sampleSigners_means SignerList.sampleSigner_fits either
  have listed := decode_sampleSigners SignerList.sampleSigner_fits sampleSigners_short
  have passed : Passed samplePrimitives (sampleRequest SignerList.sampleSigner choice tail)
      sampleRecords Check.order.length :=
    passed_iff.mpr ⟨sampleEnvelope_opens tail sampleSigners_short, decode_sampleHashing, listed,
      meant, rfl, by decide, decode_sampleKey, checkSignature_sampleMessage, rfl, rfl, rfl⟩
  exact outcome_of_passed passed

theorem agree_or_forgery_default_block :
    (sampleRequest SignerList.sampleSigner .default []).outcome samplePrimitives =
      .ok sampleRecords.verified ∧
    (sampleRequest SignerList.sampleSigner (.block 5) [0xff]).outcome samplePrimitives =
      .ok sampleRecords.verified ∧
    ((7 : UInt64) = 7 ∧ sampleRecords.verified = sampleRecords.verified ∧
        sampleHashing = sampleHashing ∧ SignerList.sampleSigner = SignerList.sampleSigner ∨
      ∃ message other algorithm key,
        SignedData.encode? 7 sampleHashing SignerList.sampleSigner = some message ∧
        SignedData.encode? 7 sampleHashing SignerList.sampleSigner = some other ∧
        SignatureAlgorithm.ofId? SignerList.sampleSigner.signatureAlgorithmId = some algorithm ∧
        PublicKey.decode samplePrimitives algorithm.family SignerList.sampleSigner.publicKey =
          .ok key ∧
        Forgery samplePrimitives algorithm key SignerList.sampleSigner.signature message
          other) := by
  have defaultAccepted := sampleRequest_accepted (.inl rfl) []
  have blockAccepted := sampleRequest_accepted (.inr rfl) [0xff]
  have defaultSelects := sampleRequest_selects SignerList.sampleSigner_fits sampleSigners_short
    (.inl rfl) []
  have blockSelects := sampleRequest_selects SignerList.sampleSigner_fits sampleSigners_short
    (.inr rfl) [0xff]
  exact ⟨defaultAccepted, blockAccepted,
    agree_or_forgery defaultAccepted blockAccepted defaultSelects blockSelects rfl rfl rfl⟩

end Verification

end PackageSignature
