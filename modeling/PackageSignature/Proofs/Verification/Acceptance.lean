import PackageSignature.Proofs.Verification.Outcome

/-! What acceptance means. A verification succeeds for nothing but an envelope at the head
of the bytes whose records pass every check, and what it yields is made of those very
records: the certificate that carries the key of the signer, the digest of the signer,
and the root of the tree in the hashing info. -/

namespace PackageSignature

namespace Verification

/-- Acceptance is the conjunction of all checks. -/
theorem verify_eq_ok_iff_all_checks (primitives : Primitives) (fileSize : UInt64) (bytes : Bytes)
    (choice : SignerChoice) (maxSize : Nat) (verified : VerifiedSigner) :
    verify primitives fileSize bytes choice maxSize = .ok verified ↔
      ∃ (envelope : Envelope) (hashing : HashingInfo) (signer : SigningInfo)
        (certificate : Certificate),
        (∃ tail, bytes = envelope.toBytes ++ tail) ∧
        envelope.version = 2 ∧
        Encoding.Fits envelope.hashingInfo ∧ Encoding.Fits envelope.signingInfos ∧
        envelope.hashingInfo.length + envelope.signingInfos.length ≤ maxSize ∧
        HashingInfo.decode envelope.hashingInfo = .ok hashing ∧
        (∃ signers, SignerList.decode envelope.signingInfos = .ok signers ∧
          signers.Means choice signer) ∧
        (∃ data algorithm key,
          SignedData.encode? fileSize hashing signer = some data ∧
          algorithm ∈ SignatureAlgorithm.all ∧ algorithm.id = signer.signatureAlgorithmId ∧
          PublicKey.decode primitives algorithm.family signer.publicKey = .ok key ∧
          checkSignature primitives algorithm key data signer.signature = .ok ()) ∧
        primitives.certificate signer.certificate = .ok certificate ∧
        certificate.subjectKey = signer.publicKey ∧
        hashing.hashAlgorithm = 1 ∧
        verified =
          { certificates := [certificate]
            apkDigest := signer.apkDigest
            contentDigests := [(.verityChunkedSha256, hashing.rootHash)] } := by
  change Request.outcome primitives { fileSize, bytes, choice, maxSize } = .ok verified ↔ _
  rw [outcome_eq_ok_iff]
  constructor
  · rintro ⟨records, passed, rfl⟩
    obtain ⟨opens, hashed, listed, meant, rebuilt, resolved, keyDecoded, accepted, certified,
      sameKey, known⟩ := passed_iff.mp passed
    obtain ⟨tail, split⟩ := opens.atHead
    exact ⟨records.envelope, records.hashing, records.signer, records.certificate,
      ⟨tail, split.symm⟩, Envelope.mem_supportedVersions_iff.mp opens.supported,
      opens.hashingFits, opens.signersFit, opens.withinBudget, hashed,
      ⟨records.signers, listed, meant⟩,
      ⟨records.data, records.algorithm, records.key, rebuilt, resolved.1, resolved.2, keyDecoded,
        accepted⟩,
      certified, sameKey, known, rfl⟩
  · rintro ⟨envelope, hashing, signer, certificate, ⟨tail, split⟩, version, hashingFits,
      signersFit, within, hashed, ⟨signers, listed, meant⟩,
      ⟨data, algorithm, key, rebuilt, known, named, keyDecoded, accepted⟩, certified, sameKey,
      treeHash, rfl⟩
    have opens : envelope.Opens bytes maxSize :=
      ⟨Envelope.mem_supportedVersions_iff.mpr version, hashingFits, signersFit, within, tail,
        split.symm⟩
    refine ⟨{ envelope, hashing, signers, signer, data, algorithm, key, certificate },
      passed_iff.mpr ?_, rfl⟩
    exact ⟨opens, hashed, listed, meant, rebuilt, ⟨known, named⟩, keyDecoded, accepted, certified,
      sameKey, treeHash⟩

end Verification

end PackageSignature
