import PackageSignature.Proofs.CommandLine.Completeness

/-! The default signer of a list. The walk that finds where its record ends keeps in step with the
reading of the record, so a list that has been decoded has a default signer, the one at the head
of its bytes; and neither a verification nor an inspection fails over selecting it. -/

namespace PackageSignature

namespace SigningInfo

theorem runFrom_skip (cursor : Cursor) :
    Reader.runFrom skip cursor =
      ((Reader.runFrom read cursor).1.map (fun _ => ()), (Reader.runFrom read cursor).2) := by
  rw [skip_eq_read, Reader.runFrom_bind]
  cases outcome : Reader.runFrom read cursor with
  | mk result after =>
      cases result with
      | ok info => rfl
      | error error => rfl

end SigningInfo

namespace SignerList

variable {buffer : Bytes} {signers : SignerList}

theorem decode_of_refused_default {error : DecodeError}
    (refused : SigningInfo.decode buffer = .error error) : decode buffer = .error error := by
  have walked : (Reader.runFrom SigningInfo.skip (Cursor.start buffer)).1 = .error error := by
    rw [SigningInfo.runFrom_skip]
    change (SigningInfo.decode buffer).map _ = .error error
    rw [refused]
    rfl
  rw [decode, Reader.decode, read, Reader.bind_eq_error_iff]
  exact .inl walked

theorem exists_signer_at_head (decoded : decode buffer = .ok signers) :
    ∃ signer, SigningInfo.decode buffer = .ok signer ∧ signers.decodeDefault = .ok signer := by
  obtain ⟨encodable, rfl⟩ := decode_eq_ok_iff.mp decoded
  obtain ⟨signer, fits, written⟩ := encodable.default
  have atHead : signer.toBytes <+: signers.toBytes := by
    rw [toBytes, written]
    exact List.prefix_append _ _
  have first : signer.toBytes <+: signers.defaultSigner :=
    ⟨[], by rw [List.append_nil, written]⟩
  exact ⟨signer, SigningInfo.exact_read.decode_eq_ok.mpr ⟨fits, atHead⟩,
    SigningInfo.exact_read.decode_eq_ok.mpr ⟨fits, first⟩⟩

end SignerList

variable {primitives : Primitives} {fileSize : UInt64} {envelope : Envelope}
  {hashing : HashingInfo} {signers : SignerList} {signer : SigningInfo}

theorem Verification.verifyDecoded_of_default
    (supported : envelope.version ∈ Envelope.supportedVersions)
    (hashed : envelope.decodeHashingInfo = .ok hashing)
    (listed : envelope.decodeSigners = .ok signers) (first : signers.decodeDefault = .ok signer) :
    verifyDecoded primitives fileSize envelope .default = (do
      let data ← signedData fileSize hashing signer
      let certificate ← (checkSigner primitives signer data).result
      vouch certificate signer hashing) := by
  have chosen : chooseSigner signers .default = .ok signer := chooseSigner_eq_ok_iff.mpr first
  rw [verifyDecoded_of_supported supported, hashed, listed, ok_mapError, ok_bind, ok_mapError,
    ok_bind, chosen, ok_bind]

theorem CommandLine.SignatureReport.ofEnvelope_of_default
    (hashed : envelope.decodeHashingInfo = .ok hashing)
    (listed : envelope.decodeSigners = .ok signers) (first : signers.decodeDefault = .ok signer) :
    ofEnvelope primitives envelope = .ok (ofRecords primitives envelope hashing signers signer) := by
  rw [ofEnvelope, hashed, listed, ok_mapError, ok_bind, ok_mapError, ok_bind, first]
  rfl

/-- The walk over a signer record and the reading of it are one as to where they end and what they
refuse. So the default signer of a list that was decoded is the record at the head of its bytes,
and where that record is refused the list is refused for the same reason. Behind a list that was
decoded, a verification of the default signer goes on with that signer, and an inspection shows
it. -/
theorem default_signer_is_never_refused (primitives : Primitives) :
    (∀ cursor : Cursor, Reader.runFrom SigningInfo.skip cursor =
      ((Reader.runFrom SigningInfo.read cursor).1.map (fun _ => ()),
        (Reader.runFrom SigningInfo.read cursor).2)) ∧
    (∀ buffer signers, SignerList.decode buffer = .ok signers →
      ∃ signer, SigningInfo.decode buffer = .ok signer ∧ signers.decodeDefault = .ok signer ∧
        Verification.chooseSigner signers .default = .ok signer) ∧
    (∀ buffer error, SigningInfo.decode buffer = .error error →
      SignerList.decode buffer = .error error) ∧
    (∀ (envelope : Envelope) hashing signers, envelope.decodeHashingInfo = .ok hashing →
      envelope.decodeSigners = .ok signers →
      ∃ signer, SigningInfo.decode envelope.signingInfos = .ok signer ∧
        (envelope.version ∈ Envelope.supportedVersions → ∀ fileSize,
          Verification.verifyDecoded primitives fileSize envelope .default = (do
            let data ← Verification.signedData fileSize hashing signer
            let certificate ← (Verification.checkSigner primitives signer data).result
            Verification.vouch certificate signer hashing)) ∧
        CommandLine.SignatureReport.ofEnvelope primitives envelope =
          .ok (.ofRecords primitives envelope hashing signers signer)) := by
  refine ⟨SigningInfo.runFrom_skip, ?_, ?_, ?_⟩
  · intro buffer signers decoded
    obtain ⟨signer, atHead, first⟩ := SignerList.exists_signer_at_head decoded
    exact ⟨signer, atHead, first, Verification.chooseSigner_eq_ok_iff.mpr first⟩
  · intro buffer error refused
    exact SignerList.decode_of_refused_default refused
  · intro envelope hashing signers hashed listed
    obtain ⟨signer, atHead, first⟩ := SignerList.exists_signer_at_head listed
    refine ⟨signer, atHead, ?_, ?_⟩
    · intro supported fileSize
      exact Verification.verifyDecoded_of_default supported hashed listed first
    · exact CommandLine.SignatureReport.ofEnvelope_of_default hashed listed first

theorem default_signer_is_never_refused_damaged_block :
    (∃ signer, SigningInfo.decode Verification.damagedSigners.toBytes = .ok signer ∧
      Verification.chooseSigner Verification.damagedSigners .default = .ok signer) ∧
      SignerList.decode [3, 0, 0, 0, 7] = .error (.truncated .apkDigest 3 1) ∧
      ∃ signer,
        Verification.verifyDecoded .standard 7 Verifier.damagedEnvelope .default = (do
          let data ← Verification.signedData 7 Verification.sampleHashing signer
          let certificate ← (Verification.checkSigner .standard signer data).result
          Verification.vouch certificate signer Verification.sampleHashing) ∧
        CommandLine.SignatureReport.ofEnvelope .standard Verifier.damagedEnvelope =
          .ok (.ofRecords .standard Verifier.damagedEnvelope Verification.sampleHashing
            Verification.damagedSigners signer) := by
  obtain ⟨-, chosen, refused, onward⟩ := default_signer_is_never_refused .standard
  obtain ⟨signer, atHead, -, first⟩ := chosen _ _ Verification.decode_damagedSigners
  obtain ⟨shown, -, verified, listed⟩ := onward Verifier.damagedEnvelope _ _
    Verification.decode_sampleHashing Verification.decode_damagedSigners
  have supported : Verifier.damagedEnvelope.version ∈ Envelope.supportedVersions := by decide
  exact ⟨⟨signer, atHead, first⟩, refused _ _ rfl, shown, verified supported 7, listed⟩

end PackageSignature
