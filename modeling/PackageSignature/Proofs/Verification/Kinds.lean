import PackageSignature.Proofs.Verification.Isolation

/-! Which failures a verification of bytes can have, and which of them say that there is
nothing to verify. Every check has failures of its own. Only the first of them and the one
that looks for a block report that something is not there; whatever else is wrong is a matter
of trust. -/

namespace PackageSignature

theorem SignerList.find?_eq_none_iff {signers : SignerList} {blockId : UInt32} :
    signers.find? blockId = none ↔ ∀ block ∈ signers.blocks, block.blockId ≠ blockId := by
  simp only [find?, List.find?_eq_none, beq_iff_eq, ne_eq]

namespace Verification

variable {primitives : Primitives} {request : Request} {records : Records} {check : Check}
  {error : VerifyError}

inductive Check.Reports : Check → VerifyError → Prop
  | presence : Reports .presence .emptySignature
  | versionField {fault : DecodeError} : Reports .versionField (.decode fault)
  | version {version : UInt32} : Reports .version (.unsupportedVersion version)
  | hashingLength {fault : DecodeError} : Reports .hashingLength (.decode fault)
  | signersLength {fault : DecodeError} : Reports .signersLength (.decode fault)
  | hashingRecord {fault : DecodeError} : Reports .hashingRecord (.decode fault)
  | signerRecords {fault : DecodeError} : Reports .signerRecords (.decode fault)
  | defaultSigner {fault : DecodeError} : Reports .selection (.decode fault)
  | missingBlock {blockId : UInt32} : Reports .selection (.signerBlockNotFound blockId)
  | damagedBlock {blockId : UInt32} {fault : DecodeError} :
      Reports .selection (.signerBlock blockId fault)
  | dataSize {length : Nat} : Reports .dataSize (.signedDataTooLarge length)
  | algorithm {id : UInt32} : Reports .algorithm (.unsupportedAlgorithm id)
  | key {family : KeyFamily} {fault : KeyFault} : Reports .key (.invalidPublicKey family fault)
  | otherKey {family : KeyFamily} {fault : KeyFault} :
      Reports .signature (.invalidPublicKey family fault)
  | malformed {algorithm : SignatureAlgorithm} {fault : SignatureFault} :
      Reports .signature (.malformedSignature algorithm fault)
  | mismatch {algorithm : SignatureAlgorithm} : Reports .signature (.signatureMismatch algorithm)
  | certificate {words : String} : Reports .certificate (.invalidCertificate words)
  | keyMatch : Reports .keyMatch .publicKeyMismatch
  | hashAlgorithm {id : UInt32} : Reports .hashAlgorithm (.unsupportedHashAlgorithm id)

private theorem Check.Reports.of_map {ε : Type} {fault? : Option ε} {report : ε → VerifyError}
    (reports : ∀ fault, check.Reports (report fault)) (failed : fault?.map report = some error) :
    check.Reports error := by
  obtain ⟨fault, -, rfl⟩ := Option.map_eq_some_iff.mp failed
  exact reports fault

private theorem Check.Reports.of_ite {condition : Prop} [Decidable condition]
    {reported : VerifyError} (reports : check.Reports reported)
    (failed : (if condition then none else some reported) = some error) :
    check.Reports error := by
  obtain ⟨-, same⟩ := Option.ite_none_left_eq_some.mp failed
  rw [← Option.some.inj same]
  exact reports

private theorem Check.Reports.of_ite_not {condition : Prop} [Decidable condition]
    {reported : VerifyError} (reports : check.Reports reported)
    (failed : (if condition then some reported else none) = some error) :
    check.Reports error := by
  obtain ⟨-, same⟩ := Option.ite_none_right_eq_some.mp failed
  rw [← Option.some.inj same]
  exact reports

theorem reports_of_checkSignature {algorithm : SignatureAlgorithm} {key : PublicKey}
    {message signature : Bytes}
    (failed : checkSignature primitives algorithm key message signature = .error error) :
    Check.signature.Reports error := by
  have mismatch {holds : Bool}
      (refused : (if holds then .ok () else .error (.signatureMismatch algorithm) :
        Except VerifyError Unit) = .error error) : Check.signature.Reports error := by
    cases holds with
    | true => cases refused
    | false =>
        cases refused
        exact .mismatch
  simp only [checkSignature] at failed
  split at failed
  · exact mismatch failed
  · exact mismatch failed
  · split at failed
    · cases failed
      exact .malformed
    · exact mismatch failed
  · cases failed
    exact .otherKey

theorem reports_of_lookAtSigner {signers : SignerList} {choice : SignerChoice}
    (failed : failure primitives (lookAtSigner signers choice) = some error) :
    Check.selection.Reports error := by
  cases choice with
  | default => exact .of_map (fun _ => .defaultSigner) failed
  | block blockId =>
      rw [lookAtSigner] at failed
      cases found : signers.find? blockId with
      | none =>
          rw [found] at failed
          cases failed
          exact .missingBlock
      | some block =>
          rw [found] at failed
          exact .of_map (fun _ => .damagedBlock) failed

theorem reports_of_failure
    (failed : failure primitives (look request records check) = some error) :
    check.Reports error := by
  cases check with
  | presence => exact .of_ite_not .presence failed
  | versionField => exact .of_ite_not .versionField failed
  | version => exact .of_ite .version failed
  | hashingLength => exact .of_map (fun _ => .hashingLength) failed
  | signersLength => exact .of_map (fun _ => .signersLength) failed
  | hashingRecord => exact .of_map (fun _ => .hashingRecord) failed
  | signerRecords => exact .of_map (fun _ => .signerRecords) failed
  | selection => exact reports_of_lookAtSigner failed
  | dataSize => exact .of_ite .dataSize failed
  | algorithm => exact .of_ite .algorithm failed
  | key => exact .of_map (fun _ => .key) failed
  | signature => exact reports_of_checkSignature (errorOf_eq_some_iff.mp failed)
  | certificate => exact .of_map (fun _ => .certificate) failed
  | keyMatch => exact .of_ite .keyMatch failed
  | hashAlgorithm => exact .of_ite .hashAlgorithm failed

/-- The bytes hold an envelope with both records in order, and no block with the id that is
meant. -/
def LacksBlock (bytes : Bytes) (maxSize : Nat) (choice : SignerChoice) : Prop :=
  ∃ (envelope : Envelope) (hashing : HashingInfo) (signers : SignerList) (blockId : UInt32),
    Envelope.decode bytes maxSize = .ok envelope ∧
    HashingInfo.decode envelope.hashingInfo = .ok hashing ∧
    SignerList.decode envelope.signingInfos = .ok signers ∧
    choice = .block blockId ∧ ∀ block ∈ signers.blocks, block.blockId ≠ blockId

theorem exists_blockId_of_lacksBlock (primitives : Primitives) (request : Request)
    (lacks : LacksBlock request.bytes request.maxSize request.choice) :
    ∃ blockId, request.outcome primitives = .error (.signerBlockNotFound blockId) := by
  obtain ⟨envelope, hashing, signers, blockId, opened, hashed, listed, chosen, missing⟩ := lacks
  have opens := Envelope.decode_eq_ok_iff.mp opened
  refine ⟨blockId, ?_⟩
  rw [Request.outcome, verify_of_opens opens, chosen]
  exact verifyDecoded_of_refused_choice opens.supported hashed listed
    (chooseSigner_of_missing missing)

theorem exists_error_of_nothing (primitives : Primitives) (request : Request)
    (nothing : request.bytes = [] ∨
      LacksBlock request.bytes request.maxSize request.choice) :
    ∃ error, request.outcome primitives = .error error := by
  rcases nothing with empty | lacks
  · rw [Request.outcome, empty]
    exact ⟨_, verify_of_empty⟩
  · obtain ⟨blockId, refused⟩ := exists_blockId_of_lacksBlock primitives request lacks
    exact ⟨_, refused⟩

theorem lacksBlock_of_failure {blockId : UInt32}
    (passed : Passed primitives request records Check.selection.rank)
    (failed : failure primitives (look request records .selection) =
      some (.signerBlockNotFound blockId)) :
    LacksBlock request.bytes request.maxSize request.choice := by
  refine ⟨records.envelope, records.hashing, records.signers, blockId,
    Envelope.decode_eq_ok_iff.mpr (passed .signersLength (by decide)),
    passed .hashingRecord (by decide), passed .signerRecords (by decide), ?_⟩
  rw [look] at failed
  cases chosen : request.choice with
  | default =>
      rw [chosen] at failed
      obtain ⟨_, _, impossible⟩ := Option.map_eq_some_iff.mp failed
      cases impossible
  | block asked =>
      rw [chosen, lookAtSigner] at failed
      cases found : records.signers.find? asked with
      | none =>
          rw [found] at failed
          cases failed
          exact ⟨rfl, SignerList.find?_eq_none_iff.mp found⟩
      | some block =>
          rw [found] at failed
          obtain ⟨_, _, impossible⟩ := Option.map_eq_some_iff.mp failed
          cases impossible

theorem kind_eq_notFound_iff (failed : request.outcome primitives = .error error) :
    error.kind = .notFound ↔
      request.bytes = [] ∨ LacksBlock request.bytes request.maxSize request.choice := by
  constructor
  · intro notFound
    obtain ⟨check, records, passed, reported⟩ := outcome_eq_error_iff.mp failed
    cases reports_of_failure reported with
    | presence =>
        obtain ⟨empty, -⟩ := Option.ite_none_right_eq_some.mp reported
        exact .inl (List.isEmpty_iff.mp empty)
    | missingBlock => exact .inr (lacksBlock_of_failure passed reported)
    | _ => cases notFound
  · intro nothing
    rcases nothing with empty | lacks
    · rw [Request.outcome, empty, verify_of_empty] at failed
      cases failed
      rfl
    · obtain ⟨blockId, refused⟩ := exists_blockId_of_lacksBlock primitives request lacks
      rw [failed] at refused
      cases refused
      rfl

theorem verify_ne_emptySignature {fileSize : UInt64} {bytes : Bytes} {choice : SignerChoice}
    {maxSize : Nat} (nonempty : bytes ≠ []) :
    verify primitives fileSize bytes choice maxSize ≠ .error .emptySignature := by
  intro failed
  change Request.outcome primitives { fileSize, bytes, choice, maxSize } = _ at failed
  obtain ⟨check, records, passed, reported⟩ := outcome_eq_error_iff.mp failed
  cases reports_of_failure reported with
  | presence =>
      obtain ⟨empty, -⟩ := Option.ite_none_right_eq_some.mp reported
      exact nonempty (List.isEmpty_iff.mp empty)

theorem verify_ne_source {fileSize : UInt64} {bytes : Bytes} {choice : SignerChoice}
    {maxSize : Nat} {path : Path} {fault : SourceFault} :
    verify primitives fileSize bytes choice maxSize ≠ .error (.source path fault) := by
  intro failed
  change Request.outcome primitives { fileSize, bytes, choice, maxSize } = _ at failed
  obtain ⟨check, records, passed, reported⟩ := outcome_eq_error_iff.mp failed
  cases reports_of_failure reported

end Verification

end PackageSignature
