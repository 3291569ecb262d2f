import PackageSignature.Proofs.Verification.Kinds
import PackageSignature.Verifier

/-! What a verifier makes of the answers of its source. It asks two questions at most, and by
the answers a verification comes to the verification of the very bytes that were fetched. The
size of the package is of account only once there is an envelope, and what the source does not
have is told with the path. -/

namespace PackageSignature

namespace Verification

theorem exists_version_or_fault_of_decodeEnvelope {bytes : Bytes} {maxSize : Nat}
    {error : VerifyError} (failed : decodeEnvelope bytes maxSize = .error error) :
    (∃ version, error = .unsupportedVersion version) ∨ ∃ fault, error = .decode fault := by
  rw [decodeEnvelope] at failed
  cases opened : Envelope.decode bytes maxSize with
  | ok envelope =>
      rw [opened] at failed
      cases failed
  | error reason =>
      rw [opened] at failed
      cases reason with
      | unsupportedVersion version =>
          cases failed
          exact .inl ⟨version, rfl⟩
      | decode fault =>
          cases failed
          exact .inr ⟨fault, rfl⟩

theorem kind_of_decodeEnvelope {bytes : Bytes} {maxSize : Nat} {error : VerifyError}
    (failed : decodeEnvelope bytes maxSize = .error error) : error.kind = .security := by
  rcases exists_version_or_fault_of_decodeEnvelope failed with ⟨version, rfl⟩ | ⟨fault, rfl⟩
  · rfl
  · rfl

theorem decodeEnvelope_ne_emptySignature {bytes : Bytes} {maxSize : Nat} :
    decodeEnvelope bytes maxSize ≠ .error .emptySignature := by
  intro failed
  rcases exists_version_or_fault_of_decodeEnvelope failed with
    ⟨version, impossible⟩ | ⟨fault, impossible⟩
  · cases impossible
  · cases impossible

end Verification

namespace Verifier

variable {verifier : Verifier} {path : Path} {choice : SignerChoice}

inductive Opening (verifier : Verifier) (path : Path) : Except VerifyError Envelope → Prop
  | unreadable {fault : SourceFault} (failed : verifier.source.fetch path = .error fault) :
      Opening verifier path (.error (.source path fault))
  | missing (nothing : verifier.source.fetch path = .ok none) :
      Opening verifier path (.error (.signatureNotFound path))
  | empty (nothing : verifier.source.fetch path = .ok (some [])) :
      Opening verifier path (.error (.signatureNotFound path))
  | fetched {bytes : Bytes} (fetched : verifier.source.fetch path = .ok (some bytes))
      (nonempty : bytes ≠ []) :
      Opening verifier path
        (Verification.decodeEnvelope bytes verifier.config.maxSignatureSize)

inductive Verdict (verifier : Verifier) (path : Path) (choice : SignerChoice) :
    Except VerifyError VerifiedSigner → Prop
  | unreadable {fault : SourceFault} (failed : verifier.source.fetch path = .error fault) :
      Verdict verifier path choice (.error (.source path fault))
  | missing (nothing : verifier.source.fetch path = .ok none) :
      Verdict verifier path choice (.error (.signatureNotFound path))
  | empty (nothing : verifier.source.fetch path = .ok (some [])) :
      Verdict verifier path choice (.error (.signatureNotFound path))
  | refused {bytes : Bytes} {error : VerifyError}
      (fetched : verifier.source.fetch path = .ok (some bytes)) (nonempty : bytes ≠ [])
      (refused : Verification.decodeEnvelope bytes verifier.config.maxSignatureSize =
        .error error) :
      Verdict verifier path choice (.error error)
  | unsized {bytes : Bytes} {envelope : Envelope} {fault : SourceFault}
      (fetched : verifier.source.fetch path = .ok (some bytes)) (nonempty : bytes ≠ [])
      (opened : Verification.decodeEnvelope bytes verifier.config.maxSignatureSize =
        .ok envelope)
      (failed : verifier.source.fileSize path = .error fault) :
      Verdict verifier path choice (.error (.source path fault))
  | verified {bytes : Bytes} {envelope : Envelope} {fileSize : UInt64}
      (fetched : verifier.source.fetch path = .ok (some bytes)) (nonempty : bytes ≠ [])
      (opened : Verification.decodeEnvelope bytes verifier.config.maxSignatureSize =
        .ok envelope)
      (sized : verifier.source.fileSize path = .ok fileSize) :
      Verdict verifier path choice
        (Verification.verify verifier.primitives fileSize bytes choice
          verifier.config.maxSignatureSize)

theorem fetch_of_nonempty {bytes : Bytes}
    (fetched : verifier.source.fetch path = .ok (some bytes)) (nonempty : bytes ≠ []) :
    verifier.fetch path = .ok bytes := by
  simp only [fetch, fetched, List.isEmpty_iff, if_neg nonempty]

theorem result_readEnvelope :
    (verifier.readEnvelope path).result = (do
      let bytes ← verifier.fetch path
      Verification.decodeEnvelope bytes verifier.config.maxSignatureSize) := by
  simp only [readEnvelope, Traced.result_bind, Traced.result_lift, Traced.result_emit]
  cases verifier.fetch path with
  | error error => rfl
  | ok bytes =>
      rw [ok_bind]
      change (Verification.decodeEnvelope bytes verifier.config.maxSignatureSize).bind _ = _
      cases Verification.decodeEnvelope bytes verifier.config.maxSignatureSize with
      | error error => rfl
      | ok envelope => rfl

theorem result_verify :
    (verifier.verify path choice).result = (do
      let envelope ← (verifier.readEnvelope path).result
      let fileSize ← verifier.fileSize path
      Verification.verifyDecoded verifier.primitives fileSize envelope choice) := by
  rw [verify, Traced.result_onFailure, Traced.result_bind]
  simp only [Traced.result_bind, Traced.result_lift]
  rfl

theorem Opening.result_eq {outcome : Except VerifyError Envelope}
    (opening : Opening verifier path outcome) : (verifier.readEnvelope path).result = outcome := by
  rw [result_readEnvelope]
  cases opening with
  | unreadable failed =>
      rw [fetch, failed]
      rfl
  | missing nothing =>
      rw [fetch, nothing]
      rfl
  | empty nothing =>
      rw [fetch, nothing]
      rfl
  | fetched fetched nonempty => rw [fetch_of_nonempty fetched nonempty, ok_bind]

theorem exists_opening (verifier : Verifier) (path : Path) :
    ∃ outcome, Opening verifier path outcome := by
  cases answer : verifier.source.fetch path with
  | error fault => exact ⟨_, .unreadable answer⟩
  | ok signature =>
      cases signature with
      | none => exact ⟨_, .missing answer⟩
      | some bytes =>
          by_cases empty : bytes = []
          · rw [empty] at answer
            exact ⟨_, .empty answer⟩
          · exact ⟨_, .fetched answer empty⟩

theorem result_readEnvelope_eq_iff {outcome : Except VerifyError Envelope} :
    (verifier.readEnvelope path).result = outcome ↔ Opening verifier path outcome := by
  constructor
  · intro same
    obtain ⟨other, opening⟩ := exists_opening verifier path
    rw [opening.result_eq] at same
    rw [← same]
    exact opening
  · intro opening
    exact opening.result_eq

theorem Verdict.result_eq {outcome : Except VerifyError VerifiedSigner}
    (verdict : Verdict verifier path choice outcome) :
    (verifier.verify path choice).result = outcome := by
  rw [result_verify]
  cases verdict with
  | unreadable failed => rw [(Opening.unreadable failed).result_eq, error_bind]
  | missing nothing => rw [(Opening.missing nothing).result_eq, error_bind]
  | empty nothing => rw [(Opening.empty nothing).result_eq, error_bind]
  | refused fetched nonempty refused =>
      rw [(Opening.fetched fetched nonempty).result_eq, refused, error_bind]
  | unsized fetched nonempty opened failed =>
      rw [(Opening.fetched fetched nonempty).result_eq, opened, ok_bind, fileSize, failed]
      rfl
  | verified fetched nonempty opened sized =>
      rw [(Opening.fetched fetched nonempty).result_eq, opened, ok_bind, fileSize, sized,
        Verification.verify_of_nonempty nonempty, opened]
      rfl

theorem result_verify_of_nonempty {bytes : Bytes} {fileSize : UInt64}
    (fetched : verifier.source.fetch path = .ok (some bytes)) (nonempty : bytes ≠ [])
    (sized : verifier.source.fileSize path = .ok fileSize) :
    (verifier.verify path choice).result =
      Verification.verify verifier.primitives fileSize bytes choice
        verifier.config.maxSignatureSize := by
  cases opened : Verification.decodeEnvelope bytes verifier.config.maxSignatureSize with
  | ok envelope => exact (Verdict.verified fetched nonempty opened sized).result_eq
  | error error =>
      rw [(Verdict.refused fetched nonempty opened).result_eq,
        Verification.verify_of_nonempty nonempty, opened, error_bind]

theorem exists_verdict (verifier : Verifier) (path : Path) (choice : SignerChoice) :
    ∃ outcome, Verdict verifier path choice outcome := by
  obtain ⟨outcome, opening⟩ := exists_opening verifier path
  cases opening with
  | unreadable failed => exact ⟨_, .unreadable failed⟩
  | missing nothing => exact ⟨_, .missing nothing⟩
  | empty nothing => exact ⟨_, .empty nothing⟩
  | @fetched bytes fetched nonempty =>
      cases opened : Verification.decodeEnvelope bytes verifier.config.maxSignatureSize with
      | error error => exact ⟨_, .refused fetched nonempty opened⟩
      | ok envelope =>
          cases size : verifier.source.fileSize path with
          | error fault => exact ⟨_, .unsized fetched nonempty opened size⟩
          | ok fileSize => exact ⟨_, .verified fetched nonempty opened size⟩

theorem result_verify_eq_iff {outcome : Except VerifyError VerifiedSigner} :
    (verifier.verify path choice).result = outcome ↔ Verdict verifier path choice outcome := by
  constructor
  · intro same
    obtain ⟨other, verdict⟩ := exists_verdict verifier path choice
    rw [verdict.result_eq] at same
    rw [← same]
    exact verdict
  · intro verdict
    exact verdict.result_eq

theorem result_readEnvelope_ne_emptySignature :
    (verifier.readEnvelope path).result ≠ .error .emptySignature := by
  intro failed
  obtain ⟨outcome, opening⟩ := exists_opening verifier path
  rw [opening.result_eq] at failed
  cases opening with
  | fetched fetched nonempty =>
      exact Verification.decodeEnvelope_ne_emptySignature failed
  | _ => cases failed

theorem result_verify_ne_emptySignature :
    (verifier.verify path choice).result ≠ .error .emptySignature := by
  intro failed
  obtain ⟨outcome, verdict⟩ := exists_verdict verifier path choice
  rw [verdict.result_eq] at failed
  cases verdict with
  | refused fetched nonempty refused =>
      cases failed
      exact Verification.decodeEnvelope_ne_emptySignature refused
  | @verified bytes envelope fileSize fetched nonempty opened sized =>
      exact Verification.verify_ne_emptySignature nonempty failed
  | _ => cases failed

/-- The verifier and the verification of bytes agree on every answer of every source. Where the
bytes hold no envelope the size of the package is of no account, and it never is for reading
the envelope. -/
theorem verifier_refines_bytes (verifier : Verifier) (path : Path) (choice : SignerChoice) :
    (∀ outcome, (verifier.verify path choice).result = outcome ↔
      Verdict verifier path choice outcome) ∧
    verifier.verifyDefault path = verifier.verify path .default ∧
    (∀ outcome, (verifier.readEnvelope path).result = outcome ↔ Opening verifier path outcome) ∧
    (∀ sizes : Path → Except SourceFault UInt64,
      readEnvelope
          { verifier with source := { verifier.source with fileSize := sizes } } path =
        verifier.readEnvelope path) ∧
    (verifier.verify path choice).result ≠ .error .emptySignature ∧
    (verifier.verifyDefault path).result ≠ .error .emptySignature ∧
    (verifier.readEnvelope path).result ≠ .error .emptySignature := by
  refine ⟨?_, rfl, ?_, ?_, ?_, ?_, ?_⟩
  · intro outcome
    exact result_verify_eq_iff
  · intro outcome
    exact result_readEnvelope_eq_iff
  · intro sizes
    rfl
  · exact result_verify_ne_emptySignature
  · exact result_verify_ne_emptySignature
  · exact result_readEnvelope_ne_emptySignature

end Verifier

end PackageSignature
