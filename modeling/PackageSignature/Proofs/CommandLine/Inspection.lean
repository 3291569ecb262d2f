import PackageSignature.Proofs.CommandLine.ExitCode

/-! What the inspection of a file comes to. The file is opened as a verification opens it, and
once both of its records are decoded it is shown, since a list of signers is decoded only with a
default signer that can be. What cannot be shown is called invalid, never missing. -/

namespace PackageSignature

theorem SignerList.exists_default_of_decode {buffer : Bytes} {signers : SignerList}
    (decoded : decode buffer = .ok signers) : ∃ signer, signers.decodeDefault = .ok signer := by
  obtain ⟨encodable, -⟩ := decode_eq_ok_iff.mp decoded
  obtain ⟨signer, first, -⟩ := decodeDefault_of_encodable encodable
  exact ⟨signer, first⟩

namespace CommandLine

namespace SignatureReport

variable {primitives : Primitives} {bytes : Bytes} {maxSize : Nat}

def ofBytes (primitives : Primitives) (bytes : Bytes) (maxSize : Nat) :
    Except VerifyError SignatureReport := do
  let envelope ← Verification.decodeEnvelope bytes maxSize
  ofEnvelope primitives envelope

def ofRecords (primitives : Primitives) (envelope : Envelope) (hashing : HashingInfo)
    (signers : SignerList) (signer : SigningInfo) : SignatureReport where
  version := envelope.version
  hashing := HashingReport.ofHashing hashing
  defaultSigner := SignerReport.ofSigner primitives signer
  blocks := signers.blocks.map BlockReport.ofBlock

inductive Showing (primitives : Primitives) (bytes : Bytes) (maxSize : Nat) :
    Except VerifyError SignatureReport → Prop
  | noEnvelope {error : VerifyError}
      (refused : Verification.decodeEnvelope bytes maxSize = .error error) :
      Showing primitives bytes maxSize (.error error)
  | noHashing {envelope : Envelope} {fault : DecodeError}
      (opened : Verification.decodeEnvelope bytes maxSize = .ok envelope)
      (refused : envelope.decodeHashingInfo = .error fault) :
      Showing primitives bytes maxSize (.error (.decode fault))
  | noSigners {envelope : Envelope} {hashing : HashingInfo} {fault : DecodeError}
      (opened : Verification.decodeEnvelope bytes maxSize = .ok envelope)
      (hashed : envelope.decodeHashingInfo = .ok hashing)
      (refused : envelope.decodeSigners = .error fault) :
      Showing primitives bytes maxSize (.error (.decode fault))
  | shown {envelope : Envelope} {hashing : HashingInfo} {signers : SignerList}
      {signer : SigningInfo}
      (opened : Verification.decodeEnvelope bytes maxSize = .ok envelope)
      (hashed : envelope.decodeHashingInfo = .ok hashing)
      (listed : envelope.decodeSigners = .ok signers)
      (first : signers.decodeDefault = .ok signer) :
      Showing primitives bytes maxSize
        (.ok (ofRecords primitives envelope hashing signers signer))

theorem Showing.ofBytes_eq {outcome : Except VerifyError SignatureReport}
    (showing : Showing primitives bytes maxSize outcome) :
    ofBytes primitives bytes maxSize = outcome := by
  cases showing with
  | noEnvelope refused => rw [ofBytes, refused, error_bind]
  | noHashing opened refused =>
      rw [ofBytes, opened, ok_bind, ofEnvelope, refused]
      rfl
  | noSigners opened hashed refused =>
      rw [ofBytes, opened, ok_bind, ofEnvelope, hashed, refused]
      rfl
  | shown opened hashed listed first =>
      rw [ofBytes, opened, ok_bind, ofEnvelope, hashed, listed, ok_mapError, ok_bind, ok_mapError,
        ok_bind, first]
      rfl

theorem exists_showing (primitives : Primitives) (bytes : Bytes) (maxSize : Nat) :
    ∃ outcome, Showing primitives bytes maxSize outcome := by
  cases opened : Verification.decodeEnvelope bytes maxSize with
  | error error => exact ⟨_, .noEnvelope opened⟩
  | ok envelope =>
      cases hashed : envelope.decodeHashingInfo with
      | error fault => exact ⟨_, .noHashing opened hashed⟩
      | ok hashing =>
          cases listed : envelope.decodeSigners with
          | error fault => exact ⟨_, .noSigners opened hashed listed⟩
          | ok signers =>
              obtain ⟨signer, first⟩ := SignerList.exists_default_of_decode listed
              exact ⟨_, .shown opened hashed listed first⟩

theorem showing_of_ofBytes {outcome : Except VerifyError SignatureReport}
    (same : ofBytes primitives bytes maxSize = outcome) :
    Showing primitives bytes maxSize outcome := by
  obtain ⟨other, showing⟩ := exists_showing primitives bytes maxSize
  rw [showing.ofBytes_eq] at same
  rw [← same]
  exact showing

theorem kind_of_refused {error : VerifyError}
    (refused : ofBytes primitives bytes maxSize = .error error) : error.kind = .security := by
  cases showing_of_ofBytes refused with
  | noEnvelope noEnvelope => exact Verification.kind_of_decodeEnvelope noEnvelope
  | noHashing opened noHashing => rfl
  | noSigners opened hashed noSigners => rfl

/-- A verification makes the decoding its business too, and before anything else. So what cannot
be shown fails there with the same error, whichever signer is meant. -/
theorem verify_of_refused {error : VerifyError} (nonempty : bytes ≠ [])
    (refused : ofBytes primitives bytes maxSize = .error error) (fileSize : UInt64)
    (choice : SignerChoice) :
    Verification.verify primitives fileSize bytes choice maxSize = .error error := by
  have supported {envelope : Envelope}
      (opened : Verification.decodeEnvelope bytes maxSize = .ok envelope) :
      envelope.version ∈ Envelope.supportedVersions :=
    (Verification.decodeEnvelope_eq_ok_iff.mp opened).supported
  rw [Verification.verify_of_nonempty nonempty]
  cases showing_of_ofBytes refused with
  | noEnvelope noEnvelope => rw [noEnvelope, error_bind]
  | noHashing opened noHashing =>
      rw [opened, ok_bind, Verification.verifyDecoded_of_supported (supported opened), noHashing]
      rfl
  | noSigners opened hashed noSigners =>
      rw [opened, ok_bind, Verification.verifyDecoded_of_supported (supported opened), hashed,
        noSigners]
      rfl

end SignatureReport

namespace InspectRequest

variable {request : InspectRequest} {primitives : Primitives} {environment : Environment}
  {files : FileSystem}

theorem report_of_content {bytes : Bytes} (content : files.read request.signature = .ok bytes) :
    request.report primitives environment files =
      (SignatureReport.ofBytes primitives bytes
        (Config.ofEnvironment environment).maxSignatureSize).mapError
          (.refused s!"failed to decode {request.signature.text}") := by
  rw [report, content]
  rfl

theorem run_of_ok {shown : SignatureReport}
    (done : request.report primitives environment files = .ok shown) :
    request.run primitives environment files = success (request.render shown) := by
  rw [run, done]

theorem exitCode_of_content {bytes : Bytes}
    (content : files.read request.signature = .ok bytes) :
    (request.run primitives environment files).exitCode =
      match SignatureReport.ofBytes primitives bytes
        (Config.ofEnvironment environment).maxSignatureSize with
      | .ok _ => 0
      | .error _ => 4 := by
  rw [run, report_of_content content]
  cases shown : SignatureReport.ofBytes primitives bytes
      (Config.ofEnvironment environment).maxSignatureSize with
  | ok report => rfl
  | error error =>
      change error.kind.exitCode = 4
      rw [SignatureReport.kind_of_refused shown]
      rfl

end InspectRequest

end CommandLine

end PackageSignature
