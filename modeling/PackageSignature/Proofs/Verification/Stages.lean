import PackageSignature.Proofs.Record.Envelope
import PackageSignature.Proofs.Record.SignerList
import PackageSignature.Verification

/-! The stages of a verification. Each one is described by when it succeeds, and the
verification of an accepted envelope is written out as the chain of its stages, so that
no later proof opens the run with its log. -/

namespace PackageSignature

@[simp] theorem ok_bind {α β ε : Type} (value : α) (next : α → Except ε β) :
    (Except.ok value >>= next) = next value := rfl

@[simp] theorem error_bind {α β ε : Type} (error : ε) (next : α → Except ε β) :
    ((Except.error error : Except ε α) >>= next) = .error error := rfl

/-- The signer that a choice means: the default signer, or the one in the first of the
blocks with the given id. -/
def SignerList.Means (signers : SignerList) : SignerChoice → SigningInfo → Prop
  | .default, signer => signers.decodeDefault = .ok signer
  | .block blockId, signer =>
      ∃ before block after, signers.blocks = before ++ block :: after ∧
        (∀ earlier ∈ before, earlier.blockId ≠ blockId) ∧ block.blockId = blockId ∧
        SigningInfo.decode block.signingInfo = .ok signer

theorem SignerList.find?_eq_some_iff {signers : SignerList} {blockId : UInt32}
    {block : SignerBlock} :
    signers.find? blockId = some block ↔
      ∃ before after, signers.blocks = before ++ block :: after ∧
        (∀ earlier ∈ before, earlier.blockId ≠ blockId) ∧ block.blockId = blockId := by
  rw [SignerList.find?, List.find?_eq_some_iff_append]
  simp only [beq_iff_eq, Bool.not_eq_true', beq_eq_false_iff_ne]
  constructor
  · rintro ⟨same, before, after, split, others⟩
    exact ⟨before, after, split, others, same⟩
  · rintro ⟨before, after, split, others, same⟩
    exact ⟨same, before, after, split, others⟩

theorem SignatureAlgorithm.ofId?_eq_some_iff {id : UInt32} {algorithm : SignatureAlgorithm} :
    SignatureAlgorithm.ofId? id = some algorithm ↔
      algorithm ∈ SignatureAlgorithm.all ∧ algorithm.id = id := by
  constructor
  · intro found
    rw [SignatureAlgorithm.ofId?] at found
    have same := List.find?_some found
    exact ⟨List.mem_of_find?_eq_some found, beq_iff_eq.mp same⟩
  · rintro ⟨-, rfl⟩
    exact SignatureAlgorithm.ofId?_id algorithm

namespace Verification

variable {primitives : Primitives} {fileSize : UInt64} {bytes : Bytes} {choice : SignerChoice}
  {maxSize : Nat}

theorem chooseSigner_eq_ok_iff {signers : SignerList} {signer : SigningInfo} :
    chooseSigner signers choice = .ok signer ↔ signers.Means choice signer := by
  cases choice with
  | default => exact mapError_eq_ok_iff
  | block blockId =>
      rw [chooseSigner]
      cases found : signers.find? blockId with
      | none =>
          constructor
          · intro impossible
            cases impossible
          · rintro ⟨before, block, after, split, others, same, -⟩
            rw [SignerList.find?_eq_some_iff.mpr ⟨before, after, split, others, same⟩] at found
            cases found
      | some block =>
          rw [mapError_eq_ok_iff]
          constructor
          · intro decoded
            obtain ⟨before, after, split, others, same⟩ := SignerList.find?_eq_some_iff.mp found
            exact ⟨before, block, after, split, others, same, decoded⟩
          · rintro ⟨before, other, after, split, others, same, decoded⟩
            rw [SignerList.find?_eq_some_iff.mpr ⟨before, after, split, others, same⟩] at found
            cases found
            exact decoded

theorem signedData_eq_ok_iff {hashing : HashingInfo} {signer : SigningInfo} {data : Bytes} :
    signedData fileSize hashing signer = .ok data ↔
      SignedData.encode? fileSize hashing signer = some data := by
  rw [signedData]
  cases SignedData.encode? fileSize hashing signer with
  | none => simp
  | some same => simp

theorem resolveAlgorithm_eq_ok_iff {id : UInt32} {algorithm : SignatureAlgorithm} :
    resolveAlgorithm id = .ok algorithm ↔
      algorithm ∈ SignatureAlgorithm.all ∧ algorithm.id = id := by
  rw [← SignatureAlgorithm.ofId?_eq_some_iff, resolveAlgorithm]
  cases SignatureAlgorithm.ofId? id with
  | none => simp
  | some same => simp

theorem decodeKey_eq_ok_iff {family : KeyFamily} {encoded : Bytes} {key : PublicKey} :
    decodeKey primitives family encoded = .ok key ↔
      PublicKey.decode primitives family encoded = .ok key :=
  mapError_eq_ok_iff

theorem decodeCertificate_eq_ok_iff {encoded : Bytes} {certificate : Certificate} :
    decodeCertificate primitives encoded = .ok certificate ↔
      primitives.certificate encoded = .ok certificate :=
  mapError_eq_ok_iff

theorem result_checkSigner {signer : SigningInfo} {data : Bytes} :
    (checkSigner primitives signer data).result = (do
      let algorithm ← resolveAlgorithm signer.signatureAlgorithmId
      let key ← decodeKey primitives algorithm.family signer.publicKey
      checkSignature primitives algorithm key data signer.signature
      let certificate ← decodeCertificate primitives signer.certificate
      if certificate.subjectKey = signer.publicKey then
        .ok certificate
      else
        .error .publicKeyMismatch) := by
  simp only [checkSigner, Traced.result_bind, Traced.result_lift, Traced.result_emit,
    apply_ite Traced.result, Traced.result_pure, Traced.fail]
  rfl

theorem verifyDecoded_of_supported {envelope : Envelope}
    (supported : envelope.version ∈ Envelope.supportedVersions) :
    verifyDecoded primitives fileSize envelope choice = (do
      let hashing ← envelope.decodeHashingInfo.mapError .decode
      let signers ← envelope.decodeSigners.mapError .decode
      let signer ← chooseSigner signers choice
      let data ← signedData fileSize hashing signer
      let certificate ← (checkSigner primitives signer data).result
      vouch certificate signer hashing) := by
  rw [verifyDecoded, run, if_pos (Envelope.isSupported_iff.mpr supported)]
  simp only [Traced.result_bind, Traced.result_lift, Traced.result_emit]
  rfl

theorem verify_of_empty :
    verify primitives fileSize [] choice maxSize = .error .emptySignature := rfl

theorem verify_of_nonempty (nonempty : bytes ≠ []) :
    verify primitives fileSize bytes choice maxSize = (do
      let envelope ← decodeEnvelope bytes maxSize
      verifyDecoded primitives fileSize envelope choice) := by
  rw [verify, if_neg (by rw [List.isEmpty_iff]; exact nonempty)]

theorem nonempty_of_version {version : UInt32} {rest : Bytes}
    (split : bytes = Encoding.u32 version ++ rest) : bytes ≠ [] := by
  intro empty
  have counted := congrArg List.length split
  rw [empty, List.length_append, Encoding.length_u32, List.length_nil] at counted
  omega

theorem nonempty_of_opens {envelope : Envelope} (opens : envelope.Opens bytes maxSize) :
    bytes ≠ [] := by
  obtain ⟨tail, split⟩ := opens.atHead
  rw [Envelope.toBytes, List.append_assoc, List.append_assoc] at split
  exact nonempty_of_version split.symm

theorem decodeEnvelope_eq_ok_iff {envelope : Envelope} :
    decodeEnvelope bytes maxSize = .ok envelope ↔ envelope.Opens bytes maxSize := by
  rw [decodeEnvelope, mapError_eq_ok_iff, Envelope.decode_eq_ok_iff]

theorem verify_of_opens {envelope : Envelope} (opens : envelope.Opens bytes maxSize) :
    verify primitives fileSize bytes choice maxSize =
      verifyDecoded primitives fileSize envelope choice := by
  rw [verify_of_nonempty (nonempty_of_opens opens), decodeEnvelope_eq_ok_iff.mpr opens, ok_bind]

structure Request where
  fileSize : UInt64
  bytes : Bytes
  choice : SignerChoice
  maxSize : Nat

def Request.outcome (primitives : Primitives) (request : Request) :
    Except VerifyError VerifiedSigner :=
  verify primitives request.fileSize request.bytes request.choice request.maxSize

/-- The hashing info and the signer that the bytes hold for the choice. -/
def Request.Selects (request : Request) (hashing : HashingInfo) (signer : SigningInfo) : Prop :=
  ∃ envelope signers, Envelope.decode request.bytes request.maxSize = .ok envelope ∧
    envelope.decodeHashingInfo = .ok hashing ∧ envelope.decodeSigners = .ok signers ∧
    chooseSigner signers request.choice = .ok signer

theorem Request.Selects.unique {request : Request} {hashing hashing' : HashingInfo}
    {signer signer' : SigningInfo} (first : request.Selects hashing signer)
    (second : request.Selects hashing' signer') : hashing = hashing' ∧ signer = signer' := by
  obtain ⟨envelope, signers, opened, hashed, listed, chosen⟩ := first
  obtain ⟨envelope', signers', opened', hashed', listed', chosen'⟩ := second
  rw [opened] at opened'
  cases opened'
  rw [hashed] at hashed'
  rw [listed] at listed'
  cases hashed'
  cases listed'
  rw [chosen] at chosen'
  cases chosen'
  exact ⟨rfl, rfl⟩

theorem outcome_of_selects {request : Request} {hashing : HashingInfo} {signer : SigningInfo}
    (selects : request.Selects hashing signer) :
    request.outcome primitives = (do
      let data ← signedData request.fileSize hashing signer
      let certificate ← (checkSigner primitives signer data).result
      vouch certificate signer hashing) := by
  obtain ⟨envelope, signers, opened, hashed, listed, chosen⟩ := selects
  have opens := Envelope.decode_eq_ok_iff.mp opened
  rw [Request.outcome, verify_of_opens opens, verifyDecoded_of_supported opens.supported, hashed,
    listed]
  simp only [ok_mapError, ok_bind, chosen]

end Verification

end PackageSignature
