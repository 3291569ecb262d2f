import Mathlib.Algebra.GroupWithZero.Nat
import PackageSignature.Proofs.CommandLine.Agreement
import PackageSignature.Proofs.Verifier.Kinds

/-! An inspection leaves nothing out. Whatever can be decoded down to the list of the signers is
shown, whether or not anything in it makes sense; and the lengths that are shown add up to the
list, so there is no byte of it that belongs to something else. -/

namespace PackageSignature

theorem SignerList.length_toBytes (signers : SignerList) :
    signers.toBytes.length =
      signers.defaultSigner.length +
        (signers.blocks.map fun block => 8 + block.signingInfo.length).sum := by
  rw [toBytes, List.length_append, List.length_flatMap]
  simp only [SignerBlock.length_toBytes]

namespace CommandLine

theorem HashingReport.ofHashing_injective {hashing other : HashingInfo}
    (same : ofHashing hashing = ofHashing other) : hashing = other := by
  obtain ⟨sameAlgorithm, sameSize, sameSalt, sameRoot⟩ := HashingReport.mk.inj same
  cases hashing
  cases other
  rw [HashingInfo.mk.injEq]
  exact ⟨sameAlgorithm, sameSize, Bytes.toHex_injective sameSalt, Bytes.toHex_injective sameRoot⟩

namespace SignatureReport

variable {primitives : Primitives} {bytes : Bytes} {maxSize : Nat} {envelope : Envelope}
  {hashing : HashingInfo} {signers : SignerList} {signer : SigningInfo}

structure Decodes (bytes : Bytes) (maxSize : Nat) (envelope : Envelope) (hashing : HashingInfo)
    (signers : SignerList) : Prop where
  opened : Verification.decodeEnvelope bytes maxSize = .ok envelope
  hashed : HashingInfo.decode envelope.hashingInfo = .ok hashing
  listed : SignerList.decode envelope.signingInfos = .ok signers

theorem Decodes.exists_shown (decodes : Decodes bytes maxSize envelope hashing signers)
    (primitives : Primitives) :
    ∃ signer, signers.decodeDefault = .ok signer ∧ signer.toBytes = signers.defaultSigner ∧
      ofBytes primitives bytes maxSize =
        .ok (ofRecords primitives envelope hashing signers signer) := by
  obtain ⟨encodable, -⟩ := SignerList.decode_eq_ok_iff.mp decodes.listed
  obtain ⟨signer, first, same⟩ := SignerList.decodeDefault_of_encodable encodable
  have showing : Showing primitives bytes maxSize _ :=
    .shown decodes.opened decodes.hashed decodes.listed first
  exact ⟨signer, first, same, showing.ofBytes_eq⟩

theorem exists_decodes_of_shown {shown : SignatureReport}
    (done : ofBytes primitives bytes maxSize = .ok shown) :
    ∃ envelope hashing signers, Decodes bytes maxSize envelope hashing signers := by
  cases showing_of_ofBytes done with
  | shown opened hashed listed first => exact ⟨_, _, _, opened, hashed, listed⟩

/-- The report accounts for the envelope. The list of the signers is the default signer and the
blocks behind it, each block is listed where it stands, and every byte is counted: besides what
stands behind its lengths, the default signer takes up five lengths and an id of four bytes each,
and a block takes up one length and one id. -/
structure Covers (shown : SignatureReport) (envelope : Envelope) (hashing : HashingInfo)
    (signers : SignerList) (signer : SigningInfo) : Prop where
  version : shown.version = envelope.version
  hashing : ∀ other, shown.hashing = .ofHashing other ↔ other = hashing
  default : signers.decodeDefault = .ok signer
  stored : envelope.signingInfos = signer.toBytes ++ signers.blocks.flatMap SignerBlock.toBytes
  blocks : shown.blocks.map (fun block => (block.blockId, block.length)) =
    signers.blocks.map (fun block => (block.blockId, block.signingInfo.length))
  apkDigest : shown.defaultSigner.apkDigest = signer.apkDigest.toHex
  unmarked : ∀ digest ∈
      [shown.hashing.salt, shown.hashing.rootHash, shown.defaultSigner.apkDigest],
    Json.quote digest = "\"" ++ digest ++ "\""
  digestLength : shown.defaultSigner.apkDigest.length = 2 * signer.apkDigest.length
  counted :
    24 + signer.apkDigest.length + shown.defaultSigner.certificateLength +
        shown.defaultSigner.additionalDataLength + shown.defaultSigner.publicKeyLength +
        shown.defaultSigner.signatureLength +
        (shown.blocks.map (fun block => 8 + block.length)).sum =
      envelope.signingInfos.length

theorem covers_ofRecords (primitives : Primitives)
    (listed : SignerList.decode envelope.signingInfos = .ok signers)
    (first : signers.decodeDefault = .ok signer)
    (same : signer.toBytes = signers.defaultSigner) :
    (ofRecords primitives envelope hashing signers signer).Covers envelope hashing signers
      signer where
  version := rfl
  hashing other := by
    constructor
    · intro same
      exact (HashingReport.ofHashing_injective same).symm
    · rintro rfl
      rfl
  default := first
  stored := by
    rw [(SignerList.decode_eq_ok_iff.mp listed).2, same]
    rfl
  blocks := List.map_map
  apkDigest := rfl
  unmarked := by
    simp only [List.forall_mem_cons]
    exact ⟨Json.quote_toHex _, Json.quote_toHex _, Json.quote_toHex _, List.forall_mem_nil _⟩
  digestLength := Bytes.length_toHex _
  counted := by
    have ofBlocks : ((ofRecords primitives envelope hashing signers signer).blocks.map
        fun block => 8 + block.length) =
          signers.blocks.map fun block => 8 + block.signingInfo.length := List.map_map
    have whole : envelope.signingInfos.length =
        signer.toBytes.length +
          (signers.blocks.map fun block => 8 + block.signingInfo.length).sum := by
      rw [(SignerList.decode_eq_ok_iff.mp listed).2, SignerList.length_toBytes, same]
    rw [whole, ofBlocks, SigningInfo.length_toBytes]
    change 24 + signer.apkDigest.length + signer.certificate.length +
      signer.additionalData.length + signer.publicKey.length + signer.signature.length + _ = _
    omega

end SignatureReport

/-- What can be read is shown just where its records can be decoded. Then it is shown completely,
and all that is shown is printed. It is invalid otherwise, and never missing. -/
theorem inspection_complete (request : InspectRequest) (primitives : Primitives)
    (environment : Environment) (files : FileSystem) {bytes : Bytes}
    (content : files.read request.signature = .ok bytes) :
    ((request.run primitives environment files).exitCode = 0 ↔
      ∃ envelope hashing signers,
        SignatureReport.Decodes bytes (Config.ofEnvironment environment).maxSignatureSize envelope
          hashing signers) ∧
    ((request.run primitives environment files).exitCode ≠ 0 →
      (request.run primitives environment files).exitCode = 4) ∧
    ∀ envelope hashing signers,
      SignatureReport.Decodes bytes (Config.ofEnvironment environment).maxSignatureSize envelope
        hashing signers →
      ∃ shown signer,
        request.report primitives environment files = .ok shown ∧
        request.run primitives environment files = success (request.render shown) ∧
        Text.Lists (request.render shown) (shown.pieces request.format) ∧
        shown.Covers envelope hashing signers signer := by
  have exits : (request.run primitives environment files).exitCode = _ :=
    InspectRequest.exitCode_of_content content
  refine ⟨⟨?_, ?_⟩, ?_, ?_⟩
  · intro success
    cases shown : SignatureReport.ofBytes primitives bytes
        (Config.ofEnvironment environment).maxSignatureSize with
    | ok report => exact SignatureReport.exists_decodes_of_shown shown
    | error error =>
        rw [exits, shown] at success
        cases success
  · rintro ⟨envelope, hashing, signers, decodes⟩
    obtain ⟨signer, -, -, shown⟩ := decodes.exists_shown primitives
    rw [exits, shown]
  · intro failed
    cases shown : SignatureReport.ofBytes primitives bytes
        (Config.ofEnvironment environment).maxSignatureSize with
    | ok report =>
        rw [exits, shown] at failed
        exact absurd rfl failed
    | error error => rw [exits, shown]
  · intro envelope hashing signers decodes
    obtain ⟨signer, first, same, shown⟩ := decodes.exists_shown primitives
    have reported : request.report primitives environment files =
        .ok (.ofRecords primitives envelope hashing signers signer) := by
      rw [InspectRequest.report_of_content content, shown]
      rfl
    exact ⟨_, signer, reported, InspectRequest.run_of_ok reported,
      request.lists_render _, SignatureReport.covers_ofRecords primitives decodes.listed first same⟩

theorem decodes_damagedEnvelope :
    SignatureReport.Decodes Verifier.damagedEnvelope.toBytes
      (Config.ofEnvironment ⟨[]⟩).maxSignatureSize Verifier.damagedEnvelope
      Verification.sampleHashing Verification.damagedSigners where
  opened := Verification.decodeEnvelope_eq_ok_iff.mpr Verifier.damagedEnvelope_opens
  hashed := Verification.decode_sampleHashing
  listed := Verification.decode_damagedSigners

theorem inspection_complete_damaged_block :
    (sampleInspection.run .standard ⟨[]⟩
        (VerifyRequest.sampleFiles (.ok Verifier.damagedEnvelope.toBytes))).exitCode = 0 ∧
      (∃ shown : SignatureReport,
        sampleInspection.report .standard ⟨[]⟩
          (VerifyRequest.sampleFiles (.ok Verifier.damagedEnvelope.toBytes)) = .ok shown ∧
        shown.blocks.map (fun block => (block.blockId, block.length)) = [(7, 3), (7, 32)]) ∧
      (sampleInspection.run .standard ⟨[]⟩
        (VerifyRequest.sampleFiles (.ok [3, 0, 0, 0]))).exitCode = 4 := by
  obtain ⟨shows, -, listed⟩ := inspection_complete sampleInspection .standard ⟨[]⟩
    (VerifyRequest.sampleFiles (.ok Verifier.damagedEnvelope.toBytes)) rfl
  obtain ⟨-, invalid, -⟩ := inspection_complete sampleInspection .standard ⟨[]⟩
    (VerifyRequest.sampleFiles (.ok [3, 0, 0, 0])) rfl
  obtain ⟨shown, signer, reported, -, -, covers⟩ := listed _ _ _ decodes_damagedEnvelope
  refine ⟨shows.mpr ⟨_, _, _, decodes_damagedEnvelope⟩, ⟨shown, reported, ?_⟩, invalid ?_⟩
  · rw [covers.blocks]
    rfl
  · exact Nat.succ_ne_zero 3

end CommandLine

end PackageSignature
