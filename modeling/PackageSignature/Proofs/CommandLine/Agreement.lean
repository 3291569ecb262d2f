import PackageSignature.Proofs.CommandLine.Inspection
import PackageSignature.Proofs.CommandLine.Rendering

/-! How an inspection and a verification of one file agree. What was verified is what is shown.
What cannot be shown fails to verify with the same error, but for a file without a byte: the
verification takes it for no signature, and the inspection for an invalid one. -/

namespace PackageSignature

theorem FileSystem.readIfPresent_eq_some_iff {files : FileSystem} {path : Path} {bytes : Bytes} :
    files.readIfPresent path = .ok (some bytes) ↔ files.read path = .ok bytes := by
  rw [readIfPresent]
  cases files.read path with
  | ok content => simp only [Except.ok.injEq, Option.some.injEq]
  | error fault =>
      by_cases nothing : fault.missing = true
      · simp only [if_pos nothing, Except.ok.injEq, reduceCtorEq]
      · simp only [if_neg nothing, reduceCtorEq]

namespace CommandLine

namespace VerifyRequest

variable {request : VerifyRequest} {primitives : Primitives} {environment : Environment}
  {files : FileSystem} {file : Path}

theorem source_of_named (named : request.signature = some file) :
    (request.verifier primitives environment files).source = files.single file := by
  rw [verifier, source, named]

theorem fetch_of_named {bytes : Bytes} (named : request.signature = some file)
    (content : files.read file = .ok bytes) :
    (request.verifier primitives environment files).source.fetch request.package =
      .ok (some bytes) := by
  rw [source_of_named named]
  exact FileSystem.readIfPresent_eq_some_iff.mpr content

theorem verdict_of_content {bytes : Bytes} {fileSize : UInt64}
    (named : request.signature = some file) (content : files.read file = .ok bytes)
    (nonempty : bytes ≠ []) (sized : files.size request.package = .ok fileSize) :
    request.verdict primitives environment files =
      Verification.verify primitives fileSize bytes request.choice
        (Config.ofEnvironment environment).maxSignatureSize := by
  have measured : (request.verifier primitives environment files).source.fileSize
      request.package = .ok fileSize := by
    rw [source_of_named named]
    exact sized
  exact Verifier.result_verify_of_nonempty (fetch_of_named named content) nonempty measured

theorem verdict_of_no_bytes (named : request.signature = some file)
    (content : files.read file = .ok []) :
    request.verdict primitives environment files =
      .error (.signatureNotFound request.package) :=
  Verifier.Verdict.result_eq (.empty (fetch_of_named named content))

theorem exists_verified_of_success
    (success : (request.run primitives environment files).exitCode = 0) :
    ∃ verified, request.verdict primitives environment files = .ok verified := by
  cases sized : files.size request.package with
  | error fault =>
      rw [run_of_unreadable sized] at success
      cases success
  | ok fileSize => exact (exitCode_eq_iff_of_sized sized).1.mp success

theorem exists_content_of_verified {verified : VerifiedSigner}
    (named : request.signature = some file)
    (accepted : request.verdict primitives environment files = .ok verified) :
    ∃ bytes fileSize, files.read file = .ok bytes ∧ files.size request.package = .ok fileSize ∧
      Verification.verify primitives fileSize bytes request.choice
        (Config.ofEnvironment environment).maxSignatureSize = .ok verified := by
  have verdict := Verifier.result_verify_eq_iff.mp accepted
  generalize answer : Except.ok verified = outcome at verdict ⊢
  cases verdict with
  | @verified bytes envelope fileSize fetched nonempty opened sized =>
      rw [source_of_named named] at fetched sized
      exact ⟨bytes, fileSize, FileSystem.readIfPresent_eq_some_iff.mp fetched, sized, rfl⟩
  | _ => cases answer

end VerifyRequest

structure SignerReport.Describes (shown : SignerReport) (signer : SigningInfo)
    (verified : VerificationReport) : Prop where
  apkDigest : shown.apkDigest = verified.apkDigest
  subject : ∃ certificate, verified.certificates = [certificate] ∧
    shown.subject = some certificate.subject
  algorithm : ∃ algorithm ∈ SignatureAlgorithm.all, shown.algorithmId = algorithm.id ∧
    shown.algorithm = some algorithm.name
  certificateLength : shown.certificateLength = signer.certificate.length
  publicKeyLength : shown.publicKeyLength = signer.publicKey.length
  additionalDataLength : shown.additionalDataLength = signer.additionalData.length
  signatureLength : shown.signatureLength = signer.signature.length

/-- What is shown of a signature is what a verification of it reports. -/
structure SignatureReport.Agrees (shown : SignatureReport) (asked : Verification.Request)
    (verified : VerificationReport) : Prop where
  version : shown.version = 2
  hashAlgorithm : shown.hashing.hashAlgorithm = 1
  contentDigests : verified.contentDigests = [(3, shown.hashing.rootHash)]
  default : asked.choice = .default →
    ∃ hashing signer, shown.hashing = .ofHashing hashing ∧ asked.Selects hashing signer ∧
      shown.defaultSigner.Describes signer verified
  block : ∀ blockId, asked.choice = .block blockId →
    ∃ block ∈ shown.blocks, block.blockId = blockId

section Passed

open Verification

variable {primitives : Primitives} {asked : Verification.Request} {records : Records}

theorem SignerReport.describes_of_passed
    (passed : Passed primitives asked records Check.order.length) (package : Path)
    (choice : SignerChoice) :
    (SignerReport.ofSigner primitives records.signer).Describes records.signer
      (VerificationReport.ofVerified package choice records.verified) := by
  obtain ⟨-, -, -, -, -, ⟨listed, sameId⟩, -, -, certified, -, -⟩ := passed_iff.mp passed
  have named : SignatureAlgorithm.ofId? records.signer.signatureAlgorithmId =
      some records.algorithm := SignatureAlgorithm.ofId?_eq_some_iff.mpr ⟨listed, sameId⟩
  refine ⟨rfl, ⟨.ofCertificate records.certificate, rfl, ?_⟩,
    ⟨records.algorithm, listed, sameId.symm, ?_⟩, rfl, rfl, rfl, rfl⟩
  · rw [SignerReport.ofSigner, certified]
    rfl
  · rw [SignerReport.ofSigner, named]
    rfl

theorem SignatureReport.showing_of_passed
    (passed : Passed primitives asked records Check.order.length) :
    ∃ signer, SignatureReport.ofBytes primitives asked.bytes asked.maxSize =
        .ok (ofRecords primitives records.envelope records.hashing records.signers signer) ∧
      (asked.choice = .default → signer = records.signer) := by
  obtain ⟨opens, hashed, listed, meant, -⟩ := passed_iff.mp passed
  obtain ⟨signer, first⟩ := SignerList.exists_default_of_decode listed
  have opened := decodeEnvelope_eq_ok_iff.mpr opens
  refine ⟨signer, (Showing.shown opened hashed listed first).ofBytes_eq, ?_⟩
  intro default
  rw [default] at meant
  exact Except.ok.inj (first.symm.trans meant)

theorem SignatureReport.exists_agrees {verified : VerifiedSigner}
    (accepted : asked.outcome primitives = .ok verified) (package : Path)
    (choice : SignerChoice) :
    ∃ shown, SignatureReport.ofBytes primitives asked.bytes asked.maxSize = .ok shown ∧
      shown.Agrees asked (.ofVerified package choice verified) := by
  obtain ⟨records, passed, rfl⟩ := outcome_eq_ok_iff.mp accepted
  obtain ⟨signer, shown, same⟩ := showing_of_passed passed
  obtain ⟨opens, -, -, meant, -, -, -, -, -, -, known⟩ := passed_iff.mp passed
  refine ⟨_, shown, Envelope.mem_supportedVersions_iff.mp opens.supported, known, rfl, ?_, ?_⟩
  · intro default
    cases same default
    exact ⟨records.hashing, records.signer, rfl, (passed.mono (by decide)).selects,
      SignerReport.describes_of_passed passed package choice⟩
  · intro blockId chosen
    rw [chosen] at meant
    obtain ⟨before, block, after, split, -, sameId, -⟩ := meant
    refine ⟨.ofBlock block, List.mem_map_of_mem ?_, sameId⟩
    rw [split]
    exact List.mem_append_cons_self

end Passed

/-- Where a package is verified with a file, the inspection of the file shows what was
verified. -/
theorem inspection_shows_what_was_verified (request : VerifyRequest) (inspection : InspectRequest)
    (primitives : Primitives) (environment : Environment) (files : FileSystem)
    (sameFile : request.signature = some inspection.signature)
    (success : (request.run primitives environment files).exitCode = 0) :
    ∃ bytes fileSize verified shown,
      files.read inspection.signature = .ok bytes ∧
      files.size request.package = .ok fileSize ∧
      request.report primitives environment files = .ok verified ∧
      inspection.report primitives environment files = .ok shown ∧
      (inspection.run primitives environment files).exitCode = 0 ∧
      (inspection.run primitives environment files).stdout = inspection.render shown ∧
      Text.Lists (inspection.render shown) (shown.pieces inspection.format) ∧
      shown.Agrees
        { fileSize, bytes, choice := request.choice,
          maxSize := (Config.ofEnvironment environment).maxSignatureSize } verified := by
  obtain ⟨signer, accepted⟩ := VerifyRequest.exists_verified_of_success success
  obtain ⟨bytes, fileSize, content, sized, verified⟩ :=
    VerifyRequest.exists_content_of_verified sameFile accepted
  let asked : Verification.Request :=
    { fileSize, bytes, choice := request.choice,
      maxSize := (Config.ofEnvironment environment).maxSignatureSize }
  have answered : asked.outcome primitives = .ok signer := verified
  obtain ⟨shown, decoded, agrees⟩ :=
    SignatureReport.exists_agrees answered request.package request.choice
  have reported : request.report primitives environment files =
      .ok (.ofVerified request.package request.choice signer) := by
    rw [VerifyRequest.report_of_sized sized, accepted]
    rfl
  have inspected : inspection.report primitives environment files = .ok shown := by
    rw [InspectRequest.report_of_content content, decoded]
    rfl
  have ran := InspectRequest.run_of_ok inspected
  exact ⟨bytes, fileSize, _, shown, content, sized, reported, inspected,
    congrArg Outcome.exitCode ran, congrArg Outcome.stdout ran,
    inspection.lists_render shown, agrees⟩

def sampleInspection : InspectRequest where
  signature := ⟨"a.sig"⟩
  format := .text

theorem inspection_shows_what_was_verified_sample :
    (∃ verified shown,
      (VerifyRequest.sampleRequest (some ⟨"a.sig"⟩) none false).report
          Verification.samplePrimitives ⟨[]⟩
          (VerifyRequest.sampleFiles (.ok Verification.sampleBytes)) = .ok verified ∧
        sampleInspection.report Verification.samplePrimitives ⟨[]⟩
          (VerifyRequest.sampleFiles (.ok Verification.sampleBytes)) = .ok shown ∧
        shown.version = 2 ∧ shown.defaultSigner.apkDigest = verified.apkDigest) ∧
      (sampleInspection.run Verification.samplePrimitives ⟨[]⟩
        (VerifyRequest.sampleFiles (.ok Verification.sampleBytes))).exitCode = 0 ∧
      ∃ shown, sampleInspection.report Verification.samplePrimitives ⟨[]⟩
          (VerifyRequest.sampleFiles (.ok Verification.sampleBytes)) = .ok shown ∧
        ∃ block ∈ shown.blocks, block.blockId = 5 := by
  have accepted {blockId : Option UInt32} (either : blockId = none ∨ blockId = some 5) :
      ((VerifyRequest.sampleRequest (some ⟨"a.sig"⟩) blockId false).run
        Verification.samplePrimitives ⟨[]⟩
        (VerifyRequest.sampleFiles (.ok Verification.sampleBytes))).exitCode = 0 :=
    congrArg Outcome.exitCode (VerifyRequest.run_of_verified rfl
      (VerifyRequest.verdict_sampleRequest _ false either))
  obtain ⟨_, _, verified, shown, -, -, reported, inspected, ran, -, -, agrees⟩ :=
    inspection_shows_what_was_verified _ sampleInspection _ _ _ rfl (accepted (.inl rfl))
  obtain ⟨-, signer, -, -, describes⟩ := agrees.default rfl
  obtain ⟨_, _, _, listing, -, -, -, listed, -, -, -, others⟩ :=
    inspection_shows_what_was_verified _ sampleInspection _ _ _ rfl (accepted (.inr rfl))
  exact ⟨⟨verified, shown, reported, inspected, agrees.version, describes.apkDigest⟩, ran,
    listing, listed, others.block 5 rfl⟩

/-! ### What is invalid for one is invalid for the other -/

/-- What the inspection of a file calls invalid the verification with the file refuses with the
same error, but for a file without a byte, which is no signature to the verification. -/
theorem invalid_for_both_unless_empty (request : VerifyRequest) (inspection : InspectRequest)
    (primitives : Primitives) (environment : Environment) (files : FileSystem)
    {fileSize : UInt64} {bytes : Bytes}
    (sameFile : request.signature = some inspection.signature)
    (sized : files.size request.package = .ok fileSize)
    (content : files.read inspection.signature = .ok bytes) :
    (bytes = [] →
      (inspection.run primitives environment files).exitCode = 4 ∧
        (request.run primitives environment files).exitCode = 2) ∧
    (bytes ≠ [] → (inspection.run primitives environment files).exitCode = 4 →
      (request.run primitives environment files).exitCode = 4 ∧
        ∃ error,
          inspection.report primitives environment files =
              .error (.refused s!"failed to decode {inspection.signature.text}" error) ∧
            request.report primitives environment files =
              .error (.refused s!"failed to verify {request.package.text}" error)) := by
  have inspected : (inspection.run primitives environment files).exitCode = _ :=
    InspectRequest.exitCode_of_content content
  constructor
  · intro empty
    rw [empty] at inspected content
    constructor
    · exact inspected
    · rw [VerifyRequest.run_of_refused sized (VerifyRequest.verdict_of_no_bytes sameFile content)]
      rfl
  · intro nonempty invalid
    cases shown : SignatureReport.ofBytes primitives bytes
        (Config.ofEnvironment environment).maxSignatureSize with
    | ok report =>
        rw [inspected, shown] at invalid
        cases invalid
    | error error =>
        have refused : request.verdict primitives environment files = .error error :=
          (VerifyRequest.verdict_of_content sameFile content nonempty sized).trans
            (SignatureReport.verify_of_refused nonempty shown fileSize request.choice)
        refine ⟨?_, error, ?_, ?_⟩
        · rw [VerifyRequest.run_of_refused sized refused, SignatureReport.kind_of_refused shown]
          rfl
        · rw [InspectRequest.report_of_content content, shown]
          rfl
        · rw [VerifyRequest.report_of_sized sized, refused]
          rfl

theorem invalid_for_both_unless_empty_samples :
    ((sampleInspection.run Verification.samplePrimitives ⟨[]⟩
          (VerifyRequest.sampleFiles (.ok [3, 0, 0, 0]))).exitCode = 4 ∧
        ((VerifyRequest.sampleRequest (some ⟨"a.sig"⟩) (some 5) true).run
          Verification.samplePrimitives ⟨[]⟩
          (VerifyRequest.sampleFiles (.ok [3, 0, 0, 0]))).exitCode = 4) ∧
      (sampleInspection.run Verification.samplePrimitives ⟨[]⟩
          (VerifyRequest.sampleFiles (.ok []))).exitCode = 4 ∧
        ((VerifyRequest.sampleRequest (some ⟨"a.sig"⟩) (some 5) true).run
          Verification.samplePrimitives ⟨[]⟩
          (VerifyRequest.sampleFiles (.ok []))).exitCode = 2 := by
  obtain ⟨-, invalid⟩ := invalid_for_both_unless_empty
    (VerifyRequest.sampleRequest (some ⟨"a.sig"⟩) (some 5) true) sampleInspection
    Verification.samplePrimitives ⟨[]⟩ (VerifyRequest.sampleFiles (.ok [3, 0, 0, 0])) rfl rfl rfl
  obtain ⟨empty, -⟩ := invalid_for_both_unless_empty
    (VerifyRequest.sampleRequest (some ⟨"a.sig"⟩) (some 5) true) sampleInspection
    Verification.samplePrimitives ⟨[]⟩ (VerifyRequest.sampleFiles (.ok [])) rfl rfl rfl
  exact ⟨⟨rfl, (invalid (List.cons_ne_nil _ _) rfl).1⟩, empty rfl⟩

/-- One file without a byte is an invalid signature to the inspection and none at all to the
verification. -/
theorem empty_file_invalid_and_missing :
    (sampleInspection.run Verification.samplePrimitives ⟨[]⟩
        (VerifyRequest.sampleFiles (.ok []))).exitCode = 4 ∧
      ((VerifyRequest.sampleRequest (some ⟨"a.sig"⟩) none true).run Verification.samplePrimitives
        ⟨[]⟩ (VerifyRequest.sampleFiles (.ok []))).exitCode = 2 :=
  ⟨rfl, rfl⟩

end CommandLine

end PackageSignature
