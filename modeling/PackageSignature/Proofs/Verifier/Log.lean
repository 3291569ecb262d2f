import PackageSignature.Proofs.Verification.Log
import PackageSignature.Proofs.Verifier.Kinds

/-! What the log of a verifier tells. The marks that a verification leaves are those of the
stages that it passed, a failure is one last event, and the mark of an accepted signature is
there just where the signature was accepted. -/

namespace PackageSignature

namespace Verifier

open Verification (Check Passed Records FailsAt look failure)

variable {verifier : Verifier} {path : Path} {choice : SignerChoice} {marks : List Event}
  {outcome : Except VerifyError VerifiedSigner} {error : VerifyError}

def request (verifier : Verifier) (choice : SignerChoice) (bytes : Bytes) (fileSize : UInt64) :
    Verification.Request where
  fileSize := fileSize
  bytes := bytes
  choice := choice
  maxSize := verifier.config.maxSignatureSize

/-- The marks that a verification leaves, and what it comes to. -/
inductive Course (verifier : Verifier) (path : Path) (choice : SignerChoice) :
    List Event → Except VerifyError VerifiedSigner → Prop
  | unreadable {fault : SourceFault} (failed : verifier.source.fetch path = .error fault) :
      Course verifier path choice [] (.error (.source path fault))
  | missing (nothing : verifier.source.fetch path = .ok none) :
      Course verifier path choice [] (.error (.signatureNotFound path))
  | empty (nothing : verifier.source.fetch path = .ok (some [])) :
      Course verifier path choice [] (.error (.signatureNotFound path))
  | refused {bytes : Bytes} {error : VerifyError}
      (fetched : verifier.source.fetch path = .ok (some bytes)) (nonempty : bytes ≠ [])
      (refused : Verification.decodeEnvelope bytes verifier.config.maxSignatureSize =
        .error error) :
      Course verifier path choice [] (.error error)
  | unsized {bytes : Bytes} {envelope : Envelope} {fault : SourceFault}
      (fetched : verifier.source.fetch path = .ok (some bytes)) (nonempty : bytes ≠ [])
      (opened : Verification.decodeEnvelope bytes verifier.config.maxSignatureSize =
        .ok envelope)
      (failed : verifier.source.fileSize path = .error fault) :
      Course verifier path choice [.decoded path envelope.version] (.error (.source path fault))
  | stopped {bytes : Bytes} {fileSize : UInt64} {records : Records} {check : Check}
      {error : VerifyError} (fetched : verifier.source.fetch path = .ok (some bytes))
      (sized : verifier.source.fileSize path = .ok fileSize)
      (passed : Passed verifier.primitives (verifier.request choice bytes fileSize) records
        check.rank)
      (failed : failure verifier.primitives
        (look (verifier.request choice bytes fileSize) records check) = some error)
      (opened : Check.signersLength.rank < check.rank) :
      Course verifier path choice ((records.marks path choice).take check.marksBefore)
        (.error error)
  | accepted {bytes : Bytes} {fileSize : UInt64} {records : Records}
      (fetched : verifier.source.fetch path = .ok (some bytes))
      (sized : verifier.source.fileSize path = .ok fileSize)
      (passed : Passed verifier.primitives (verifier.request choice bytes fileSize) records
        Check.order.length) :
      Course verifier path choice (records.marks path choice) (.ok records.verified)

def warning (path : Path) : Except VerifyError VerifiedSigner → List Event
  | .ok _ => []
  | .error error => [.failed path error]

/-- How a log with so many marks may end in a failure. -/
inductive Ending (path : Path) : Nat → VerifyError → Prop
  | unreadable {fault : SourceFault} : Ending path 0 (.source path fault)
  | notFound : Ending path 0 (.signatureNotFound path)
  | version {version : UInt32} : Ending path 0 (.unsupportedVersion version)
  | envelope {fault : DecodeError} : Ending path 0 (.decode fault)
  | unsized {fault : SourceFault} : Ending path 1 (.source path fault)
  | record {fault : DecodeError} : Ending path 1 (.decode fault)
  | missingBlock {blockId : UInt32} : Ending path 1 (.signerBlockNotFound blockId)
  | damagedBlock {blockId : UInt32} {fault : DecodeError} :
      Ending path 1 (.signerBlock blockId fault)
  | dataSize {length : Nat} : Ending path 2 (.signedDataTooLarge length)
  | algorithm {id : UInt32} : Ending path 2 (.unsupportedAlgorithm id)
  | key {family : KeyFamily} {fault : KeyFault} : Ending path 3 (.invalidPublicKey family fault)
  | malformed {algorithm : SignatureAlgorithm} {fault : SignatureFault} :
      Ending path 3 (.malformedSignature algorithm fault)
  | mismatch {algorithm : SignatureAlgorithm} : Ending path 3 (.signatureMismatch algorithm)
  | certificate {words : String} : Ending path 4 (.invalidCertificate words)
  | keyMatch : Ending path 4 .publicKeyMismatch
  | hashAlgorithm {id : UInt32} : Ending path 4 (.unsupportedHashAlgorithm id)

/-- The signature of the signer that is meant was accepted, by this algorithm. -/
def Accepts (verifier : Verifier) (path : Path) (choice : SignerChoice)
    (algorithm : SignatureAlgorithm) : Prop :=
  ∃ bytes fileSize hashing signer data key,
    verifier.source.fetch path = .ok (some bytes) ∧
    verifier.source.fileSize path = .ok fileSize ∧
    (verifier.request choice bytes fileSize).Selects hashing signer ∧
    SignedData.encode? fileSize hashing signer = some data ∧
    SignatureAlgorithm.ofId? signer.signatureAlgorithmId = some algorithm ∧
    PublicKey.decode verifier.primitives algorithm.family signer.publicKey = .ok key ∧
    Verification.checkSignature verifier.primitives algorithm key data signer.signature = .ok ()

def attempt (verifier : Verifier) (path : Path) (choice : SignerChoice) :
    Traced VerifiedSigner := do
  let envelope ← verifier.readEnvelope path
  let fileSize ← .lift (verifier.fileSize path)
  Verification.run verifier.primitives fileSize envelope choice

theorem events_verify (verifier : Verifier) (path : Path) (choice : SignerChoice) :
    (verifier.verify path choice).events =
      (verifier.attempt path choice).events ++
        warning path (verifier.verify path choice).result := by
  change (Traced.onFailure (verifier.attempt path choice) (.failed path)).events =
    _ ++ warning path (Traced.onFailure (verifier.attempt path choice) (.failed path)).result
  rw [Traced.events_onFailure, Traced.result_onFailure]
  cases (verifier.attempt path choice).result with
  | ok signer => rfl
  | error error => rfl

theorem events_readEnvelope (verifier : Verifier) (path : Path) :
    (verifier.readEnvelope path).events =
      match (verifier.readEnvelope path).result with
      | .ok envelope => [.decoded path envelope.version]
      | .error _ => [] := by
  rw [readEnvelope]
  cases verifier.fetch path with
  | error error => rfl
  | ok bytes =>
      rw [Traced.lift_ok_bind]
      cases Verification.decodeEnvelope bytes verifier.config.maxSignatureSize with
      | error error => rfl
      | ok envelope => rfl

theorem events_attempt_of_error {reason : VerifyError}
    (failed : (verifier.readEnvelope path).result = .error reason) :
    (verifier.attempt path choice).events = [] := by
  rw [attempt, Traced.events_bind, events_readEnvelope, failed]
  rfl

theorem events_attempt_of_unsized {envelope : Envelope} {fault : SourceFault}
    (opened : (verifier.readEnvelope path).result = .ok envelope)
    (failed : verifier.source.fileSize path = .error fault) :
    (verifier.attempt path choice).events = [.decoded path envelope.version] := by
  rw [attempt, Traced.events_bind, events_readEnvelope, opened, fileSize, failed]
  rfl

theorem events_attempt_of_sized {envelope : Envelope} {size : UInt64}
    (opened : (verifier.readEnvelope path).result = .ok envelope)
    (sized : verifier.source.fileSize path = .ok size) :
    (verifier.attempt path choice).events =
      .decoded path envelope.version ::
        (Verification.run verifier.primitives size envelope choice).events := by
  rw [attempt, Traced.events_bind, events_readEnvelope, opened, fileSize, sized]
  rfl

theorem result_readEnvelope_of_opens {bytes : Bytes} {envelope : Envelope}
    (fetched : verifier.source.fetch path = .ok (some bytes))
    (opens : envelope.Opens bytes verifier.config.maxSignatureSize) :
    (verifier.readEnvelope path).result = .ok envelope := by
  have opening : Opening verifier path _ :=
    .fetched fetched (Verification.nonempty_of_opens opens)
  rw [opening.result_eq, Verification.decodeEnvelope_eq_ok_iff.mpr opens]

theorem Course.events_attempt (course : Course verifier path choice marks outcome) :
    (verifier.attempt path choice).events = marks := by
  cases course with
  | unreadable failed => exact events_attempt_of_error (Opening.unreadable failed).result_eq
  | missing nothing => exact events_attempt_of_error (Opening.missing nothing).result_eq
  | empty nothing => exact events_attempt_of_error (Opening.empty nothing).result_eq
  | refused fetched nonempty refused =>
      have opening := (Opening.fetched fetched nonempty).result_eq
      exact events_attempt_of_error (opening.trans refused)
  | unsized fetched nonempty opened failed =>
      have opening := (Opening.fetched fetched nonempty).result_eq
      exact events_attempt_of_unsized (opening.trans opened) failed
  | stopped fetched sized passed failed opened =>
      have opens := passed .signersLength opened
      have log := Verification.events_run_of_failure path passed failed opened
      rw [events_attempt_of_sized (result_readEnvelope_of_opens fetched opens) sized]
      exact log
  | accepted fetched sized passed =>
      have opens := passed .signersLength (by decide)
      have signed := Verification.events_run_of_signature (passed.mono (by decide))
      rw [events_attempt_of_sized (result_readEnvelope_of_opens fetched opens) sized]
      exact congrArg (List.cons _) signed

theorem Course.result_eq (course : Course verifier path choice marks outcome) :
    (verifier.verify path choice).result = outcome := by
  cases course with
  | unreadable failed => exact (Verdict.unreadable failed).result_eq
  | missing nothing => exact (Verdict.missing nothing).result_eq
  | empty nothing => exact (Verdict.empty nothing).result_eq
  | refused fetched nonempty refused => exact (Verdict.refused fetched nonempty refused).result_eq
  | unsized fetched nonempty opened failed =>
      exact (Verdict.unsized fetched nonempty opened failed).result_eq
  | stopped fetched sized passed failed opened =>
      have opens := passed .signersLength opened
      rw [result_verify_of_nonempty fetched (Verification.nonempty_of_opens opens) sized]
      exact Verification.outcome_of_failure passed failed
  | accepted fetched sized passed =>
      have opens := passed .signersLength (by decide)
      rw [result_verify_of_nonempty fetched (Verification.nonempty_of_opens opens) sized]
      exact Verification.outcome_of_passed passed

theorem exists_course (verifier : Verifier) (path : Path) (choice : SignerChoice) :
    ∃ marks outcome, Course verifier path choice marks outcome := by
  obtain ⟨outcome, verdict⟩ := exists_verdict verifier path choice
  cases verdict with
  | unreadable failed => exact ⟨_, _, .unreadable failed⟩
  | missing nothing => exact ⟨_, _, .missing nothing⟩
  | empty nothing => exact ⟨_, _, .empty nothing⟩
  | refused fetched nonempty refused => exact ⟨_, _, .refused fetched nonempty refused⟩
  | unsized fetched nonempty opened failed =>
      exact ⟨_, _, .unsized fetched nonempty opened failed⟩
  | @verified bytes envelope fileSize fetched nonempty opened sized =>
      rcases Verification.fails_or_passed verifier.primitives
          (verifier.request choice bytes fileSize) (Nat.le_refl _) with
        ⟨check, error, fails⟩ | ⟨records, passed⟩
      · have opens : envelope.Opens bytes verifier.config.maxSignatureSize :=
          Envelope.decode_eq_ok_iff.mp (mapError_eq_ok_iff.mp opened)
        let records : Records := { Records.blank with envelope }
        have reached : Passed verifier.primitives (verifier.request choice bytes fileSize) records
            Check.hashingRecord.rank := Verification.passed_of_opens opens
        have behind : Check.signersLength.rank < check.rank :=
          Nat.lt_of_lt_of_le (by decide) (fails.rank_le_of_passed reached)
        obtain ⟨records, passed, failed⟩ := fails
        exact ⟨_, _, .stopped fetched sized passed failed behind⟩
      · exact ⟨_, _, .accepted fetched sized passed⟩

theorem course_verify (verifier : Verifier) (path : Path) (choice : SignerChoice) :
    Course verifier path choice (verifier.attempt path choice).events
      (verifier.verify path choice).result := by
  obtain ⟨marks, outcome, course⟩ := exists_course verifier path choice
  rw [course.events_attempt, course.result_eq]
  exact course

/-! ### What the marks tell -/

theorem Course.marks_isPrefix (course : Course verifier path choice marks outcome) :
    ∃ records : Records, marks <+: records.marks path choice := by
  cases course with
  | unsized fetched nonempty opened failed =>
      exact ⟨{ Records.blank with envelope := _ }, List.prefix_append [_] _⟩
  | @stopped _ _ records _ _ fetched sized passed failed opened =>
      exact ⟨records, List.take_prefix _ _⟩
  | @accepted _ _ records fetched sized passed => exact ⟨records, List.prefix_rfl⟩
  | _ => exact ⟨Records.blank, List.nil_prefix⟩

theorem length_take_marks {records : Records} {check : Check} :
    ((records.marks path choice).take check.marksBefore).length = check.marksBefore := by
  cases check <;> rfl

theorem ending_of_reports {check : Check} (reports : check.Reports error)
    (opened : Check.signersLength.rank < check.rank) : Ending path check.marksBefore error := by
  cases reports <;> first | contradiction | constructor

theorem Course.ending (course : Course verifier path choice marks (.error error)) :
    Ending path marks.length error := by
  cases course with
  | unreadable failed => exact .unreadable
  | missing nothing => exact .notFound
  | empty nothing => exact .notFound
  | refused fetched nonempty refused =>
      rcases Verification.exists_version_or_fault_of_decodeEnvelope refused with
        ⟨version, rfl⟩ | ⟨fault, rfl⟩
      · exact .version
      · exact .envelope
  | unsized fetched nonempty opened failed => exact .unsized
  | stopped fetched sized passed failed opened =>
      rw [length_take_marks]
      exact ending_of_reports (Verification.reports_of_failure failed) opened

theorem Course.length_of_ok {signer : VerifiedSigner}
    (course : Course verifier path choice marks (.ok signer)) : marks.length = 4 := by
  cases course with
  | accepted fetched sized passed => rfl

theorem verified_not_mem_warning {algorithm : SignatureAlgorithm} :
    .verified algorithm ∉ warning path outcome := by
  cases outcome with
  | ok signer => exact List.not_mem_nil
  | error error =>
      intro member
      cases List.mem_singleton.mp member

theorem accepts_iff_passed {algorithm : SignatureAlgorithm} :
    verifier.Accepts path choice algorithm ↔
      ∃ bytes fileSize records, verifier.source.fetch path = .ok (some bytes) ∧
        verifier.source.fileSize path = .ok fileSize ∧
        Passed verifier.primitives (verifier.request choice bytes fileSize) records
          Check.certificate.rank ∧
        records.algorithm = algorithm := by
  constructor
  · rintro ⟨bytes, fileSize, hashing, signer, data, key, fetched, sized, selects, rebuilt,
      resolved, keyDecoded, accepted⟩
    obtain ⟨records, rfl, rfl, passed⟩ :=
      Verification.exists_passed_of_selects verifier.primitives selects rebuilt
    have keyed := (passed.withAlgorithm (SignatureAlgorithm.ofId?_eq_some_iff.mp resolved)).withKey
      keyDecoded
    exact ⟨bytes, fileSize, _, fetched, sized, keyed.extend records accepted, rfl⟩
  · rintro ⟨bytes, fileSize, records, fetched, sized, passed, rfl⟩
    exact ⟨bytes, fileSize, records.hashing, records.signer, records.data, records.key, fetched,
      sized, (passed.mono (by decide)).selects, passed .dataSize (by decide),
      SignatureAlgorithm.ofId?_eq_some_iff.mpr (passed .algorithm (by decide)),
      passed .key (by decide), passed .signature (by decide)⟩

theorem verified_mem_marks_iff {records : Records} {algorithm : SignatureAlgorithm} :
    .verified algorithm ∈ records.marks path choice ↔ records.algorithm = algorithm := by
  simp [Records.marks, eq_comm]

theorem verified_mem_take_iff {records : Records} {check : Check}
    {algorithm : SignatureAlgorithm} :
    .verified algorithm ∈ (records.marks path choice).take check.marksBefore ↔
      Check.certificate.rank ≤ check.rank ∧ records.algorithm = algorithm := by
  by_cases signed : Check.certificate.rank ≤ check.rank
  · have all : (records.marks path choice).take check.marksBefore = records.marks path choice :=
      List.take_of_length_le (Check.marksBefore_mono signed)
    rw [all, verified_mem_marks_iff, and_iff_right signed]
  · apply iff_of_false
    · cases check <;> first | contradiction | simp [Records.marks, Check.marksBefore]
    · intro both
      exact signed both.1

theorem Course.verified_mem_iff (course : Course verifier path choice marks outcome)
    {algorithm : SignatureAlgorithm} :
    .verified algorithm ∈ marks ↔ verifier.Accepts path choice algorithm := by
  rw [accepts_iff_passed]
  constructor
  · intro logged
    cases course with
    | @stopped bytes fileSize records check error fetched sized passed failed opened =>
        obtain ⟨signed, same⟩ := verified_mem_take_iff.mp logged
        exact ⟨bytes, fileSize, records, fetched, sized, passed.mono signed, same⟩
    | @accepted bytes fileSize records fetched sized passed =>
        exact ⟨bytes, fileSize, records, fetched, sized, passed.mono (by decide),
          verified_mem_marks_iff.mp logged⟩
    | unsized fetched nonempty opened failed => cases List.mem_singleton.mp logged
    | _ => exact (List.not_mem_nil logged).elim
  · rintro ⟨bytes, fileSize, records, fetched, sized, passed, rfl⟩
    cases course with
    | unreadable failed => cases fetched.symm.trans failed
    | missing nothing => cases fetched.symm.trans nothing
    | empty nothing =>
        cases fetched.symm.trans nothing
        exact (passed .presence (by decide) rfl).elim
    | refused same nonempty refused =>
        cases fetched.symm.trans same
        have opened := Envelope.decode_eq_ok_iff.mpr (passed .signersLength (by decide))
        cases (mapError_eq_ok_iff.mpr opened).symm.trans refused
    | unsized same nonempty opened failed => cases sized.symm.trans failed
    | @stopped bytes fileSize other check error same size otherPassed failed opened =>
        cases fetched.symm.trans same
        cases sized.symm.trans size
        have signed := FailsAt.rank_le_of_passed ⟨other, otherPassed, failed⟩ passed
        exact verified_mem_take_iff.mpr ⟨signed,
          (otherPassed.mono signed).algorithm_eq passed (by decide)⟩
    | @accepted bytes fileSize other same size otherPassed =>
        cases fetched.symm.trans same
        cases sized.symm.trans size
        exact verified_mem_marks_iff.mpr
          ((otherPassed.mono (by decide)).algorithm_eq passed (by decide))

/-- The log of a verification is made of the marks of the stages that were passed and of one
warning where it fails; the number of the marks tells the stage. -/
theorem log_traces_passed_stages (verifier : Verifier) (path : Path) (choice : SignerChoice) :
    (∃ marks, Course verifier path choice marks (verifier.verify path choice).result ∧
      (verifier.verify path choice).events =
        marks ++ warning path (verifier.verify path choice).result ∧
      (∃ records : Records, marks <+: records.marks path choice) ∧
      (∀ error, (verifier.verify path choice).result = .error error →
        Ending path marks.length error) ∧
      ∀ signer, (verifier.verify path choice).result = .ok signer → marks.length = 4) ∧
    (∀ algorithm, .verified algorithm ∈ (verifier.verify path choice).events ↔
      verifier.Accepts path choice algorithm) ∧
    (verifier.readEnvelope path).events =
      match (verifier.readEnvelope path).result with
      | .ok envelope => [.decoded path envelope.version]
      | .error _ => [] := by
  have course := course_verify verifier path choice
  refine ⟨⟨_, course, events_verify verifier path choice, course.marks_isPrefix, ?_, ?_⟩, ?_,
    events_readEnvelope verifier path⟩
  · intro error failed
    rw [failed] at course
    exact course.ending
  · intro signer accepted
    rw [accepted] at course
    exact course.length_of_ok
  · intro algorithm
    rw [events_verify, List.mem_append, course.verified_mem_iff]
    exact or_iff_left verified_not_mem_warning

theorem log_traces_passed_stages_samples :
    let sample := Verification.sampleRequest SignerList.sampleSigner .default []
    (∃ marks, ((sampleVerifier sample.bytes).verify ⟨"a.apk"⟩ .default).events = marks ∧
        marks.length = 4) ∧
      ∃ marks, ((sampleVerifier []).verify ⟨"a.apk"⟩ .default).events =
          marks ++ [.failed ⟨"a.apk"⟩ (.signatureNotFound ⟨"a.apk"⟩)] ∧
        Ending ⟨"a.apk"⟩ marks.length (.signatureNotFound ⟨"a.apk"⟩) := by
  intro sample
  constructor
  · obtain ⟨⟨marks, -, log, -, -, whole⟩, -⟩ :=
      log_traces_passed_stages (sampleVerifier sample.bytes) ⟨"a.apk"⟩ .default
    have opens := Verification.sampleEnvelope_opens [] Verification.sampleSigners_short
    have verdict : Verdict (sampleVerifier sample.bytes) ⟨"a.apk"⟩ .default _ :=
      .verified rfl (Verification.nonempty_of_opens opens)
        (mapError_eq_ok_iff.mpr (Envelope.decode_eq_ok_iff.mpr opens)) rfl
    have accepted := verdict.result_eq.trans (Verification.sampleRequest_accepted (.inl rfl) [])
    rw [accepted] at log
    exact ⟨marks, log.trans (List.append_nil marks), whole _ accepted⟩
  · obtain ⟨⟨marks, -, log, -, ending, -⟩, -⟩ :=
      log_traces_passed_stages (sampleVerifier []) ⟨"a.apk"⟩ .default
    have verdict : Verdict (sampleVerifier []) ⟨"a.apk"⟩ .default _ := .empty rfl
    rw [verdict.result_eq] at log
    exact ⟨marks, log, ending _ verdict.result_eq⟩

end Verifier

end PackageSignature
