import PackageSignature.CommandLine.Run
import PackageSignature.Proofs.Verification.Budget
import PackageSignature.Proofs.Verifier.Answers

/-! What a script learns from the outcome of a verification. Two questions decide the exit code:
whether the package can be measured, and what the verifier makes of its signature. The words
around an error, the format of the report and the wish for quiet have no part in it. -/

namespace PackageSignature

theorem ErrorKind.one_lt_exitCode (kind : ErrorKind) : 1 < kind.exitCode := by
  cases kind with
  | notFound => decide
  | security => decide

namespace CommandLine

namespace Failure

theorem line_ne_empty (failure : Failure) : failure.line ≠ "" := by
  rw [line, ne_eq, String.append_eq_empty_iff]
  rintro ⟨-, impossible⟩
  exact absurd impossible (by decide)

theorem exitCode_ne_zero (failure : Failure) : failure.exitCode ≠ 0 := by
  cases failure with
  | unreadable attempt fault => exact Nat.one_ne_zero
  | refused attempt error => exact Nat.ne_zero_of_lt error.kind.one_lt_exitCode

end Failure

namespace VerificationReport

theorem toText_ne_empty (report : VerificationReport) : report.toText ≠ "" := by
  intro empty
  have parts : (_ ++ _ ++ _ ++ _ : String) = "" := empty
  simp only [String.append_eq_empty_iff] at parts
  obtain ⟨⟨⟨⟨⟨⟨⟨impossible, -⟩, -⟩, -⟩, -⟩, -⟩, -⟩, -⟩ := parts
  exact absurd impossible (by decide)

end VerificationReport

namespace VerifyRequest

variable {request : VerifyRequest} {primitives : Primitives} {environment : Environment}
  {files : FileSystem}

theorem render_ne_empty (report : VerificationReport) : request.render report ≠ "" := by
  rw [render]
  cases request.format with
  | text => exact report.toText_ne_empty
  | json =>
      simp only [ne_eq, String.append_eq_empty_iff]
      rintro ⟨-, impossible⟩
      exact absurd impossible (by decide)

def verifier (request : VerifyRequest) (primitives : Primitives) (environment : Environment)
    (files : FileSystem) : Verifier where
  primitives := primitives
  source := request.source (Config.ofEnvironment environment) files
  config := Config.ofEnvironment environment

def verdict (request : VerifyRequest) (primitives : Primitives) (environment : Environment)
    (files : FileSystem) : Except VerifyError VerifiedSigner :=
  ((request.verifier primitives environment files).verify request.package request.choice).result

theorem report_of_unreadable {fault : SourceFault}
    (failed : files.size request.package = .error fault) :
    request.report primitives environment files =
      .error (.unreadable s!"failed to read package: {request.package.text}" fault) := by
  rw [report, failed]
  rfl

theorem report_of_sized {fileSize : UInt64} (sized : files.size request.package = .ok fileSize) :
    request.report primitives environment files =
      ((request.verdict primitives environment files).mapError
        (.refused s!"failed to verify {request.package.text}")).map
          (VerificationReport.ofVerified request.package request.choice) := by
  rw [report, sized]
  rfl

theorem run_of_ok {report : VerificationReport}
    (done : request.report primitives environment files = .ok report) :
    request.run primitives environment files =
      { exitCode := 0
        stdout := if request.quiet then "" else request.render report
        stderr := "" } := by
  rw [run, done]
  cases request.quiet with
  | true => rfl
  | false => rfl

theorem run_of_error {failure : Failure}
    (failed : request.report primitives environment files = .error failure) :
    request.run primitives environment files =
      { exitCode := failure.exitCode
        stdout := ""
        stderr := if request.quiet then "" else failure.line } := by
  rw [run, failed]
  cases request.quiet with
  | true => rfl
  | false => rfl

theorem run_of_unreadable {fault : SourceFault}
    (failed : files.size request.package = .error fault) :
    request.run primitives environment files =
      { exitCode := 1
        stdout := ""
        stderr :=
          if request.quiet then ""
          else Failure.line
            (.unreadable s!"failed to read package: {request.package.text}" fault) } :=
  run_of_error (report_of_unreadable failed)

theorem run_of_refused {fileSize : UInt64} {error : VerifyError}
    (sized : files.size request.package = .ok fileSize)
    (refused : request.verdict primitives environment files = .error error) :
    request.run primitives environment files =
      { exitCode := error.kind.exitCode
        stdout := ""
        stderr :=
          if request.quiet then ""
          else Failure.line (.refused s!"failed to verify {request.package.text}" error) } := by
  have failed : request.report primitives environment files =
      .error (.refused s!"failed to verify {request.package.text}" error) := by
    rw [report_of_sized sized, refused]
    rfl
  exact run_of_error failed

theorem run_of_verified {fileSize : UInt64} {verified : VerifiedSigner}
    (sized : files.size request.package = .ok fileSize)
    (accepted : request.verdict primitives environment files = .ok verified) :
    request.run primitives environment files =
      { exitCode := 0
        stdout :=
          if request.quiet then ""
          else request.render
            (VerificationReport.ofVerified request.package request.choice verified)
        stderr := "" } := by
  apply run_of_ok
  rw [report_of_sized sized, accepted]
  rfl

/-! ### What the exit code tells -/

theorem exitCode_of_sized {fileSize : UInt64}
    (sized : files.size request.package = .ok fileSize) :
    (request.run primitives environment files).exitCode =
      match request.verdict primitives environment files with
      | .ok _ => 0
      | .error error => error.kind.exitCode := by
  cases answer : request.verdict primitives environment files with
  | ok verified => rw [run_of_verified sized answer]
  | error error => rw [run_of_refused sized answer]

theorem exitCode_eq_one_iff :
    (request.run primitives environment files).exitCode = 1 ↔
      ∃ fault, files.size request.package = .error fault := by
  cases size : files.size request.package with
  | error fault =>
      rw [run_of_unreadable size]
      exact iff_of_true rfl ⟨fault, rfl⟩
  | ok fileSize =>
      rw [exitCode_of_sized size]
      apply iff_of_false
      · cases request.verdict primitives environment files with
        | ok verified => exact Nat.zero_ne_one
        | error error => exact Nat.ne_of_gt error.kind.one_lt_exitCode
      · rintro ⟨fault, impossible⟩
        cases impossible

theorem exitCode_eq_iff_of_sized {fileSize : UInt64}
    (sized : files.size request.package = .ok fileSize) :
    ((request.run primitives environment files).exitCode = 0 ↔
        ∃ verified, request.verdict primitives environment files = .ok verified) ∧
      ((request.run primitives environment files).exitCode = 2 ↔
        ∃ error, request.verdict primitives environment files = .error error ∧
          error.kind = .notFound) ∧
      ((request.run primitives environment files).exitCode = 4 ↔
        ∃ error, request.verdict primitives environment files = .error error ∧
          error.kind = .security) := by
  rw [exitCode_of_sized sized]
  cases request.verdict primitives environment files with
  | ok verified => simp
  | error error => cases kind : error.kind <;> simp [kind, ErrorKind.exitCode]

theorem streams_of_run :
    ((request.run primitives environment files).stdout ≠ "" ↔
        (request.run primitives environment files).exitCode = 0 ∧ request.quiet = false) ∧
      ((request.run primitives environment files).stderr ≠ "" ↔
        (request.run primitives environment files).exitCode ≠ 0 ∧ request.quiet = false) := by
  cases outcome : request.report primitives environment files with
  | ok report =>
      rw [run_of_ok outcome]
      cases request.quiet <;> simp [render_ne_empty]
  | error failure =>
      rw [run_of_error outcome]
      cases request.quiet <;> simp [failure.exitCode_ne_zero, failure.line_ne_empty]

theorem run_of_quiet :
    { request with quiet := true }.run primitives environment files =
      { exitCode := (request.run primitives environment files).exitCode
        stdout := ""
        stderr := "" } := by
  have same : { request with quiet := true }.report primitives environment files =
      request.report primitives environment files := rfl
  cases outcome : request.report primitives environment files with
  | ok report => rw [run_of_ok outcome, run_of_ok (same.trans outcome), if_pos rfl]
  | error failure => rw [run_of_error outcome, run_of_error (same.trans outcome), if_pos rfl]

theorem exitCode_of_style (quiet : Bool) (format : OutputFormat) :
    ({ request with quiet, format }.run primitives environment files).exitCode =
      (request.run primitives environment files).exitCode := by
  have same : { request with quiet, format }.report primitives environment files =
      request.report primitives environment files := rfl
  cases outcome : request.report primitives environment files with
  | ok report => rw [run_of_ok outcome, run_of_ok (same.trans outcome)]
  | error failure => rw [run_of_error outcome, run_of_error (same.trans outcome)]

theorem stderr_of_failed_run (loud : request.quiet = false)
    (failed : (request.run primitives environment files).exitCode ≠ 0) :
    ∃ failure : Failure,
      (request.run primitives environment files).exitCode = failure.exitCode ∧
        (request.run primitives environment files).stderr = failure.line := by
  cases outcome : request.report primitives environment files with
  | ok report =>
      rw [run_of_ok outcome] at failed
      exact (failed rfl).elim
  | error failure =>
      rw [run_of_error outcome, loud]
      exact ⟨failure, rfl, rfl⟩

/-- The exit code is one just where the package cannot be measured, and otherwise tells what the
verifier makes of the signature. How the outcome is shown leaves it as it is. -/
theorem exit_code_tells_verdict (request : VerifyRequest) (primitives : Primitives)
    (environment : Environment) (files : FileSystem) :
    let outcome := request.run primitives environment files
    (outcome.exitCode = 1 ↔ ∃ fault, files.size request.package = .error fault) ∧
    (∀ fileSize, files.size request.package = .ok fileSize →
      (outcome.exitCode = 0 ↔
        ∃ verified, request.verdict primitives environment files = .ok verified) ∧
      (outcome.exitCode = 2 ↔
        ∃ error, request.verdict primitives environment files = .error error ∧
          error.kind = .notFound) ∧
      (outcome.exitCode = 4 ↔
        ∃ error, request.verdict primitives environment files = .error error ∧
          error.kind = .security) ∧
      ∀ verified, request.verdict primitives environment files = .ok verified →
        request.quiet = false →
          outcome.stdout = request.render
            (VerificationReport.ofVerified request.package request.choice verified)) ∧
    (outcome.stdout ≠ "" ↔ outcome.exitCode = 0 ∧ request.quiet = false) ∧
    (outcome.stderr ≠ "" ↔ outcome.exitCode ≠ 0 ∧ request.quiet = false) ∧
    (request.quiet = false → outcome.exitCode ≠ 0 →
      ∃ failure : Failure,
        outcome.exitCode = failure.exitCode ∧ outcome.stderr = failure.line) ∧
    (∀ (quiet : Bool) (format : OutputFormat),
      ({ request with quiet, format }.run primitives environment files).exitCode =
        outcome.exitCode) ∧
    { request with quiet := true }.run primitives environment files =
      { exitCode := outcome.exitCode, stdout := "", stderr := "" } := by
  intro outcome
  refine ⟨exitCode_eq_one_iff, ?_, streams_of_run.1, streams_of_run.2, stderr_of_failed_run,
    exitCode_of_style, run_of_quiet⟩
  intro fileSize sized
  obtain ⟨accepted, missing, invalid⟩ := exitCode_eq_iff_of_sized sized
  refine ⟨accepted, missing, invalid, ?_⟩
  intro verified answer loud
  change (request.run primitives environment files).stdout = _
  rw [run_of_verified sized answer, loud]
  rfl

def sampleRequest (signature : Option Path) (blockId : Option UInt32) (quiet : Bool) :
    VerifyRequest where
  package := ⟨"a.apk"⟩
  signature := signature
  blockId := blockId
  format := .text
  quiet := quiet

/-- A machine on which each file has one size and reading answers the same everywhere. -/
def sampleFiles (answer : Except SourceFault Bytes) : FileSystem where
  size _ := .ok 7
  read _ := answer

def noFile : SourceFault where
  missing := true
  text := "No such file or directory (os error 2)"

def noFiles : FileSystem where
  size _ := .error noFile
  read _ := .error noFile

theorem source_sampleFiles (request : VerifyRequest) (config : Config) (bytes : Bytes) :
    request.source config (sampleFiles (.ok bytes)) =
      { fetch := fun _ => .ok (some bytes), fileSize := fun _ => .ok 7 } := by
  rw [source]
  cases request.signature with
  | none => rfl
  | some file => rfl

theorem verdict_sampleRequest (signature : Option Path) {blockId : Option UInt32} (quiet : Bool)
    (either : blockId = none ∨ blockId = some 5) :
    (sampleRequest signature blockId quiet).verdict Verification.samplePrimitives ⟨[]⟩
        (sampleFiles (.ok Verification.sampleBytes)) =
      .ok Verification.sampleRecords.verified := by
  have opens := Verification.sampleBytes_opens (by decide : 87 ≤ Envelope.defaultMaxSize)
  rw [verdict, verifier, source_sampleFiles,
    Verifier.result_verify_of_nonempty rfl (Verification.nonempty_of_opens opens) rfl]
  refine (Verification.verify_of_opens opens).trans ?_
  apply Verification.verifyDecoded_sound
  rcases either with rfl | rfl
  · exact .inl rfl
  · exact .inr rfl

theorem exit_code_tells_verdict_samples :
    ((sampleRequest none none false).run Verification.samplePrimitives ⟨[]⟩
        (sampleFiles (.ok Verification.sampleBytes))).exitCode = 0 ∧
      ((sampleRequest none none false).run Verification.samplePrimitives ⟨[]⟩
        (sampleFiles (.ok Verification.sampleBytes))).stdout ≠ "" ∧
      (sampleRequest none none true).run Verification.samplePrimitives ⟨[]⟩
          (sampleFiles (.ok Verification.sampleBytes)) =
        { exitCode := 0, stdout := "", stderr := "" } ∧
      ((sampleRequest none none false).run Verification.samplePrimitives ⟨[]⟩
        (sampleFiles (.error noFile))).exitCode = 2 ∧
      ((sampleRequest none none false).run Verification.samplePrimitives ⟨[]⟩
        (sampleFiles (.ok [3, 0, 0, 0]))).exitCode = 4 ∧
      ((sampleRequest none none false).run Verification.samplePrimitives ⟨[]⟩ noFiles).exitCode =
        1 := by
  obtain ⟨-, codes, shown, -, -, -, silent⟩ := exit_code_tells_verdict
    (sampleRequest none none false) Verification.samplePrimitives ⟨[]⟩
    (sampleFiles (.ok Verification.sampleBytes))
  have accepted := (codes 7 rfl).1.mpr ⟨_, verdict_sampleRequest none false (.inl rfl)⟩
  obtain ⟨-, missing, -⟩ := exit_code_tells_verdict (sampleRequest none none false)
    Verification.samplePrimitives ⟨[]⟩ (sampleFiles (.error noFile))
  obtain ⟨-, invalid, -⟩ := exit_code_tells_verdict (sampleRequest none none false)
    Verification.samplePrimitives ⟨[]⟩ (sampleFiles (.ok [3, 0, 0, 0]))
  obtain ⟨unmeasured, -⟩ := exit_code_tells_verdict (sampleRequest none none false)
    Verification.samplePrimitives ⟨[]⟩ noFiles
  rw [accepted] at silent
  exact ⟨accepted, shown.mpr ⟨accepted, rfl⟩, silent,
    (missing 7 rfl).2.1.mpr ⟨.signatureNotFound ⟨"a.apk"⟩, rfl, rfl⟩,
    (invalid 7 rfl).2.2.1.mpr ⟨.unsupportedVersion 3, rfl, rfl⟩, unmeasured.mpr ⟨noFile, rfl⟩⟩

end VerifyRequest

end CommandLine

end PackageSignature
