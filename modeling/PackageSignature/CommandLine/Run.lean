import PackageSignature.CommandLine.Command
import PackageSignature.CommandLine.SignatureReport
import PackageSignature.CommandLine.VerificationReport
import PackageSignature.Verifier
/-! What a command does, as a function of the environment and the files. The exit code
tells the kind of the outcome; scripts rely on it. -/

namespace PackageSignature.CommandLine

structure Outcome where
  exitCode : Nat
  stdout : String
  stderr : String
deriving DecidableEq, Repr

inductive Failure where
  | unreadable (attempt : String) (fault : SourceFault)
  | refused (attempt : String) (error : VerifyError)
deriving DecidableEq, Repr

namespace Failure

def chain : Failure → List String
  | unreadable attempt fault => [attempt, fault.text]
  | refused attempt error => attempt :: error.chain

def line (failure : Failure) : String :=
  "error: " ++ String.intercalate ": " failure.chain ++ "\n"

def exitCode : Failure → Nat
  | unreadable _ _ => 1
  | refused _ error => error.exitCode

def outcome (failure : Failure) : Outcome where
  exitCode := failure.exitCode
  stdout := ""
  stderr := failure.line

end Failure

def success (report : String) : Outcome where
  exitCode := 0
  stdout := report
  stderr := ""

namespace VerifyRequest

def choice (request : VerifyRequest) : SignerChoice :=
  match request.blockId with
  | some blockId => SignerChoice.ofId blockId
  | none => .default

def source (request : VerifyRequest) (config : Config) (files : FileSystem) : PackageSource :=
  match request.signature with
  | some signature => files.single signature
  | none => files.sidecars config.sidecarExtension

def signatureFile (request : VerifyRequest) (config : Config) : Path :=
  request.signature.getD (request.package.addExtension config.sidecarExtension)

def report (request : VerifyRequest) (primitives : Primitives) (environment : Environment)
    (files : FileSystem) : Except Failure VerificationReport := do
  let _ ← (files.size request.package).mapError
    (.unreadable s!"failed to read package: {request.package.text}")
  let config := Config.ofEnvironment environment
  let verifier : Verifier := { primitives, source := request.source config files, config }
  let verified ← (verifier.verify request.package request.choice).result.mapError
    (.refused s!"failed to verify {request.package.text}")
  return VerificationReport.ofVerified request.package request.choice verified

def render (request : VerifyRequest) (report : VerificationReport) : String :=
  match request.format with
  | .text => report.toText
  | .json => report.toJson.pretty ++ "\n"

def run (request : VerifyRequest) (primitives : Primitives) (environment : Environment)
    (files : FileSystem) : Outcome :=
  let outcome :=
    match request.report primitives environment files with
    | .ok report => success (request.render report)
    | .error failure => failure.outcome
  if request.quiet then { outcome with stdout := "", stderr := "" } else outcome

end VerifyRequest

namespace InspectRequest

def report (request : InspectRequest) (primitives : Primitives) (environment : Environment)
    (files : FileSystem) : Except Failure SignatureReport := do
  let bytes ← (files.read request.signature).mapError
    (.unreadable s!"failed to read signature: {request.signature.text}")
  let config := Config.ofEnvironment environment
  (do
    let envelope ← Verification.decodeEnvelope bytes config.maxSignatureSize
    SignatureReport.ofEnvelope primitives envelope).mapError
      (.refused s!"failed to decode {request.signature.text}")

def render (request : InspectRequest) (report : SignatureReport) : String :=
  match request.format with
  | .text => report.toText
  | .json => report.toJson.pretty ++ "\n"

def run (request : InspectRequest) (primitives : Primitives) (environment : Environment)
    (files : FileSystem) : Outcome :=
  match request.report primitives environment files with
  | .ok report => success (request.render report)
  | .error failure => failure.outcome

end InspectRequest

def Command.run (command : Command) (primitives : Primitives) (environment : Environment)
    (files : FileSystem) : Outcome :=
  match command with
  | .verify request => request.run primitives environment files
  | .inspect request => request.run primitives environment files

end PackageSignature.CommandLine
