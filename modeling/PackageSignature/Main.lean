import PackageSignature.CommandLine.Arguments
import PackageSignature.CommandLine.Run
import PackageSignature.Source.Snapshot
/-! The program: reads what a command needs from the machine, runs the command, and
writes what it leaves behind. -/

namespace PackageSignature.Machine

open CommandLine

/-- The number of an error, which may be given as a negative one in a machine word. -/
def errorNumber (code : UInt32) : Nat :=
  code.toInt32.toInt.natAbs

def numberedFault (code : UInt32) (details : String) : SourceFault :=
  match errorNumber code with
  | 2 => PathFault.missing.toSourceFault
  | 20 => PathFault.notDirectory.toSourceFault
  | 21 => PathFault.isDirectory.toSourceFault
  | 36 => PathFault.nameTooLong.toSourceFault
  | number => { missing := false, text := s!"{details} (os error {number})" }

def sourceFault (error : IO.Error) : SourceFault :=
  match error with
  | .noFileOrDirectory _ code details => numberedFault code details
  | .inappropriateType _ code details => numberedFault code details
  | .permissionDenied _ code details => numberedFault code details
  | other => { missing := false, text := toString other }

def observe {α : Type} (action : IO α) : IO (Except SourceFault α) := do
  match ← action.toBaseIO with
  | .ok value => return .ok value
  | .error error => return .error (sourceFault error)

def observeSize (path : Path) : IO (Except SourceFault UInt64) :=
  observe do
    let place := (← IO.currentDir) / path.text
    return (← place.metadata).byteSize

def observeContent (path : Path) : IO (Except SourceFault Bytes) :=
  observe do
    return (← IO.FS.readBinFile path.text).toList

def observeEnvironment : IO Environment := do
  let names := ["IDSIG_MAX_SIGNATURE_SIZE", "IDSIG_SIDECAR_EXTENSION"]
  let values ← names.mapM fun name => return (← IO.getEnv name).map (fun value => (name, value))
  return { bindings := values.reduceOption.map (fun (name, value) => (name, Bytes.ofText value)) }

def observeFiles (environment : Environment) : Command → IO FileSystem
  | .verify request => do
      let size ← observeSize request.package
      let content ← observeContent (request.signatureFile (Config.ofEnvironment environment))
      return { size := fun _ => size, read := fun _ => content }
  | .inspect request => do
      let content ← observeContent request.signature
      return { size := fun _ => .ok 0, read := fun _ => content }

def run (words : List String) : IO UInt32 := do
  match Command.ofWords words with
  | .error error =>
      IO.eprintln s!"usage: {error.name}"
      return UInt32.ofNat error.exitCode
  | .ok command =>
      let environment ← observeEnvironment
      let files ← observeFiles environment command
      let outcome := command.run Primitives.standard environment files
      IO.print outcome.stdout
      IO.eprint outcome.stderr
      return UInt32.ofNat outcome.exitCode

end PackageSignature.Machine

def main (words : List String) : IO UInt32 :=
  PackageSignature.Machine.run words
