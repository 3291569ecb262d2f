import PackageSignature.Config
import PackageSignature.Source
import PackageSignature.Verification
/-! Verifying packages: the bytes of a signature and the size of its package come from a
source. What does not come at all is told apart from what must not be trusted. -/

namespace PackageSignature

structure Verifier where
  primitives : Primitives
  source : PackageSource
  config : Config

namespace Verifier

/-- The bytes of a package's signature. None and no bytes are the same. -/
def fetch (verifier : Verifier) (path : Path) : Except VerifyError Bytes :=
  match verifier.source.fetch path with
  | .error fault => .error (.source path fault)
  | .ok none => .error (.signatureNotFound path)
  | .ok (some bytes) => if bytes.isEmpty then .error (.signatureNotFound path) else .ok bytes

def fileSize (verifier : Verifier) (path : Path) : Except VerifyError UInt64 :=
  (verifier.source.fileSize path).mapError (.source path)

def readEnvelope (verifier : Verifier) (path : Path) : Traced Envelope := do
  let bytes ← .lift (verifier.fetch path)
  let envelope ← .lift (Verification.decodeEnvelope bytes verifier.config.maxSignatureSize)
  .emit (.decoded path envelope.version)
  return envelope

/-- Verifies a signer of a package's signature. The size of the package is asked for
only once there is an envelope. A failure is the last event of the log. -/
def verify (verifier : Verifier) (path : Path) (choice : SignerChoice) :
    Traced VerifiedSigner :=
  Traced.onFailure (do
    let envelope ← verifier.readEnvelope path
    let fileSize ← .lift (verifier.fileSize path)
    Verification.run verifier.primitives fileSize envelope choice) (.failed path)

def verifyDefault (verifier : Verifier) (path : Path) : Traced VerifiedSigner :=
  verifier.verify path .default

end Verifier

end PackageSignature
