import PackageSignature.Path
import PackageSignature.PublicKey
import PackageSignature.Record.Field
import PackageSignature.Text.Numeral
/-! Why a verification fails. The causes fall into two kinds, which a caller treats
differently: there is nothing to verify, or there is something that must not be
trusted. -/

namespace PackageSignature

structure SourceFault where
  missing : Bool
  text : String
deriving DecidableEq, Repr

inductive SignatureFault where
  | badPair (curve : Curve) (words : String)
  | described (words : String)
deriving DecidableEq, Repr

namespace SignatureFault

def message : SignatureFault → String
  | badPair curve words => s!"bad ECDSA {curve.name} signature: {words}"
  | described words => words

end SignatureFault

inductive ErrorKind where
  /-- There is no signature, or no signer of the kind asked for. -/
  | notFound
  /-- There is a signature and it is not trustworthy. -/
  | security
deriving DecidableEq, Repr

namespace ErrorKind

def name : ErrorKind → String
  | notFound => "NotFound"
  | security => "Security"

def exitCode : ErrorKind → Nat
  | notFound => 2
  | security => 4

end ErrorKind

inductive VerifyError where
  | signatureNotFound (path : Path)
  | emptySignature
  | source (path : Path) (fault : SourceFault)
  | signerBlockNotFound (blockId : UInt32)
  | unsupportedVersion (version : UInt32)
  | decode (error : DecodeError)
  | signerBlock (blockId : UInt32) (error : DecodeError)
  | unsupportedAlgorithm (id : UInt32)
  | invalidPublicKey (family : KeyFamily) (fault : KeyFault)
  | malformedSignature (algorithm : SignatureAlgorithm) (fault : SignatureFault)
  | signatureMismatch (algorithm : SignatureAlgorithm)
  | invalidCertificate (words : String)
  | publicKeyMismatch
  | unsupportedHashAlgorithm (id : UInt32)
  | signedDataTooLarge (length : Nat)
deriving DecidableEq, Repr

namespace VerifyError

def kind : VerifyError → ErrorKind
  | signatureNotFound _ | emptySignature | source _ _ | signerBlockNotFound _ => .notFound
  | unsupportedVersion _ | decode _ | signerBlock _ _ | unsupportedAlgorithm _
  | invalidPublicKey _ _ | malformedSignature _ _ | signatureMismatch _ | invalidCertificate _
  | publicKeyMismatch | unsupportedHashAlgorithm _ | signedDataTooLarge _ => .security

def name : VerifyError → String
  | signatureNotFound _ => "SignatureNotFound"
  | emptySignature => "EmptySignature"
  | source _ _ => "Source"
  | signerBlockNotFound _ => "SignerBlockNotFound"
  | unsupportedVersion _ => "UnsupportedVersion"
  | decode _ => "Decode"
  | signerBlock _ _ => "SignerBlock"
  | unsupportedAlgorithm _ => "UnsupportedAlgorithm"
  | invalidPublicKey _ _ => "InvalidPublicKey"
  | malformedSignature _ _ => "MalformedSignature"
  | signatureMismatch _ => "SignatureMismatch"
  | invalidCertificate _ => "InvalidCertificate"
  | publicKeyMismatch => "PublicKeyMismatch"
  | unsupportedHashAlgorithm _ => "UnsupportedHashAlgorithm"
  | signedDataTooLarge _ => "SignedDataTooLarge"

/-- The text of a failure. A failure with an inner cause ends in the text of that. -/
def message : VerifyError → String
  | signatureNotFound path => s!"v4 signature not found for {path.text}"
  | emptySignature => "v4 signature not found: no signature bytes"
  | source path fault => s!"failed to obtain v4 signature for {path.text}: {fault.text}"
  | signerBlockNotFound blockId =>
      "no v4 signer block corresponding to block id " ++ Text.Numeral.markedHex 8 blockId.toNat
  | unsupportedVersion version => s!"v4 signature version {version} is not supported"
  | decode error => s!"malformed v4 signature: {error.message}"
  | signerBlock blockId error =>
      "failed to read v4 signer block " ++ Text.Numeral.markedHex 8 blockId.toNat ++ ": " ++
        error.message
  | unsupportedAlgorithm id =>
      "no supported signature algorithm (id " ++ Text.Numeral.markedHex 4 id.toNat ++ ")"
  | invalidPublicKey family fault =>
      s!"failed to reconstruct {family.name} public key: {fault.message}"
  | malformedSignature algorithm fault =>
      s!"failed to verify {algorithm.name} signature: {fault.message}"
  | signatureMismatch algorithm => s!"{algorithm.name} signature did not verify"
  | invalidCertificate words => s!"failed to decode certificate: {words}"
  | publicKeyMismatch => "public key mismatch between certificate and signature record"
  | unsupportedHashAlgorithm id => s!"unsupported hash algorithm: {id}"
  | signedDataTooLarge length => s!"signed data too large: {length} bytes"

def cause? : VerifyError → Option String
  | source _ fault => some fault.text
  | decode error => some error.message
  | signerBlock _ error => some error.message
  | _ => none

def chain (error : VerifyError) : List String :=
  error.message :: error.cause?.toList

def exitCode (error : VerifyError) : Nat :=
  error.kind.exitCode

end VerifyError

end PackageSignature
