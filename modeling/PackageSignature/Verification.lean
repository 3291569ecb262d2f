import PackageSignature.Record.Envelope
import PackageSignature.Record.SignedData
import PackageSignature.Verification.Traced
/-! The verification of a signature. The envelope is decoded, a signer is selected, what
it signed is rebuilt from the records and the size of the package, and the signature
over that is checked with the key in the record. Only then is the certificate
looked at: it has to carry that very key. The first check that fails decides the
failure, and what is handed out comes from the checked records alone. -/

namespace PackageSignature

inductive ContentDigest where
  /-- The root of a tree of SHA-256 over blocks of 4096 bytes. -/
  | verityChunkedSha256
deriving DecidableEq, Repr

namespace ContentDigest

def id : ContentDigest → UInt32
  | verityChunkedSha256 => 3

def ofHashAlgorithm (hashAlgorithm : UInt32) : Except VerifyError ContentDigest :=
  if hashAlgorithm = HashingInfo.sha256 then
    .ok verityChunkedSha256
  else
    .error (.unsupportedHashAlgorithm hashAlgorithm)

end ContentDigest

structure VerifiedSigner where
  certificates : List Certificate
  apkDigest : Bytes
  contentDigests : List (ContentDigest × Bytes)
deriving DecidableEq, Repr

namespace Verification

def checkSignature (primitives : Primitives) (algorithm : SignatureAlgorithm) (key : PublicKey)
    (message signature : Bytes) : Except VerifyError Unit :=
  let hash := algorithm.digest.hash message
  let accept (holds : Bool) : Except VerifyError Unit :=
    if holds then .ok () else .error (.signatureMismatch algorithm)
  match key, algorithm.scheme with
  | .rsa pair, .pkcs1 => accept (primitives.pkcs1 pair algorithm.digest hash signature)
  | .rsa pair, .pss saltLength =>
      accept (primitives.pss pair algorithm.digest saltLength hash signature)
  | .ec curve point, .ecdsa =>
      match primitives.ecdsa curve point hash signature with
      | .error words => .error (.malformedSignature algorithm (.badPair curve words))
      | .ok holds => accept holds
  | _, _ => .error (.invalidPublicKey algorithm.family (.otherKind algorithm))

def resolveAlgorithm (id : UInt32) : Except VerifyError SignatureAlgorithm :=
  match SignatureAlgorithm.ofId? id with
  | some algorithm => .ok algorithm
  | none => .error (.unsupportedAlgorithm id)

def decodeKey (primitives : Primitives) (family : KeyFamily) (encoded : Bytes) :
    Except VerifyError PublicKey :=
  (PublicKey.decode primitives family encoded).mapError (.invalidPublicKey family)

def decodeCertificate (primitives : Primitives) (encoded : Bytes) :
    Except VerifyError Certificate :=
  (primitives.certificate encoded).mapError .invalidCertificate

/-- The signer that is meant. The default signer stands for no block and no block for
it; among the blocks the first one with the id counts, whatever it holds. -/
def chooseSigner (signers : SignerList) : SignerChoice → Except VerifyError SigningInfo
  | .default => signers.decodeDefault.mapError .decode
  | .block blockId =>
      match signers.find? blockId with
      | none => .error (.signerBlockNotFound blockId)
      | some block => (SigningInfo.decode block.signingInfo).mapError (.signerBlock blockId)

def signedData (fileSize : UInt64) (hashing : HashingInfo) (signer : SigningInfo) :
    Except VerifyError Bytes :=
  match SignedData.encode? fileSize hashing signer with
  | some data => .ok data
  | none => .error (.signedDataTooLarge (SignedData.length hashing signer))

def checkSigner (primitives : Primitives) (signer : SigningInfo) (data : Bytes) :
    Traced Certificate := do
  let algorithm ← .lift (resolveAlgorithm signer.signatureAlgorithmId)
  .emit (.resolved algorithm)
  let key ← .lift (decodeKey primitives algorithm.family signer.publicKey)
  .lift (checkSignature primitives algorithm key data signer.signature)
  .emit (.verified algorithm)
  let certificate ← .lift (decodeCertificate primitives signer.certificate)
  if certificate.subjectKey = signer.publicKey then
    return certificate
  else
    .fail .publicKeyMismatch

def vouch (certificate : Certificate) (signer : SigningInfo) (hashing : HashingInfo) :
    Except VerifyError VerifiedSigner := do
  let digest ← ContentDigest.ofHashAlgorithm hashing.hashAlgorithm
  return {
    certificates := [certificate]
    apkDigest := signer.apkDigest
    contentDigests := [(digest, hashing.rootHash)] }

def decodeEnvelope (bytes : Bytes) (maxSize : Nat) : Except VerifyError Envelope :=
  (Envelope.decode bytes maxSize).mapError fun
    | .unsupportedVersion version => .unsupportedVersion version
    | .decode error => .decode error

def run (primitives : Primitives) (fileSize : UInt64) (envelope : Envelope)
    (choice : SignerChoice) : Traced VerifiedSigner := do
  if envelope.isSupported then
    let hashing ← .lift (envelope.decodeHashingInfo.mapError .decode)
    let signers ← .lift (envelope.decodeSigners.mapError .decode)
    let signer ← .lift (chooseSigner signers choice)
    .emit (.selected choice signers.blocks.length)
    let data ← .lift (signedData fileSize hashing signer)
    let certificate ← checkSigner primitives signer data
    .lift (vouch certificate signer hashing)
  else
    .fail (.unsupportedVersion envelope.version)

def verifyDecoded (primitives : Primitives) (fileSize : UInt64) (envelope : Envelope)
    (choice : SignerChoice) : Except VerifyError VerifiedSigner :=
  (run primitives fileSize envelope choice).result

/-- Verifies the bytes of a signature for a package of the given size. No bytes at all
are no signature rather than a damaged one. -/
def verify (primitives : Primitives) (fileSize : UInt64) (bytes : Bytes)
    (choice : SignerChoice) (maxSize : Nat) : Except VerifyError VerifiedSigner := do
  if bytes.isEmpty then
    .error .emptySignature
  else
    let envelope ← decodeEnvelope bytes maxSize
    verifyDecoded primitives fileSize envelope choice

end Verification

end PackageSignature
