import PackageSignature.Record.Envelope
import PackageSignature.Record.SignedData
import PackageSignature.Signing.Issue
import PackageSignature.Signing.PrivateKey
/-! Building signed envelopes. What is set before signing is signed over; what is set for
after signing only changes the record, so that an envelope can carry a signature that
holds next to a field that does not belong to it. -/

namespace PackageSignature.Signing

structure SigningKey where
  publicKey : Bytes
  certificate : Bytes
  defaultAlgorithm : SignatureAlgorithm
  sign? : SignatureAlgorithm → Bytes → Option Bytes

namespace PrivateKey

def signingKey? (privateKey : PrivateKey) (validity : Validity) (randomness : Bytes) :
    Option SigningKey := do
  let publicKey ← privateKey.publicKey?
  let certificate ← issueFor? publicKey defaultSubject validity
  return {
    publicKey
    certificate
    defaultAlgorithm := privateKey.defaultAlgorithm
    sign? := privateKey.sign? randomness }

end PrivateKey

structure SignerPlan where
  key : SigningKey
  algorithm : SignatureAlgorithm
  apkDigest : Bytes
  certificate : Bytes

namespace SignerPlan

def ofKey (key : SigningKey) (apkDigest : Bytes) : SignerPlan where
  key := key
  algorithm := key.defaultAlgorithm
  apkDigest := apkDigest
  certificate := key.certificate

def unsigned (plan : SignerPlan) (additionalData : Bytes) : SigningInfo where
  apkDigest := plan.apkDigest
  certificate := plan.certificate
  additionalData := additionalData
  publicKey := plan.key.publicKey
  signatureAlgorithmId := plan.algorithm.id
  signature := []

def sign? (plan : SignerPlan) (fileSize : UInt64) (hashing : HashingInfo)
    (additionalData : Bytes) : Option SigningInfo := do
  let record := plan.unsigned additionalData
  let data ← SignedData.encode? fileSize hashing record
  let signature ← plan.key.sign? plan.algorithm data
  return { record with signature }

end SignerPlan

structure EnvelopeDraft where
  fileSize : UInt64
  version : UInt32
  hashing : HashingInfo
  defaultSigner : SignerPlan
  additionalData : Bytes
  publicKeyAfterSigning : Option Bytes
  algorithmIdAfterSigning : Option UInt32
  blocks : List (UInt32 × SignerPlan)
  trailing : Bytes

namespace EnvelopeDraft

def start (key : SigningKey) (fileSize : UInt64) : EnvelopeDraft where
  fileSize := fileSize
  version := 2
  hashing :=
    { hashAlgorithm := HashingInfo.sha256
      log2BlockSize := HashingInfo.log2BlockSize4096
      salt := []
      rootHash := List.replicate 32 0x5a }
  defaultSigner := SignerPlan.ofKey key (List.replicate 32 0xa1)
  additionalData := []
  publicKeyAfterSigning := none
  algorithmIdAfterSigning := none
  blocks := []
  trailing := []

inductive Setting where
  | algorithm (algorithm : SignatureAlgorithm)
  | version (version : UInt32)
  | hashAlgorithm (id : UInt32)
  | salt (bytes : Bytes)
  | rootHash (bytes : Bytes)
  | apkDigest (bytes : Bytes)
  | additionalData (bytes : Bytes)
  | certificate (bytes : Bytes)
  | publicKeyAfterSigning (bytes : Bytes)
  | algorithmIdAfterSigning (id : UInt32)
  | block (blockId : UInt32) (key : SigningKey) (apkDigest : Bytes)
  | trailing (bytes : Bytes)

def set (draft : EnvelopeDraft) : Setting → EnvelopeDraft
  | .algorithm algorithm =>
      { draft with defaultSigner := { draft.defaultSigner with algorithm } }
  | .version version => { draft with version }
  | .hashAlgorithm id => { draft with hashing := { draft.hashing with hashAlgorithm := id } }
  | .salt bytes => { draft with hashing := { draft.hashing with salt := bytes } }
  | .rootHash bytes => { draft with hashing := { draft.hashing with rootHash := bytes } }
  | .apkDigest bytes =>
      { draft with defaultSigner := { draft.defaultSigner with apkDigest := bytes } }
  | .additionalData bytes => { draft with additionalData := bytes }
  | .certificate bytes =>
      { draft with defaultSigner := { draft.defaultSigner with certificate := bytes } }
  | .publicKeyAfterSigning bytes => { draft with publicKeyAfterSigning := some bytes }
  | .algorithmIdAfterSigning id => { draft with algorithmIdAfterSigning := some id }
  | .block blockId key apkDigest =>
      { draft with blocks := draft.blocks ++ [(blockId, SignerPlan.ofKey key apkDigest)] }
  | .trailing bytes => { draft with trailing := bytes }

def setAll (draft : EnvelopeDraft) (settings : List Setting) : EnvelopeDraft :=
  settings.foldl set draft

def defaultSigningInfo? (draft : EnvelopeDraft) : Option SigningInfo := do
  let signed ← draft.defaultSigner.sign? draft.fileSize draft.hashing draft.additionalData
  return { signed with
    publicKey := draft.publicKeyAfterSigning.getD signed.publicKey
    signatureAlgorithmId := draft.algorithmIdAfterSigning.getD signed.signatureAlgorithmId }

def signers? (draft : EnvelopeDraft) : Option SignerList := do
  let first := SignerList.ofDefault (← draft.defaultSigningInfo?)
  draft.blocks.foldlM (fun signers block => do
    let signer ← block.2.sign? draft.fileSize draft.hashing []
    return signers.addBlock block.1 signer) first

def envelope? (draft : EnvelopeDraft) : Option Envelope := do
  let signers ← draft.signers?
  return {
    version := draft.version
    hashingInfo := draft.hashing.toBytes
    signingInfos := signers.toBytes }

def build? (draft : EnvelopeDraft) : Option Bytes := do
  return (← draft.envelope?).toBytes ++ draft.trailing

end EnvelopeDraft

end PackageSignature.Signing
