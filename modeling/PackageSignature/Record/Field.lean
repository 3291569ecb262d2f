/-! The fields a signature record is made of, and the two ways in which reading one
of them fails. -/

namespace PackageSignature

inductive Field where
  | version
  | hashingInfo
  | signingInfos
  | hashAlgorithm
  | log2BlockSize
  | salt
  | rootHash
  | apkDigest
  | certificate
  | additionalData
  | publicKey
  | signatureAlgorithmId
  | signature
  | blockId
  | blockSigningInfo
deriving DecidableEq, Repr

namespace Field

def name : Field → String
  | version => "version"
  | hashingInfo => "hashingInfo"
  | signingInfos => "signingInfos"
  | hashAlgorithm => "hashAlgorithm"
  | log2BlockSize => "log2BlockSize"
  | salt => "salt"
  | rootHash => "rootHash"
  | apkDigest => "apkDigest"
  | certificate => "certificate"
  | additionalData => "additionalData"
  | publicKey => "publicKey"
  | signatureAlgorithmId => "signatureAlgorithmId"
  | signature => "signature"
  | blockId => "signingInfoBlock.blockId"
  | blockSigningInfo => "signingInfoBlock.signingInfo"

def all : List Field :=
  [version, hashingInfo, signingInfos, hashAlgorithm, log2BlockSize, salt, rootHash, apkDigest,
    certificate, additionalData, publicKey, signatureAlgorithmId, signature, blockId,
    blockSigningInfo]

def ofName? (text : String) : Option Field :=
  all.find? (fun field => field.name == text)

end Field

inductive DecodeError where
  /-- The field needs more bytes than the buffer still holds. -/
  | truncated (field : Field) (needed remaining : Nat)
  /-- The declared length of the field is above what is allowed for it. -/
  | tooLong (field : Field) (length limit : Nat)
deriving DecidableEq, Repr

namespace DecodeError

def field : DecodeError → Field
  | truncated field _ _ => field
  | tooLong field _ _ => field

def message : DecodeError → String
  | truncated field needed remaining =>
      s!"{field.name}: truncated (need {needed} bytes, {remaining} remaining)"
  | tooLong field length limit =>
      s!"{field.name}: length {length} exceeds limit of {limit} bytes"

end DecodeError

end PackageSignature
