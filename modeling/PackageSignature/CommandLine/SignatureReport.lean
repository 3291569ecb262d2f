import PackageSignature.Json.Value
import PackageSignature.Verification
/-! The report of what a signature holds. Nothing in it is verified, so what makes no
sense in a signer is reported as such and is no failure; the records themselves have
to be decodable. -/

namespace PackageSignature.CommandLine

structure HashingReport where
  hashAlgorithm : UInt32
  log2BlockSize : UInt8
  salt : String
  rootHash : String
deriving DecidableEq, Repr

namespace HashingReport

def ofHashing (hashing : HashingInfo) : HashingReport where
  hashAlgorithm := hashing.hashAlgorithm
  log2BlockSize := hashing.log2BlockSize
  salt := hashing.salt.toHex
  rootHash := hashing.rootHash.toHex

def toText (report : HashingReport) : String :=
  "hashing info:\n" ++
    s!"  algorithm: {report.hashAlgorithm}\n" ++
    s!"  log2 block size: {report.log2BlockSize}\n" ++
    s!"  salt: {report.salt}\n" ++
    s!"  root hash: {report.rootHash}\n"

def toJson (report : HashingReport) : Json.Value :=
  .object [
    ("hash_algorithm", .number report.hashAlgorithm.toNat),
    ("log2_block_size", .number report.log2BlockSize.toNat),
    ("salt", .text report.salt),
    ("root_hash", .text report.rootHash)]

end HashingReport

structure SignerReport where
  algorithmId : UInt32
  algorithm : Option String
  apkDigest : String
  subject : Option String
  certificateLength : Nat
  publicKeyLength : Nat
  additionalDataLength : Nat
  signatureLength : Nat
deriving DecidableEq, Repr

namespace SignerReport

def ofSigner (primitives : Primitives) (signer : SigningInfo) : SignerReport where
  algorithmId := signer.signatureAlgorithmId
  algorithm := (SignatureAlgorithm.ofId? signer.signatureAlgorithmId).map SignatureAlgorithm.name
  apkDigest := signer.apkDigest.toHex
  subject := (primitives.certificate signer.certificate).toOption.map Certificate.subjectText
  certificateLength := signer.certificate.length
  publicKeyLength := signer.publicKey.length
  additionalDataLength := signer.additionalData.length
  signatureLength := signer.signature.length

def toText (report : SignerReport) : String :=
  let id := Text.Numeral.markedHex 4 report.algorithmId.toNat
  let algorithm := report.algorithm.getD "unsupported"
  let subject := report.subject.getD "<undecodable>"
  "default signer:\n" ++
    s!"  algorithm: {id} ({algorithm})\n" ++
    s!"  apk digest: {report.apkDigest}\n" ++
    s!"  certificate: {subject} ({report.certificateLength} bytes)\n" ++
    s!"  public key: {report.publicKeyLength} bytes\n" ++
    s!"  additional data: {report.additionalDataLength} bytes\n" ++
    s!"  signature: {report.signatureLength} bytes\n"

def optionalText : Option String → Json.Value
  | some text => .text text
  | none => .null

def toJson (report : SignerReport) : Json.Value :=
  .object [
    ("signature_algorithm_id", .number report.algorithmId.toNat),
    ("signature_algorithm", optionalText report.algorithm),
    ("apk_digest", .text report.apkDigest),
    ("certificate_subject", optionalText report.subject),
    ("certificate_len", .number report.certificateLength),
    ("public_key_len", .number report.publicKeyLength),
    ("additional_data_len", .number report.additionalDataLength),
    ("signature_len", .number report.signatureLength)]

end SignerReport

structure BlockReport where
  blockId : UInt32
  length : Nat
deriving DecidableEq, Repr

namespace BlockReport

def ofBlock (block : SignerBlock) : BlockReport where
  blockId := block.blockId
  length := block.signingInfo.length

def toText (report : BlockReport) : String :=
  let id := Text.Numeral.markedHex 8 report.blockId.toNat
  s!"  {id} ({report.length} bytes)\n"

def toJson (report : BlockReport) : Json.Value :=
  .object [("block_id", .number report.blockId.toNat), ("len", .number report.length)]

end BlockReport

structure SignatureReport where
  version : UInt32
  hashing : HashingReport
  defaultSigner : SignerReport
  blocks : List BlockReport
deriving DecidableEq, Repr

namespace SignatureReport

def ofEnvelope (primitives : Primitives) (envelope : Envelope) :
    Except VerifyError SignatureReport := do
  let hashing ← envelope.decodeHashingInfo.mapError .decode
  let signers ← envelope.decodeSigners.mapError .decode
  let signer ← signers.decodeDefault.mapError .decode
  return {
    version := envelope.version
    hashing := HashingReport.ofHashing hashing
    defaultSigner := SignerReport.ofSigner primitives signer
    blocks := signers.blocks.map BlockReport.ofBlock }

def toText (report : SignatureReport) : String :=
  s!"version: {report.version}\n" ++
    report.hashing.toText ++
    report.defaultSigner.toText ++
    if report.blocks.isEmpty then
      "signer blocks: none\n"
    else
      "signer blocks:\n" ++ String.join (report.blocks.map BlockReport.toText)

def toJson (report : SignatureReport) : Json.Value :=
  .object [
    ("version", .number report.version.toNat),
    ("hashing_info", report.hashing.toJson),
    ("default_signer", report.defaultSigner.toJson),
    ("blocks", .array (report.blocks.map BlockReport.toJson))]

end SignatureReport

end PackageSignature.CommandLine
