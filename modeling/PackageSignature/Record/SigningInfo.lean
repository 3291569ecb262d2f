import PackageSignature.Record.Cursor
import PackageSignature.Record.Encoding
import PackageSignature.Text.Numeral
/-! The record of one signer. There are two ways through its encoding: one that
collects the fields and one that only finds where the record ends. -/

namespace PackageSignature

structure SigningInfo where
  apkDigest : Bytes
  certificate : Bytes
  additionalData : Bytes
  /-- The public key, as a SubjectPublicKeyInfo in DER. -/
  publicKey : Bytes
  signatureAlgorithmId : UInt32
  signature : Bytes
deriving DecidableEq, Repr

namespace SigningInfo

def read : Reader SigningInfo := do
  let apkDigest ← Reader.bytes .apkDigest
  let certificate ← Reader.bytes .certificate
  let additionalData ← Reader.bytes .additionalData
  let publicKey ← Reader.bytes .publicKey
  let signatureAlgorithmId ← Reader.u32 .signatureAlgorithmId
  let signature ← Reader.bytes .signature
  return { apkDigest, certificate, additionalData, publicKey, signatureAlgorithmId, signature }

def skipBytes : List Field → Reader Unit
  | [] => return ()
  | field :: others => do
      let _ ← Reader.bytes field
      skipBytes others

def skip : Reader Unit := do
  skipBytes [.apkDigest, .certificate, .additionalData, .publicKey]
  let _ ← Reader.u32 .signatureAlgorithmId
  let _ ← Reader.bytes .signature
  return ()

/-- The record at the head of a buffer; what follows it is ignored. -/
def decode (buffer : Bytes) : Except DecodeError SigningInfo :=
  Reader.decode read buffer

def toBytes (info : SigningInfo) : Bytes :=
  Encoding.prefixed info.apkDigest ++ Encoding.prefixed info.certificate ++
    Encoding.prefixed info.additionalData ++ Encoding.prefixed info.publicKey ++
    Encoding.u32 info.signatureAlgorithmId ++ Encoding.prefixed info.signature

/-- A line that tells what the record holds. Of the long fields it has only the length. -/
def summary (info : SigningInfo) : String :=
  "SigningInfo \x7b " ++ String.intercalate ", " [
    s!"apk_digest: \"{info.apkDigest.toHex}\"",
    s!"certificate_len: {info.certificate.length}",
    s!"additional_data_len: {info.additionalData.length}",
    s!"public_key_len: {info.publicKey.length}",
    "signature_algorithm_id: " ++ Text.Numeral.markedHex 4 info.signatureAlgorithmId.toNat,
    s!"signature_len: {info.signature.length}"] ++ " \x7d"

end SigningInfo

end PackageSignature
