import PackageSignature.Record.HashingInfo
import PackageSignature.Record.SigningInfo
/-! The bytes under a signature. They open with their own length and the size of the
package, and hold every field of the hashing info and of the signer record except
the signature itself. -/

namespace PackageSignature.SignedData

def length (hashing : HashingInfo) (signer : SigningInfo) : Nat :=
  45 + hashing.salt.length + hashing.rootHash.length + signer.apkDigest.length +
    signer.certificate.length + signer.additionalData.length + signer.publicKey.length

def layout (total : UInt32) (fileSize : UInt64) (hashing : HashingInfo) (signer : SigningInfo) :
    Bytes :=
  Encoding.u32 total ++ Encoding.u64 fileSize ++ Encoding.u32 hashing.hashAlgorithm ++
    [hashing.log2BlockSize] ++ Encoding.prefixed hashing.salt ++
    Encoding.prefixed hashing.rootHash ++ Encoding.prefixed signer.apkDigest ++
    Encoding.prefixed signer.certificate ++ Encoding.prefixed signer.additionalData ++
    Encoding.prefixed signer.publicKey ++ Encoding.u32 signer.signatureAlgorithmId

def encode? (fileSize : UInt64) (hashing : HashingInfo) (signer : SigningInfo) : Option Bytes :=
  if length hashing signer ≤ Encoding.maxLength then
    some (layout (UInt32.ofNat (length hashing signer)) fileSize hashing signer)
  else
    none

theorem length_layout (total : UInt32) (fileSize : UInt64) (hashing : HashingInfo)
    (signer : SigningInfo) :
    (layout total fileSize hashing signer).length = length hashing signer := by
  simp only [layout, length, List.length_append, Encoding.length_u32, Encoding.length_u64,
    Encoding.length_prefixed, List.length_cons, List.length_nil]
  omega

end PackageSignature.SignedData
