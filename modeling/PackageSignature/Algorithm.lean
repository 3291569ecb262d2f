import PackageSignature.Digest
/-! The signature algorithms that are accepted. Each one fixes the kind of key, the hash
of the signed data and the way the key is applied to that hash. Their ids are shared
with the signing blocks of the older schemes; an id that is not listed is refused. -/

namespace PackageSignature

inductive KeyFamily where
  | rsa
  | ec
deriving DecidableEq, Repr

namespace KeyFamily

def name : KeyFamily → String
  | rsa => "RSA"
  | ec => "EC"

def all : List KeyFamily := [rsa, ec]

end KeyFamily

inductive SignatureScheme where
  | pkcs1
  | pss (saltLength : Nat)
  | ecdsa
deriving DecidableEq, Repr

inductive SignatureAlgorithm where
  | rsaPssSha256
  | rsaPssSha512
  | rsaPkcs1Sha256
  | rsaPkcs1Sha512
  | ecdsaSha256
  | ecdsaSha512
  /-- RSA with fixed padding over SHA-256, for content hashed as a tree. -/
  | verityRsaPkcs1Sha256
  | verityEcdsaSha256
deriving DecidableEq, Repr

namespace SignatureAlgorithm

def all : List SignatureAlgorithm :=
  [rsaPssSha256, rsaPssSha512, rsaPkcs1Sha256, rsaPkcs1Sha512, ecdsaSha256, ecdsaSha512,
    verityRsaPkcs1Sha256, verityEcdsaSha256]

def id : SignatureAlgorithm → UInt32
  | rsaPssSha256 => 0x0101
  | rsaPssSha512 => 0x0102
  | rsaPkcs1Sha256 => 0x0103
  | rsaPkcs1Sha512 => 0x0104
  | ecdsaSha256 => 0x0201
  | ecdsaSha512 => 0x0202
  | verityRsaPkcs1Sha256 => 0x0421
  | verityEcdsaSha256 => 0x0423

def ofId? (id : UInt32) : Option SignatureAlgorithm :=
  all.find? (fun algorithm => algorithm.id == id)

def name : SignatureAlgorithm → String
  | rsaPssSha256 => "SHA256withRSA/PSS"
  | rsaPssSha512 => "SHA512withRSA/PSS"
  | rsaPkcs1Sha256 | verityRsaPkcs1Sha256 => "SHA256withRSA"
  | rsaPkcs1Sha512 => "SHA512withRSA"
  | ecdsaSha256 | verityEcdsaSha256 => "SHA256withECDSA"
  | ecdsaSha512 => "SHA512withECDSA"

def family : SignatureAlgorithm → KeyFamily
  | rsaPssSha256 | rsaPssSha512 | rsaPkcs1Sha256 | rsaPkcs1Sha512 | verityRsaPkcs1Sha256 => .rsa
  | ecdsaSha256 | ecdsaSha512 | verityEcdsaSha256 => .ec

def digest : SignatureAlgorithm → Digest
  | rsaPssSha256 | rsaPkcs1Sha256 | ecdsaSha256 | verityRsaPkcs1Sha256 | verityEcdsaSha256 =>
      .sha256
  | rsaPssSha512 | rsaPkcs1Sha512 | ecdsaSha512 => .sha512

/-- The way the key is applied. A probabilistic padding has a salt as long as the hash. -/
def scheme : SignatureAlgorithm → SignatureScheme
  | rsaPssSha256 => .pss (Digest.size .sha256)
  | rsaPssSha512 => .pss (Digest.size .sha512)
  | rsaPkcs1Sha256 | rsaPkcs1Sha512 | verityRsaPkcs1Sha256 => .pkcs1
  | ecdsaSha256 | ecdsaSha512 | verityEcdsaSha256 => .ecdsa

theorem ofId?_id (algorithm : SignatureAlgorithm) : ofId? algorithm.id = some algorithm := by
  cases algorithm <;> decide

end SignatureAlgorithm

end PackageSignature
