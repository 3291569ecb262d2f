import PackageSignature.Rsa
/-! The fixed padding of PKCS#1 version 1.5: a hash behind the name of its function,
filled up to the length of the modulus. -/

namespace PackageSignature.Rsa.Pkcs1

def digestId : Digest → Der.ObjectId
  | .sha256 => Der.ObjectId.ofArcs [2, 16, 840, 1, 101, 3, 4, 2, 1]
  | .sha384 => Der.ObjectId.ofArcs [2, 16, 840, 1, 101, 3, 4, 2, 2]
  | .sha512 => Der.ObjectId.ofArcs [2, 16, 840, 1, 101, 3, 4, 2, 3]

def digestInfo (digest : Digest) (hash : Bytes) : Bytes :=
  Der.encodeSequence
    [Der.encodeSequence [(digestId digest).toBytes, Der.encode Der.Tag.null []],
      Der.encode Der.Tag.octetString hash]

/-- The padded hash, unless the modulus leaves too little room: eleven bytes are
needed around the encoded hash. -/
def pad? (size : Nat) (digest : Digest) (hash : Bytes) : Option Bytes :=
  let info := digestInfo digest hash
  if info.length + 11 ≤ size then
    some ([0x00, 0x01] ++ List.replicate (size - info.length - 3) 0xff ++ [0x00] ++ info)
  else
    none

def holds (key : PublicKey) (digest : Digest) (hash signature : Bytes) : Bool :=
  let n := Bytes.toNatBE signature
  signature.length == key.size && n < key.modulus &&
    pad? key.size digest hash == some (Bytes.ofNatBE key.size (key.apply n))

end PackageSignature.Rsa.Pkcs1
