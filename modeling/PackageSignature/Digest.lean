import PackageSignature.Sha2
/-! The hash functions in use, as one type, and the keyed hash built from them. -/

namespace PackageSignature

inductive Digest where
  | sha256
  | sha384
  | sha512
deriving DecidableEq, Repr

namespace Digest

def size : Digest → Nat
  | sha256 => 32
  | sha384 => 48
  | sha512 => 64

def blockSize : Digest → Nat
  | sha256 => 64
  | sha384 => 128
  | sha512 => 128

def hash : Digest → Bytes → Bytes
  | sha256, message => Sha2.sha256.hash message
  | sha384, message => Sha2.sha384.hash message
  | sha512, message => Sha2.sha512.hash message

def blockKey (digest : Digest) (key : Bytes) : Bytes :=
  let short := if digest.blockSize < key.length then digest.hash key else key
  short ++ Bytes.zeros (digest.blockSize - short.length)

/-- The keyed hash (HMAC) of a message. -/
def mac (digest : Digest) (key message : Bytes) : Bytes :=
  let padded := digest.blockKey key
  let inner := digest.hash (padded.map (· ^^^ 0x36) ++ message)
  digest.hash (padded.map (· ^^^ 0x5c) ++ inner)

end Digest

end PackageSignature
