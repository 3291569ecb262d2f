import PackageSignature.Rsa
/-! The probabilistic padding (PSS): a hash and a salt, hashed together, with a mask
derived from that hash over the salt. -/

namespace PackageSignature.Rsa.Pss

def maskBlocks (digest : Digest) (seed : Bytes) : Nat → Nat → Bytes
  | 0, _ => []
  | count + 1, counter =>
      digest.hash (seed ++ Bytes.ofNatBE 4 counter) ++ maskBlocks digest seed count (counter + 1)

/-- A mask of the given length derived from a seed (MGF1). -/
def mask (digest : Digest) (seed : Bytes) (length : Nat) : Bytes :=
  (maskBlocks digest seed ((length + digest.size - 1) / digest.size) 0).take length

def saltedHash (digest : Digest) (hash salt : Bytes) : Bytes :=
  digest.hash (Bytes.zeros 8 ++ hash ++ salt)

def clearsLeading (count : Nat) (bytes : Bytes) : Bool :=
  (bytes.headD 0).toNat < 1 <<< (8 - count)

def clearLeading (count : Nat) : Bytes → Bytes
  | [] => []
  | first :: rest => UInt8.ofNat (first.toNat % (1 <<< (8 - count))) :: rest

/-- Whether a block of `bits` bits, given in the fewest bytes, is the padding of a hash
with a salt of the given length. -/
def matchesHash (digest : Digest) (saltLength bits : Nat) (hash block : Bytes) : Bool :=
  let length := block.length
  let unused := 8 * length - bits
  let maskedLength := length - digest.size - 1
  let masked := block.take maskedLength
  let salted := (block.drop maskedLength).take digest.size
  let opened := clearLeading unused
    (Bytes.xor masked (mask digest salted maskedLength))
  let filling := maskedLength - saltLength - 1
  digest.size + saltLength + 2 ≤ length &&
    block.getLast? == some 0xbc &&
    clearsLeading unused masked &&
    opened.take filling == Bytes.zeros filling &&
    (opened.drop filling).head? == some 0x01 &&
    saltedHash digest hash (opened.drop (filling + 1)) == salted

def pad? (digest : Digest) (salt : Bytes) (bits : Nat) (hash : Bytes) : Option Bytes :=
  let length := (bits + 7) / 8
  let salted := saltedHash digest hash salt
  let filling := length - digest.size - salt.length - 2
  let maskedLength := length - digest.size - 1
  if digest.size + salt.length + 2 ≤ length then
    let plain := Bytes.zeros filling ++ [0x01] ++ salt
    let masked := clearLeading (8 * length - bits)
      (Bytes.xor plain (mask digest salted maskedLength))
    some (masked ++ salted ++ [0xbc])
  else
    none

/-- Whether a signature holds for a hash under a key. The block has one bit less than
the modulus; where that spares a whole byte, the byte in front is not looked at. -/
def holds (key : PublicKey) (digest : Digest) (saltLength : Nat) (hash signature : Bytes) :
    Bool :=
  let bits := key.bits - 1
  let length := (bits + 7) / 8
  let opened := Bytes.ofNatBE key.size (key.apply (Bytes.toNatBE signature))
  signature.length == key.size &&
    matchesHash digest saltLength bits hash (opened.drop (key.size - length))

end PackageSignature.Rsa.Pss
