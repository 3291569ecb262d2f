import PackageSignature.Der.ObjectId
/-! The simple values of DER: numbers, truth values and strings of bits. -/

namespace PackageSignature.Der

/-- Whether a content is that of a number: not empty, and without a first byte that
only repeats the sign. -/
def isInteger : Bytes → Bool
  | [] => false
  | [_] => true
  | first :: second :: _ =>
      !(first == 0x00 && second < 0x80) && !(first == 0xff && 0x80 ≤ second)

def readInteger : Reader Bytes := do
  let content ← Reader.content Tag.integer
  guard (isInteger content)
  return content

def readNat : Reader Nat := do
  let content ← readInteger
  guard (content.headD 0 < 0x80)
  return Bytes.toNatBE content

def natContent (n : Nat) : Bytes :=
  let bytes := Bytes.ofNatBE (Bytes.widthOf n) n
  if bytes.headD 0x80 < 0x80 then bytes else 0 :: bytes

def encodeNat (n : Nat) : Bytes :=
  encode Tag.integer (natContent n)

def readBoolean : Reader Bool := do
  match ← Reader.content Tag.boolean with
  | [0x00] => return false
  | [0xff] => return true
  | _ => failure

structure BitString where
  /-- The number of bits of the last byte that do not count. -/
  unused : Nat
  bytes : Bytes
deriving DecidableEq, Repr

namespace BitString

def ofContent? : Bytes → Option BitString
  | [] => none
  | unused :: bytes =>
      if unused ≤ 7 ∧ (bytes.isEmpty → unused = 0) then
        some { unused := unused.toNat, bytes }
      else
        none

def read : Reader BitString := do
  ofContent? (← Reader.content Tag.bitString)

def whole? (bits : BitString) : Option Bytes :=
  if bits.unused = 0 then some bits.bytes else none

end BitString

def encodeBitString (bytes : Bytes) : Bytes :=
  encode Tag.bitString (0 :: bytes)

end PackageSignature.Der
