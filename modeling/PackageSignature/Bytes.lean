/-! Byte strings, their hexadecimal text, and the two ways a number is laid out in
them: least significant byte first in the signature records, most significant
byte first in keys, signatures and certificates. The laws state that a number
survives a round trip up to the width it was given. -/

namespace PackageSignature

abbrev Bytes := List UInt8

namespace Bytes

def hexDigit (n : Nat) : Char :=
  if n < 10 then Char.ofNat (48 + n) else Char.ofNat (87 + n)

def hexDigits (bytes : Bytes) : List Char :=
  bytes.flatMap (fun byte => [hexDigit (byte.toNat / 16), hexDigit (byte.toNat % 16)])

def toHex (bytes : Bytes) : String :=
  String.ofList (hexDigits bytes)

def toText? (bytes : Bytes) : Option String :=
  String.fromUTF8? (ByteArray.mk bytes.toArray)

def ofText (text : String) : Bytes :=
  text.toUTF8.toList

def ofNatLE : Nat → Nat → Bytes
  | 0, _ => []
  | width + 1, n => UInt8.ofNat (n % 256) :: ofNatLE width (n / 256)

def toNatLE : Bytes → Nat
  | [] => 0
  | byte :: rest => byte.toNat + 256 * toNatLE rest

def capacity : Nat → Nat
  | 0 => 1
  | width + 1 => 256 * capacity width

@[simp] theorem length_ofNatLE (width n : Nat) : (ofNatLE width n).length = width := by
  induction width generalizing n with
  | zero => rfl
  | succ width ih => simp only [ofNatLE, List.length_cons, ih]

theorem toNatLE_lt (bytes : Bytes) : toNatLE bytes < capacity bytes.length := by
  induction bytes with
  | nil => simp [toNatLE, capacity]
  | cons byte rest ih =>
      have bounded : byte.toNat < 256 := byte.toNat_lt
      rw [toNatLE, List.length_cons, capacity]
      omega

theorem toNatLE_ofNatLE (width n : Nat) : toNatLE (ofNatLE width n) = n % capacity width := by
  induction width generalizing n with
  | zero => simp [ofNatLE, toNatLE, capacity, Nat.mod_one]
  | succ width ih =>
      have small : n % 256 < 256 := Nat.mod_lt n (by decide)
      have kept : (UInt8.ofNat (n % 256)).toNat = n % 256 := by
        rw [UInt8.toNat_ofNat']
        exact Nat.mod_eq_of_lt small
      rw [ofNatLE, toNatLE, ih, kept, capacity, Nat.mod_mul]

theorem ofNatLE_toNatLE (bytes : Bytes) : ofNatLE bytes.length (toNatLE bytes) = bytes := by
  induction bytes with
  | nil => rfl
  | cons byte rest ih =>
      have bounded : byte.toNat < 256 := byte.toNat_lt
      have low : (byte.toNat + 256 * toNatLE rest) % 256 = byte.toNat := by omega
      have high : (byte.toNat + 256 * toNatLE rest) / 256 = toNatLE rest := by omega
      rw [List.length_cons, toNatLE, ofNatLE, low, high, ih, UInt8.ofNat_toNat]

def ofNatBE (width n : Nat) : Bytes :=
  (ofNatLE width n).reverse

def toNatBE (bytes : Bytes) : Nat :=
  toNatLE bytes.reverse

def widthOf (n : Nat) : Nat :=
  if n = 0 then 0 else n.log2 / 8 + 1

@[simp] theorem length_ofNatBE (width n : Nat) : (ofNatBE width n).length = width := by
  simp [ofNatBE]

theorem toNatBE_ofNatBE (width n : Nat) : toNatBE (ofNatBE width n) = n % capacity width := by
  rw [toNatBE, ofNatBE, List.reverse_reverse, toNatLE_ofNatLE]

def xor (left right : Bytes) : Bytes :=
  List.zipWith (· ^^^ ·) left right

def zeros (count : Nat) : Bytes :=
  List.replicate count 0

/-- Cuts a byte string into pieces of `size` bytes; the last one may be shorter. A
size of zero counts as one. -/
def chunks (size : Nat) : Bytes → List Bytes
  | [] => []
  | byte :: rest => (byte :: rest.take (size - 1)) :: chunks size (rest.drop (size - 1))
termination_by bytes => bytes.length
decreasing_by
  simp only [List.length_drop, List.length_cons]
  omega

end Bytes

end PackageSignature
