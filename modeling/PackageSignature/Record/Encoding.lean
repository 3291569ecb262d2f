import PackageSignature.Bytes
/-! Writing the two shapes that every record is built of: numbers of fixed width and
byte strings behind their length. -/

namespace PackageSignature.Encoding

def u32 (value : UInt32) : Bytes :=
  Bytes.ofNatLE 4 value.toNat

def u64 (value : UInt64) : Bytes :=
  Bytes.ofNatLE 8 value.toNat

def maxLength : Nat := 4294967295

/-- A byte string behind its length. A string too long for its length field is
written whole behind the largest length there is. -/
def prefixed (bytes : Bytes) : Bytes :=
  Bytes.ofNatLE 4 (min bytes.length maxLength) ++ bytes

@[simp] theorem length_u32 (value : UInt32) : (u32 value).length = 4 := by
  simp [u32]

@[simp] theorem length_u64 (value : UInt64) : (u64 value).length = 8 := by
  simp [u64]

@[simp] theorem length_prefixed (bytes : Bytes) : (prefixed bytes).length = 4 + bytes.length := by
  simp [prefixed]

end PackageSignature.Encoding
