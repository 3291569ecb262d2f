import Mathlib.Tactic.Ring
import PackageSignature.Digest
import PackageSignature.Rsa

/-! The sizes that RSA works with: byte strings as numbers, the widths of a modulus, and the
lengths of hashes. -/

namespace PackageSignature

namespace Bytes

theorem capacity_eq_pow (width : Nat) : capacity width = 256 ^ width := by
  induction width with
  | zero => rfl
  | succ width ih => rw [capacity, ih, pow_succ, Nat.mul_comm]

theorem pow_eq_two_pow (width : Nat) : 256 ^ width = 2 ^ (8 * width) :=
  (pow_mul 2 8 width).symm

theorem toNatLE_append (front back : Bytes) :
    toNatLE (front ++ back) = toNatLE front + 256 ^ front.length * toNatLE back := by
  induction front with
  | nil => simp only [toNatLE, List.nil_append, List.length_nil, pow_zero, one_mul, zero_add]
  | cons byte rest ih =>
      rw [List.cons_append, toNatLE, toNatLE, ih, List.length_cons]
      ring

theorem toNatBE_cons (first : UInt8) (rest : Bytes) :
    toNatBE (first :: rest) = first.toNat * 256 ^ rest.length + toNatBE rest := by
  rw [toNatBE, toNatBE, List.reverse_cons, toNatLE_append, List.length_reverse, toNatLE, toNatLE]
  ring

theorem toNatBE_lt (bytes : Bytes) : toNatBE bytes < 256 ^ bytes.length := by
  rw [toNatBE, ← capacity_eq_pow, ← List.length_reverse]
  exact toNatLE_lt bytes.reverse

theorem ofNatBE_toNatBE (bytes : Bytes) : ofNatBE bytes.length (toNatBE bytes) = bytes := by
  rw [toNatBE, ofNatBE, ← List.length_reverse, ofNatLE_toNatLE, List.reverse_reverse]

theorem toNatBE_zeros_append (count : Nat) (bytes : Bytes) :
    toNatBE (zeros count ++ bytes) = toNatBE bytes := by
  induction count with
  | zero => rfl
  | succ count ih =>
      rw [zeros, List.replicate_succ, List.cons_append, toNatBE_cons]
      change 0 * _ + toNatBE (zeros count ++ bytes) = _
      rw [ih, Nat.zero_mul, Nat.zero_add]

theorem ofNatBE_of_length_le {bytes : Bytes} {width : Nat} (fits : bytes.length ≤ width) :
    ofNatBE width (toNatBE bytes) = zeros (width - bytes.length) ++ bytes := by
  have wide : (zeros (width - bytes.length) ++ bytes).length = width := by
    rw [List.length_append, zeros, List.length_replicate]
    omega
  calc
    ofNatBE width (toNatBE bytes) =
        ofNatBE (zeros (width - bytes.length) ++ bytes).length
          (toNatBE (zeros (width - bytes.length) ++ bytes)) := by
      rw [wide, toNatBE_zeros_append]
    _ = zeros (width - bytes.length) ++ bytes := ofNatBE_toNatBE _

theorem toNatBE_lt_of_head {first : UInt8} {rest : Bytes} {bound : Nat}
    (small : first.toNat < bound) : toNatBE (first :: rest) < bound * 256 ^ rest.length := by
  have behind := toNatBE_lt rest
  rw [toNatBE_cons]
  calc
    first.toNat * 256 ^ rest.length + toNatBE rest
        < first.toNat * 256 ^ rest.length + 256 ^ rest.length := Nat.add_lt_add_left behind _
    _ = (first.toNat + 1) * 256 ^ rest.length := by ring
    _ ≤ bound * 256 ^ rest.length := Nat.mul_le_mul_right _ small

end Bytes

namespace Sha2

theorem length_hash {width : Nat} (family : Sha2 width) (message : Bytes)
    (kept : family.size ≤ 8 * family.wordSize) : (family.hash message).length = family.size := by
  rw [hash, List.length_take]
  simp only [Registers.toList, List.flatMap_cons, List.flatMap_nil, List.length_append,
    Bytes.length_ofNatBE, List.length_nil]
  omega

end Sha2

namespace Digest

@[simp] theorem length_hash (digest : Digest) (message : Bytes) :
    (digest.hash message).length = digest.size := by
  cases digest with
  | sha256 => exact Sha2.sha256.length_hash message (by decide)
  | sha384 => exact Sha2.sha384.length_hash message (by decide)
  | sha512 => exact Sha2.sha512.length_hash message (by decide)

end Digest

namespace Rsa.PublicKey

variable {key : PublicKey}

theorem pow_size_le (something : key.modulus ≠ 0) : 256 ^ (key.size - 1) ≤ key.modulus := by
  have least : 2 ^ key.modulus.log2 ≤ key.modulus := Nat.log2_self_le something
  rw [size, Bytes.widthOf, if_neg something, Nat.add_sub_cancel]
  calc
    256 ^ (key.modulus.log2 / 8) = 2 ^ (8 * (key.modulus.log2 / 8)) := Bytes.pow_eq_two_pow _
    _ ≤ 2 ^ key.modulus.log2 := Nat.pow_le_pow_right (by decide) (Nat.mul_div_le _ _)
    _ ≤ key.modulus := least

theorem lt_pow_size : key.modulus < 256 ^ key.size := by
  by_cases nothing : key.modulus = 0
  · rw [nothing]
    exact Nat.pow_pos (by decide)
  · have most : key.modulus < 2 ^ (key.modulus.log2 + 1) := Nat.lt_log2_self
    rw [size, Bytes.widthOf, if_neg nothing]
    calc
      key.modulus < 2 ^ (key.modulus.log2 + 1) := most
      _ ≤ 2 ^ (8 * (key.modulus.log2 / 8 + 1)) := Nat.pow_le_pow_right (by decide) (by omega)
      _ = 256 ^ (key.modulus.log2 / 8 + 1) := (Bytes.pow_eq_two_pow _).symm

theorem pow_bits_le (something : key.modulus ≠ 0) : 2 ^ (key.bits - 1) ≤ key.modulus := by
  rw [bits, if_neg something, Nat.add_sub_cancel]
  exact Nat.log2_self_le something

theorem block_length_le (something : key.modulus ≠ 0) : (key.bits - 1 + 7) / 8 ≤ key.size := by
  rw [bits, if_neg something, size, Bytes.widthOf, if_neg something]
  omega

end Rsa.PublicKey

end PackageSignature
