import Mathlib.FieldTheory.Finite.Basic
import Mathlib.NumberTheory.LucasPrimality
import PackageSignature.Proofs.Rsa.Blocks
import PackageSignature.Rsa.Pkcs1
import PackageSignature.Signing.PrivateKey

/-! Pairs of an RSA key and a private exponent. What the private exponent is applied to comes
back under the key, so the key accepts what was signed with fixed padding. -/

namespace PackageSignature

namespace Modular

theorem pow_eq (m a e : Nat) : pow m a e = a ^ e % m := by
  induction e with
  | zero => exact pow_zero m a
  | succ e ih =>
      rw [pow_succ, ih, Nat.mul_mod_mod, Nat.pow_succ, Nat.mul_comm]

end Modular

namespace Rsa.PublicKey

/-- The exponent undoes that of the key, whose modulus is the product of two primes. -/
structure Inverts (key : PublicKey) (exponent p q : Nat) : Prop where
  firstPrime : p.Prime
  secondPrime : q.Prime
  different : p ≠ q
  product : key.modulus = p * q
  first : exponent * key.exponent ≡ 1 [MOD p - 1]
  second : exponent * key.exponent ≡ 1 [MOD q - 1]

variable {key : PublicKey} {exponent p q : Nat}

theorem pow_modEq_self {p e : Nat} (prime : p.Prime) (one : e ≡ 1 [MOD p - 1]) (positive : 0 < e)
    (a : Nat) : a ^ e ≡ a [MOD p] := by
  by_cases divides : p ∣ a
  · have zero : a ≡ 0 [MOD p] := Nat.modEq_zero_iff_dvd.mpr divides
    have powerZero : a ^ e ≡ 0 [MOD p] :=
      Nat.modEq_zero_iff_dvd.mpr (Dvd.dvd.pow divides positive.ne')
    exact powerZero.trans zero.symm
  · have coprime : a.Coprime p := ((Nat.Prime.coprime_iff_not_dvd prime).mpr divides).symm
    have fermat : a ^ (p - 1) ≡ 1 [MOD p] := by
      rw [← Nat.totient_prime prime]
      exact Nat.ModEq.pow_totient coprime
    obtain ⟨k, split⟩ := (Nat.modEq_iff_dvd' positive).mp one.symm
    have exponentEq : e = (p - 1) * k + 1 := by omega
    calc
      a ^ e = (a ^ (p - 1)) ^ k * a := by rw [exponentEq, pow_succ, pow_mul]
      _ ≡ 1 ^ k * a [MOD p] := (fermat.pow k).mul_right a
      _ = a := by rw [one_pow, one_mul]

theorem Inverts.modulus_pos (inverts : key.Inverts exponent p q) : 0 < key.modulus := by
  rw [inverts.product]
  exact Nat.mul_pos inverts.firstPrime.pos inverts.secondPrime.pos

theorem Inverts.positive (inverts : key.Inverts exponent p q) : 0 < exponent * key.exponent := by
  -- One of the primes is not two, and zero is not one below it.
  rcases Nat.eq_zero_or_pos (exponent * key.exponent) with zero | positive
  · have first := inverts.first
    have second := inverts.second
    rw [zero] at first second
    have firstOne := (Nat.modEq_iff_dvd' (Nat.zero_le 1)).mp first
    have secondOne := (Nat.modEq_iff_dvd' (Nat.zero_le 1)).mp second
    have firstTwo : p - 1 = 1 := Nat.dvd_one.mp firstOne
    have secondTwo : q - 1 = 1 := Nat.dvd_one.mp secondOne
    have different := inverts.different
    omega
  · exact positive

theorem Inverts.pow_mod (inverts : key.Inverts exponent p q) {a : Nat} (small : a < key.modulus) :
    a ^ (exponent * key.exponent) % key.modulus = a := by
  have coprime : p.Coprime q :=
    (Nat.coprime_primes inverts.firstPrime inverts.secondPrime).mpr inverts.different
  have first := pow_modEq_self inverts.firstPrime inverts.first inverts.positive a
  have second := pow_modEq_self inverts.secondPrime inverts.second inverts.positive a
  have both := (Nat.modEq_and_modEq_iff_modEq_mul coprime).mp ⟨first, second⟩
  rw [← inverts.product] at both
  exact Nat.mod_eq_of_modEq both small

/-- Lucas's test of a number that is one above a prime times a power of two. -/
theorem prime_of_powers {r k a : Nat} (prime : r.Prime)
    (whole : Modular.pow (r * 2 ^ k + 1) a (r * 2 ^ k) = 1)
    (half : Modular.pow (r * 2 ^ k + 1) a (r * 2 ^ k / 2) ≠ 1)
    (part : Modular.pow (r * 2 ^ k + 1) a (r * 2 ^ k / r) ≠ 1) : (r * 2 ^ k + 1).Prime := by
  have one_iff (e : Nat) : (a : ZMod (r * 2 ^ k + 1)) ^ e = 1 ↔
      Modular.pow (r * 2 ^ k + 1) a e = 1 := by
    have large : 1 < r * 2 ^ k + 1 :=
      Nat.lt_add_of_pos_left (Nat.mul_pos prime.pos (Nat.pow_pos Nat.two_pos))
    have unit : ((1 : Nat) : ZMod (r * 2 ^ k + 1)) = 1 := Nat.cast_one
    rw [← Nat.cast_pow, ← unit, ZMod.natCast_eq_natCast_iff', Nat.mod_eq_of_lt large,
      Modular.pow_eq]
  refine lucas_primality (r * 2 ^ k + 1) a ((one_iff _).mpr whole) ?_
  intro divisor divisorPrime divides
  rw [Nat.add_sub_cancel] at divides ⊢
  rw [ne_eq, one_iff]
  rcases divisorPrime.dvd_mul.mp divides with odd | power
  · rw [(Nat.prime_dvd_prime_iff_eq divisorPrime prime).mp odd]
    exact part
  · have two := divisorPrime.dvd_of_dvd_pow power
    rw [(Nat.prime_dvd_prime_iff_eq divisorPrime Nat.prime_two).mp two]
    exact half

def sampleKey : PublicKey where
  modulus := (3 * 2 ^ 276 + 1) * (7 * 2 ^ 290 + 1)
  exponent := 65537

def sampleExponent : Nat :=
  2486608593614363276439938913922560388291772179347209811888871901433664595862718565515265

theorem sampleKey_inverts :
    sampleKey.Inverts sampleExponent (3 * 2 ^ 276 + 1) (7 * 2 ^ 290 + 1) where
  firstPrime := prime_of_powers (a := 19) Nat.prime_three
    (by decide +kernel) (by decide +kernel) (by decide +kernel)
  secondPrime := prime_of_powers (a := 3) Nat.prime_seven
    (by decide +kernel) (by decide +kernel) (by decide +kernel)
  different := by decide +kernel
  product := rfl
  first := by decide +kernel
  second := by decide +kernel

open Signing.PrivateKey (applyRsa signPkcs1?)

@[simp] theorem length_applyRsa (key : PublicKey) (exponent : Nat) (block : Bytes) :
    (applyRsa key exponent block).length = key.size :=
  Bytes.length_ofNatBE _ _

theorem toNatBE_applyRsa (something : 0 < key.modulus) (exponent : Nat) (block : Bytes) :
    Bytes.toNatBE (applyRsa key exponent block) =
      Bytes.toNatBE block ^ exponent % key.modulus := by
  have small : Bytes.toNatBE block ^ exponent % key.modulus < 256 ^ key.size :=
    Nat.lt_trans (Nat.mod_lt _ something) lt_pow_size
  rw [applyRsa, Bytes.toNatBE_ofNatBE, Bytes.capacity_eq_pow, Modular.pow_eq,
    Nat.mod_eq_of_lt small]

theorem Inverts.apply_applyRsa (inverts : key.Inverts exponent p q) {block : Bytes}
    (small : Bytes.toNatBE block < key.modulus) :
    key.apply (Bytes.toNatBE (applyRsa key exponent block)) = Bytes.toNatBE block := by
  rw [toNatBE_applyRsa inverts.modulus_pos, apply, Modular.pow_eq, Nat.mod_mod, ← Nat.pow_mod,
    ← pow_mul, inverts.pow_mod small]

theorem exists_rest_of_pad {size : Nat} {digest : Digest} {hash block : Bytes}
    (padded : Pkcs1.pad? size digest hash = some block) :
    ∃ rest, block = 0 :: rest ∧ rest.length + 1 = size := by
  rw [Pkcs1.pad?] at padded
  generalize Pkcs1.digestInfo digest hash = info at padded
  obtain ⟨within, padded⟩ := Option.ite_none_right_eq_some.mp padded
  cases padded
  refine ⟨0x01 :: (List.replicate (size - info.length - 3) 0xff ++ [0x00] ++ info), rfl, ?_⟩
  simp only [List.length_append, List.length_cons, List.length_nil, List.length_replicate]
  omega

theorem Inverts.pkcs1_holds (inverts : key.Inverts exponent p q) {digest : Digest}
    {hash signature : Bytes} (signed : signPkcs1? key exponent digest hash = some signature) :
    Pkcs1.holds key digest hash signature = true := by
  obtain ⟨block, padded, rfl⟩ := Option.map_eq_some_iff.mp signed
  obtain ⟨rest, rfl, long⟩ := exists_rest_of_pad padded
  have something := inverts.modulus_pos
  have small : Bytes.toNatBE (0 :: rest) < key.modulus := by
    have below : Bytes.toNatBE (0 :: rest) < 1 * 256 ^ rest.length :=
      Bytes.toNatBE_lt_of_head Nat.zero_lt_one
    rw [Nat.one_mul, Nat.eq_sub_of_add_eq long] at below
    exact Nat.lt_of_lt_of_le below (pow_size_le something.ne')
  have reduced : Bytes.toNatBE (applyRsa key exponent (0 :: rest)) < key.modulus := by
    rw [toNatBE_applyRsa something]
    exact Nat.mod_lt _ something
  have recovered : Bytes.ofNatBE key.size (Bytes.toNatBE (0 :: rest)) = 0 :: rest := by
    rw [← long]
    exact Bytes.ofNatBE_toNatBE (0 :: rest)
  simp only [Pkcs1.holds, length_applyRsa, inverts.apply_applyRsa small, recovered, padded,
    reduced, beq_self_eq_true, decide_true, Bool.and_self]

end Rsa.PublicKey

end PackageSignature
