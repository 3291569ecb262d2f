/-! Arithmetic modulo a number: subtraction, powers and inverses. A power is the number
multiplied with the power before it, however few steps it is computed in. -/

namespace PackageSignature.Modular

def sub (m a b : Nat) : Nat :=
  (a + (m - b % m)) % m

def pow (m a : Nat) (e : Nat) : Nat :=
  if e = 0 then
    1 % m
  else
    let half := pow m (a * a % m) (e / 2)
    if e % 2 = 0 then half else a * half % m
termination_by e
decreasing_by omega

/-- The inverse of a number modulo a prime `p`; zero has none and yields zero. -/
def inverse (p a : Nat) : Nat :=
  pow p (a % p) (p - 2)

theorem pow_zero (m a : Nat) : pow m a 0 = 1 % m := by
  rw [pow, if_pos rfl]

theorem pow_succ (m a e : Nat) : pow m a (e + 1) = a * pow m a e % m := by
  induction e using Nat.strongRecOn generalizing a with
  | ind e ih =>
      by_cases even : e % 2 = 0
      · by_cases zero : e = 0
        · subst zero
          simp [pow]
        · have odd : ¬(e + 1) % 2 = 0 := by omega
          have halved : (e + 1) / 2 = e / 2 := by omega
          rw [pow.eq_def m a (e + 1), pow.eq_def m a e]
          simp only [Nat.succ_ne_zero, zero, odd, even, halved, if_true, if_false]
      · have next : (e + 1) % 2 = 0 := by omega
        have nonzero : e ≠ 0 := by omega
        have halved : (e + 1) / 2 = e / 2 + 1 := by omega
        have smaller : e / 2 < e := by omega
        rw [pow.eq_def m a (e + 1), pow.eq_def m a e]
        simp only [Nat.succ_ne_zero, nonzero, next, even, halved, if_true, if_false]
        rw [ih (e / 2) smaller, Nat.mul_mod_mod, ← Nat.mul_assoc, Nat.mod_mul_mod]

end PackageSignature.Modular
