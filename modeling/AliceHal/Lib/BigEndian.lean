import Mathlib

/-!
# Big-Endian Bytes

The last bytes of a number, highest first.

- `bigEndian`: the bytes
- `bigEndian_eq_iff`: they determine the number up to the bytes left out
-/

namespace Lib

/-- The lowest `n` bytes of `v`, highest first. -/
def bigEndian : ℕ → ℕ → List UInt8
  | 0, _ => []
  | n + 1, v => UInt8.ofNat (v / 256 ^ n) :: bigEndian n v

@[simp]
theorem length_bigEndian (n v : ℕ) : (bigEndian n v).length = n := by
  induction n with
  | zero => rfl
  | succ n ih => rw [bigEndian, List.length_cons, ih]

theorem ofNat_eq_ofNat_iff {a b : ℕ} : UInt8.ofNat a = UInt8.ofNat b ↔ a % 256 = b % 256 := by
  rw [← UInt8.toNat_inj, UInt8.toNat_ofNat', UInt8.toNat_ofNat']

/-- Two numbers have the same bytes when they agree up to the bytes left out. -/
theorem bigEndian_eq_iff {n v v' : ℕ} :
    bigEndian n v = bigEndian n v' ↔ v % 256 ^ n = v' % 256 ^ n := by
  induction n with
  | zero => simp [bigEndian, Nat.mod_one]
  | succ n ih =>
    have hlow : ∀ u : ℕ, u % 256 ^ n < 256 ^ n := fun u => Nat.mod_lt _ (Nat.pow_pos (by decide))
    rw [bigEndian, bigEndian, List.cons.injEq, ih, ofNat_eq_ofNat_iff, Nat.mod_pow_succ,
      Nat.mod_pow_succ]
    constructor
    · rintro ⟨hhigh, hrest⟩
      rw [hhigh, hrest]
    · intro h
      -- the highest byte is the quotient, the rest the remainder
      have hrest : v % 256 ^ n = v' % 256 ^ n := by
        have hmod := congrArg (· % 256 ^ n) h
        simpa only [Nat.add_mul_mod_self_left, Nat.mod_mod] using hmod
      rw [hrest, Nat.add_left_cancel_iff] at h
      exact ⟨Nat.eq_of_mul_eq_mul_left (Nat.pow_pos (by decide)) h, hrest⟩

end Lib
