import Mathlib.Algebra.Group.Nat.Defs
import Mathlib.Data.Nat.Log

/-!
This module contains the conversion of an unsigned integer to binary64, rounded to nearest with ties
to even. The result is again an integer and stands for itself.
-/

def Float64.excess (n : Nat) : Nat := n.log2 - 52

def float64 (n : Nat) : Nat :=
  let ulp := 2 ^ Float64.excess n
  let significand := n / ulp
  let rest := n % ulp
  if ulp < 2 * rest ∨ (ulp = 2 * rest ∧ significand % 2 = 1) then
    (significand + 1) * ulp
  else
    significand * ulp

namespace Float64

theorem float64_of_lt {n : Nat} (h : n < 2 ^ 53) : float64 n = n := by
  have hexcess : excess n = 0 := by
    rcases Nat.eq_zero_or_pos n with rfl | hpos
    . decide
    . have := (Nat.log2_lt (Nat.pos_iff_ne_zero.mp hpos)).mpr h
      simp only [excess]
      omega
  simp [float64, hexcess, Nat.mod_one]

theorem le_float64 {n : Nat} (h : 2 ^ 53 ≤ n) : 2 ^ 53 ≤ float64 n := by
  have hne : n ≠ 0 := by omega
  have hlog : 53 ≤ n.log2 := (Nat.le_log2 hne).mpr h
  have hself : 2 ^ n.log2 ≤ n := (Nat.le_log2 hne).mp (Nat.le_refl _)
  have hsplit : n.log2 = 52 + excess n := by
    simp only [excess]
    omega
  have hsignificand : 2 ^ 52 ≤ n / 2 ^ excess n := by
    rw [Nat.le_div_iff_mul_le (Nat.two_pow_pos _), ← Nat.pow_add, ← hsplit]
    exact hself
  have hulp : 2 ≤ 2 ^ excess n := by
    have : 1 ≤ excess n := by omega
    calc
      2 = 2 ^ 1 := rfl
      _ ≤ 2 ^ excess n := Nat.pow_le_pow_right (by decide) this
  have hfloor : 2 ^ 53 ≤ n / 2 ^ excess n * 2 ^ excess n :=
    calc
      2 ^ 53 = 2 ^ 52 * 2 := by decide
      _ ≤ n / 2 ^ excess n * 2 ^ excess n := Nat.mul_le_mul hsignificand hulp
  simp only [float64]
  split
  . apply Nat.le_trans hfloor (Nat.mul_le_mul_right _ (Nat.le_succ _))
  . exact hfloor

theorem lt_float64_iff {t n : Nat} (h : t < 2 ^ 53) : t < float64 n ↔ t < n := by
  by_cases hn : n < 2 ^ 53
  . rw [float64_of_lt hn]
  . have := le_float64 (Nat.le_of_not_lt hn)
    omega

end Float64
