/-!
This module contains streaks in an infinite sequence: how many entries in a row satisfy a predicate,
as a counter that is reset by the first one that does not, and the first entry with a property.
-/

namespace Streak

def count (p : Nat → Bool) : Nat → Nat
  | 0 => 0
  | n + 1 => if p n then count p n + 1 else 0

def Ends (p : Nat → Bool) (j n : Nat) : Prop :=
  j ≤ n + 1 ∧ ∀ k, n + 1 ≤ k + j → k < n + 1 → p k = true

def FirstAt (P : Nat → Prop) (n : Nat) : Prop :=
  P n ∧ ∀ m, m < n → ¬P m

theorem le_count_iff (p : Nat → Bool) (n j : Nat)
    : j ≤ count p n ↔ j ≤ n ∧ ∀ k, n ≤ k + j → k < n → p k = true := by
  induction n generalizing j with
  | zero =>
    constructor
    . intro h
      exact ⟨h, fun k _ hk => absurd hk (Nat.not_lt_zero k)⟩
    . intro h
      exact h.1
  | succ n ih =>
    cases j with
    | zero =>
      constructor
      . intro _
        exact ⟨Nat.zero_le _, fun k hle hlt => absurd hlt (Nat.not_lt.mpr hle)⟩
      . intro _
        exact Nat.zero_le _
    | succ j =>
      unfold count
      split
      . next hp =>
        rw [Nat.succ_le_succ_iff, ih]
        constructor
        . rintro ⟨hj, hstreak⟩
          refine ⟨Nat.succ_le_succ hj, ?_⟩
          intro k hle hlt
          rcases Nat.lt_succ_iff_lt_or_eq.mp hlt with hlt | rfl
          . exact hstreak k (by omega) hlt
          . exact hp
        . rintro ⟨hj, hstreak⟩
          exact ⟨Nat.le_of_succ_le_succ hj, fun k hle hlt => hstreak k (by omega) (by omega)⟩
      . next hp =>
        constructor
        . intro h
          exact absurd h (Nat.not_succ_le_zero j)
        . rintro ⟨-, hstreak⟩
          exact absurd (hstreak n (by omega) (Nat.lt_succ_self n)) hp

theorem ends_iff (p : Nat → Bool) (j n : Nat) : Ends p j n ↔ j ≤ count p (n + 1) :=
  (le_count_iff p (n + 1) j).symm

theorem FirstAt.congr {P Q : Nat → Prop} (h : ∀ n, P n ↔ Q n) (n : Nat)
    : FirstAt P n ↔ FirstAt Q n := by
  unfold FirstAt
  simp only [h]

end Streak
