import Mathlib.Data.List.Basic
import Mathlib.Tactic

/-!
# Serial numbers

A counter without bound is seen through its remainder modulo `n`. From each remainder the counter
moves on by the shortest way ahead, as long as this is less than a window `w`.
-/

namespace Serial

variable {n : ℕ}

/-- How far the number `x` is ahead of `m` modulo `n`. -/
def ahead (n m x : ℕ) : ℕ := (((x : ℤ) - m) % n).toNat

/-- The counter after the number `x`. -/
def advance (n w m x : ℕ) : ℕ := if ahead n m x < w then m + ahead n m x else m

/-! ### Distances -/

lemma cast_ahead (hn : 0 < n) (m x : ℕ) : (ahead n m x : ℤ) = ((x : ℤ) - m) % n :=
  Int.toNat_of_nonneg (Int.emod_nonneg _ (by exact_mod_cast hn.ne'))

lemma add_ahead_mod (hn : 0 < n) (m x : ℕ) : (m + ahead n m x) % n = x % n := by
  zify
  rw [cast_ahead hn, Int.add_emod_emod, add_sub_cancel]

/-- Only the remainder of the counter matters. -/
lemma ahead_mod (hn : 0 < n) (m x : ℕ) : ahead n (m % n) x = ahead n m x := by
  zify
  rw [cast_ahead hn, cast_ahead hn, Int.natCast_emod, Int.sub_emod_emod]

lemma ahead_of_le {m x : ℕ} (h : m ≤ x) (hx : x < n) : ahead n m x = x - m := by
  have hn : 0 < n := Nat.zero_lt_of_lt hx
  zify [h]
  rw [cast_ahead hn]
  exact Int.emod_eq_of_lt (by omega) (by omega)

lemma ahead_of_lt {m x : ℕ} (h : x < m) (hm : m < n) : ahead n m x = n + x - m := by
  have hn : 0 < n := Nat.zero_lt_of_lt hm
  have hsub : ((n + x - m : ℕ) : ℤ) = (x : ℤ) - m + n := by omega
  zify
  rw [cast_ahead hn, hsub, ← Int.add_emod_right]
  exact Int.emod_eq_of_lt (by omega) (by omega)

lemma ahead_eq_zero {m x : ℕ} (hx : x < n) (h : m % n = x) : ahead n m x = 0 := by
  rw [← ahead_mod (Nat.zero_lt_of_lt hx), h, ahead_of_le le_rfl hx, Nat.sub_self]

/-- On the way ahead to a smaller remainder the counter enters the next cycle. -/
lemma add_ahead_div {m x : ℕ} (hx : x < n) :
    (m + ahead n m x) / n = m / n + if x < m % n then 1 else 0 := by
  have hn : 0 < n := Nat.zero_lt_of_lt hx
  have hmod : m % n < n := Nat.mod_lt m hn
  have hm : n * (m / n) + m % n = m := Nat.div_add_mod m n
  rw [← ahead_mod hn]
  split_ifs with h
  · rw [ahead_of_lt h hmod]
    have hsum : m + (n + x - m % n) = n * (m / n + 1) + x := by
      rw [Nat.mul_add, Nat.mul_one]
      omega
    rw [hsum, Nat.mul_add_div hn, Nat.div_eq_of_lt hx, Nat.add_zero]
  · rw [ahead_of_le (not_lt.mp h) hx]
    have hsum : m + (x - m % n) = n * (m / n) + x := by omega
    rw [hsum, Nat.mul_add_div hn, Nat.div_eq_of_lt hx]

/-! ### The counter -/

lemma le_advance (w m x : ℕ) : m ≤ advance n w m x := by
  unfold advance
  split_ifs
  · exact Nat.le_add_right m _
  · exact le_rfl

lemma advance_of_lt {w m x : ℕ} (h : ahead n m x < w) : advance n w m x = m + ahead n m x :=
  if_pos h

lemma advance_of_le {w m x : ℕ} (h : w ≤ ahead n m x) : advance n w m x = m :=
  if_neg (not_lt.mpr h)

end Serial
