import Mathlib.Data.List.Basic
import Mathlib.Data.Nat.ModEq
import Mathlib.Tactic

/-!
# Groups of a fixed size

A list is read in groups of `k` entries. What has been read of the next group is pending.
-/

namespace Groups

variable {α : Type} {k : ℕ}

/-- The group with number `j`, from zero on. -/
def group (k j : ℕ) (l : List α) : List α := (l.drop (j * k)).take k

/-- What comes after the last whole group. -/
def pending (k : ℕ) (l : List α) : List α := l.drop (k * (l.length / k))

/-- The last `k` entries. -/
def newest (k : ℕ) (l : List α) : List α := l.drop (l.length - k)

/-! ### Pending entries -/

@[simp] lemma pending_nil (k : ℕ) : pending k ([] : List α) = [] := List.drop_nil

lemma length_pending (k : ℕ) (l : List α) : (pending k l).length = l.length % k := by
  rw [pending, List.length_drop]
  exact Nat.sub_eq_of_eq_add (Nat.mod_add_div l.length k).symm

lemma mem_of_mem_pending {l : List α} {a : α} (h : a ∈ pending k l) : a ∈ l :=
  List.mem_of_mem_drop h

lemma not_dvd_succ {n : ℕ} (h : n % k + 1 < k) : ¬k ∣ n + 1 := by
  rw [Nat.dvd_iff_mod_eq_zero, Nat.add_mod, Nat.mod_eq_of_lt (show 1 < k by omega),
    Nat.mod_eq_of_lt h]
  exact Nat.succ_ne_zero _

lemma dvd_succ {n : ℕ} (h : n % k + 1 = k) : k ∣ n + 1 := by
  have hn : k * (n / k) + n % k = n := Nat.div_add_mod n k
  refine ⟨n / k + 1, ?_⟩
  rw [Nat.mul_add, Nat.mul_one]
  omega

/-- An entry that does not complete its group. -/
lemma pending_concat_of_lt {l : List α} (a : α) (h : l.length % k + 1 < k) :
    pending k (l ++ [a]) = pending k l ++ [a] := by
  have hdiv : (l.length + 1) / k = l.length / k := by
    rw [Nat.succ_div, if_neg (not_dvd_succ h), Nat.add_zero]
  rw [pending, List.length_append, List.length_singleton, hdiv,
    List.drop_append_of_le_length (Nat.mul_div_le _ _)]
  rfl

/-- An entry that completes its group. -/
lemma pending_concat_of_eq {l : List α} (a : α) (h : l.length % k + 1 = k) :
    pending k (l ++ [a]) = [] := by
  rw [pending, Nat.mul_div_cancel', List.drop_length]
  rw [List.length_append, List.length_singleton]
  exact dvd_succ h

/-- The newest group is then complete. -/
lemma newest_concat_of_eq {l : List α} (a : α) (h : l.length % k + 1 = k) :
    newest k (l ++ [a]) = pending k l ++ [a] := by
  have hn : k * (l.length / k) + l.length % k = l.length := Nat.div_add_mod l.length k
  have hsub : l.length + 1 - k = k * (l.length / k) := by omega
  rw [newest, List.length_append, List.length_singleton, hsub,
    List.drop_append_of_le_length (Nat.mul_div_le _ _)]
  rfl

/-! ### Whole groups -/

lemma newest_of_length {l : List α} (h : l.length = k) : newest k l = l := by
  rw [newest, h, Nat.sub_self, List.drop_zero]

/-- The newest group after so many groups. -/
lemma newest_take {j : ℕ} {l : List α} (h : (j + 1) * k ≤ l.length) :
    newest k (l.take ((j + 1) * k)) = group k j l := by
  have hsub : (j + 1) * k - k = j * k := by rw [Nat.add_mul, Nat.one_mul, Nat.add_sub_cancel]
  rw [newest, List.length_take, min_eq_left h, hsub, group, List.drop_take]
  congr 1
  rw [Nat.add_mul, Nat.one_mul, Nat.add_sub_cancel_left]

lemma length_group {j : ℕ} {l : List α} (h : (j + 1) * k ≤ l.length) :
    (group k j l).length = k := by
  rw [Nat.add_mul, Nat.one_mul] at h
  rw [group, List.length_take, List.length_drop]
  omega

lemma mem_of_mem_group {j : ℕ} {l : List α} {a : α} (h : a ∈ group k j l) : a ∈ l :=
  List.mem_of_mem_drop (List.mem_of_mem_take h)

end Groups
