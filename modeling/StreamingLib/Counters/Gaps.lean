import Mathlib.Data.Finset.Card
import Mathlib.Order.Interval.Finset.Nat
import Mathlib.Tactic

/-!
# Gaps of increasing numbers

The numbers that are missing between the neighbours of an increasing list are those of the whole
interval that are not in the list.
-/

namespace Gaps

/-- How many numbers are missing between neighbours. -/
def missing : List ℕ → ℕ
  | a :: b :: l => (b - a - 1) + missing (b :: l)
  | _ => 0

@[simp] lemma missing_nil : missing [] = 0 := rfl

@[simp] lemma missing_singleton (a : ℕ) : missing [a] = 0 := rfl

@[simp] lemma missing_cons_cons (a b : ℕ) (l : List ℕ) :
    missing (a :: b :: l) = (b - a - 1) + missing (b :: l) := rfl

/-- The gap before the last number. -/
lemma missing_concat (l : List ℕ) (a b : ℕ) :
    missing (l ++ [a, b]) = missing (l ++ [a]) + (b - a - 1) := by
  induction l with
  | nil => simp
  | cons c l ih =>
    cases l with
    | nil => simp
    | cons d l =>
      simp only [List.cons_append, missing_cons_cons] at ih ⊢
      rw [ih, Nat.add_assoc]

lemma missing_le_append (l l' : List ℕ) : missing l ≤ missing (l ++ l') := by
  induction l with
  | nil => exact Nat.zero_le _
  | cons a l ih =>
    cases l with
    | nil => exact Nat.zero_le _
    | cons b l => exact Nat.add_le_add_left ih _

lemma missing_take_le (l : List ℕ) {m n : ℕ} (h : m ≤ n) :
    missing (l.take m) ≤ missing (l.take n) := by
  have htake : l.take m = (l.take n).take m := by rw [List.take_take, min_eq_left h]
  calc missing (l.take m) = missing ((l.take n).take m) := by rw [htake]
    _ ≤ missing ((l.take n).take m ++ (l.take n).drop m) := missing_le_append _ _
    _ = missing (l.take n) := by rw [List.take_append_drop]

/-- The numbers of the list and the missing ones fill the interval. -/
lemma missing_add_length {a z : ℕ} {l : List ℕ} (h : (a :: l).Pairwise (· < ·))
    (hz : (a :: l).getLast? = some z) :
    a ≤ z ∧ missing (a :: l) + (a :: l).length = z - a + 1 := by
  induction l generalizing a with
  | nil =>
    cases hz
    simp
  | cons b l ih =>
    obtain ⟨hlt, hrest⟩ := List.pairwise_cons.mp h
    have hab : a < b := hlt b List.mem_cons_self
    obtain ⟨hbz, hsum⟩ := ih hrest (by rwa [List.getLast?_cons_cons] at hz)
    refine ⟨hab.le.trans hbz, ?_⟩
    rw [missing_cons_cons, List.length_cons]
    omega

lemma mem_interval {a z x : ℕ} {l : List ℕ} (h : (a :: l).Pairwise (· < ·))
    (hz : (a :: l).getLast? = some z) (hx : x ∈ a :: l) : a ≤ x ∧ x ≤ z := by
  constructor
  · rcases List.mem_cons.mp hx with rfl | hx
    · exact le_rfl
    · exact ((List.pairwise_cons.mp h).1 x hx).le
  · obtain ⟨init, hinit⟩ := List.getLast?_eq_some_iff.mp hz
    rw [hinit] at h hx
    rcases List.mem_append.mp hx with hx | hx
    · exact ((List.pairwise_append.mp h).2.2 x hx z List.mem_cons_self).le
    · exact (List.mem_singleton.mp hx).le

/-- The missing numbers are those of the interval that are not in the list. -/
theorem card_missing {a z : ℕ} {l : List ℕ} (h : (a :: l).Pairwise (· < ·))
    (hz : (a :: l).getLast? = some z) :
    ((Finset.Icc a z).filter (· ∉ a :: l)).card = missing (a :: l) := by
  have hsubset : (a :: l).toFinset ⊆ Finset.Icc a z := by
    intro x hx
    exact Finset.mem_Icc.mpr (mem_interval h hz (List.mem_toFinset.mp hx))
  have hsdiff : (Finset.Icc a z).filter (· ∉ a :: l) = Finset.Icc a z \ (a :: l).toFinset := by
    ext x
    rw [Finset.mem_filter, Finset.mem_sdiff, List.mem_toFinset]
  have hcard : (a :: l).toFinset.card = (a :: l).length :=
    List.toFinset_card_of_nodup (h.imp Nat.ne_of_lt)
  obtain ⟨hle, hsum⟩ := missing_add_length h hz
  rw [hsdiff, Finset.card_sdiff_of_subset hsubset, hcard, Nat.card_Icc]
  omega

end Gaps
