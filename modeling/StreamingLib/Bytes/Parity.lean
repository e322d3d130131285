import Mathlib.Data.List.GetD
import Mathlib.Tactic

/-!
# Parity of rows of different lengths

Rows are combined column by column under an operation with an identity, as if the shorter ones
were filled up with the identity. Under an operation that cancels, a missing row is the
combination of all rows with the remaining ones.
-/

namespace Parity

variable {α : Type} (op : α → α → α) (e : α)

/-- Combine two rows; where only one of them has an entry, that entry stands. -/
def pad : List α → List α → List α
  | [], bs => bs
  | a :: as, [] => a :: as
  | a :: as, b :: bs => op a b :: pad as bs

/-- The combination of the entries of column `j`. -/
def column (rows : List (List α)) (j : ℕ) : α := (rows.map fun r => r.getD j e).foldr op e

/-- The combination of all rows. -/
def sum (rows : List (List α)) : List α := rows.foldl (pad op) []

/-! ### Two rows -/

@[simp] lemma pad_nil_left (bs : List α) : pad op [] bs = bs := by
  cases bs <;> rfl

@[simp] lemma pad_nil_right (as : List α) : pad op as [] = as := by
  cases as <;> rfl

@[simp] lemma length_pad (as bs : List α) :
    (pad op as bs).length = max as.length bs.length := by
  induction as, bs using pad.induct with
  | case1 bs => simp
  | case2 a as => simp
  | case3 a as b bs ih => simp [pad, ih]

lemma pad_comm [Std.Commutative op] (as bs : List α) : pad op as bs = pad op bs as := by
  induction as, bs using pad.induct with
  | case1 bs => simp
  | case2 a as => simp
  | case3 a as b bs ih => rw [pad, pad, ih, @Std.Commutative.comm _ op _]

lemma pad_assoc [Std.Associative op] (as bs cs : List α) :
    pad op (pad op as bs) cs = pad op as (pad op bs cs) := by
  induction as, bs using pad.induct generalizing cs with
  | case1 bs => rw [pad_nil_left, pad_nil_left]
  | case2 a as => rw [pad_nil_right, pad_nil_left]
  | case3 a as b bs ih =>
    cases cs with
    | nil => rw [pad_nil_right, pad_nil_right]
    | cons c cs => rw [pad, pad, pad, pad, ih, @Std.Associative.assoc _ op _]

instance [Std.Commutative op] : Std.Commutative (pad op) := ⟨pad_comm op⟩

instance [Std.Associative op] : Std.Associative (pad op) := ⟨pad_assoc op⟩

lemma pad_append {as cs : List α} (h : as.length = cs.length) (bs ds : List α) :
    pad op (as ++ bs) (cs ++ ds) = List.zipWith op as cs ++ pad op bs ds := by
  induction as, cs using pad.induct with
  | case1 cs =>
    obtain rfl : cs = [] := List.length_eq_zero_iff.mp h.symm
    rfl
  | case2 a as => simp at h
  | case3 a as c cs ih => simp [pad, ih (by simpa using h)]

/-- The shorter row first. -/
lemma pad_of_ge {as bs : List α} (h : as.length ≤ bs.length) :
    pad op as bs = List.zipWith op as bs ++ bs.drop as.length := by
  induction as, bs using pad.induct with
  | case1 bs => simp
  | case2 a as => simp at h
  | case3 a as b bs ih => simp [pad, ih (by simpa using h)]

lemma getD_pad [Std.LawfulIdentity op e] (as bs : List α) (j : ℕ) :
    (pad op as bs).getD j e = op (as.getD j e) (bs.getD j e) := by
  induction as, bs using pad.induct generalizing j with
  | case1 bs => simp [@Std.LawfulLeftIdentity.left_id _ _ op e _]
  | case2 a as => simp [@Std.LawfulRightIdentity.right_id _ _ op e _]
  | case3 a as b bs ih =>
    cases j with
    | zero => simp [pad]
    | succ j => simpa [pad] using ih j

/-! ### Columns -/

@[simp] lemma column_nil (j : ℕ) : column op e [] j = e := rfl

@[simp] lemma column_cons (r : List α) (rows : List (List α)) (j : ℕ) :
    column op e (r :: rows) j = op (r.getD j e) (column op e rows j) := rfl

/-- A column depends only on its own entries. -/
lemma column_map_congr {β : Type} {rows : List β} {f g : β → List α} {i j : ℕ}
    (h : ∀ r ∈ rows, (f r).getD i e = (g r).getD j e) :
    column op e (rows.map f) i = column op e (rows.map g) j := by
  rw [column, column, List.map_map, List.map_map]
  congr 1
  exact List.map_congr_left h

/-- A column under a map that respects the operations. -/
lemma map_column {β : Type} {op' : β → β → β} {e' : β} (f : α → β) (hid : f e = e')
    (hop : ∀ a b, f (op a b) = op' (f a) (f b)) (rows : List (List α)) (j : ℕ) :
    f (column op e rows j) = (rows.map fun r => f (r.getD j e)).foldr op' e' := by
  induction rows with
  | nil => exact hid
  | cons r rows ih => rw [column_cons, hop, ih, List.map_cons, List.foldr_cons]

section Cancel

variable [Std.Associative op] [Std.LawfulIdentity op e]

lemma getD_foldl_pad (rows : List (List α)) (acc : List α) (j : ℕ) :
    (rows.foldl (pad op) acc).getD j e = op (acc.getD j e) (column op e rows j) := by
  induction rows generalizing acc with
  | nil => simp [@Std.LawfulRightIdentity.right_id _ _ op e _]
  | cons r rows ih =>
    rw [List.foldl_cons, ih, getD_pad, column_cons, @Std.Associative.assoc _ op _]

lemma getD_sum (rows : List (List α)) (j : ℕ) :
    (sum op rows).getD j e = column op e rows j := by
  rw [sum, getD_foldl_pad, List.getD_nil, @Std.LawfulLeftIdentity.left_id _ _ op e _]

lemma column_append (as bs : List (List α)) (j : ℕ) :
    column op e (as ++ bs) j = op (column op e as j) (column op e bs j) := by
  induction as with
  | nil => simp [@Std.LawfulLeftIdentity.left_id _ _ op e _]
  | cons a as ih => rw [List.cons_append, column_cons, column_cons, ih,
      @Std.Associative.assoc _ op _]

lemma column_middle [Std.Commutative op] (as bs : List (List α)) (r : List α) (j : ℕ) :
    column op e (as ++ r :: bs) j = op (r.getD j e) (column op e (as ++ bs) j) := by
  rw [column_append, column_append, column_cons, ← @Std.Associative.assoc _ op _,
    ← @Std.Associative.assoc _ op _, @Std.Commutative.comm _ op _ (column op e as j)]

/-- The missing row is the combination of all rows with the remaining ones. -/
theorem column_recover [Std.Commutative op] (hself : ∀ a, op a a = e) (as bs : List (List α))
    (r : List α) (j : ℕ) :
    op (column op e (as ++ r :: bs) j) (column op e (as ++ bs) j) = r.getD j e := by
  rw [column_middle, @Std.Associative.assoc _ op _, hself,
    @Std.LawfulRightIdentity.right_id _ _ op e _]

end Cancel

/-! ### Orders -/

/-- The order of the rows does not matter. -/
lemma sum_perm [Std.Commutative op] [Std.Associative op] {rows rows' : List (List α)}
    (h : rows.Perm rows') : sum op rows = sum op rows' :=
  h.foldl_op_eq

lemma sum_concat (rows : List (List α)) (r : List α) :
    sum op (rows ++ [r]) = pad op (sum op rows) r := by
  rw [sum, List.foldl_append]
  rfl

/-! ### Lengths -/

lemma sum_cons (r : List α) (rows : List (List α)) :
    sum op (r :: rows) = rows.foldl (pad op) r := by
  rw [sum, List.foldl_cons, pad_nil_left]

lemma length_foldl_pad (rows : List (List α)) (acc : List α) :
    (rows.foldl (pad op) acc).length = max acc.length (sum op rows).length := by
  induction rows generalizing acc with
  | nil => simp [sum]
  | cons r rows ih => rw [List.foldl_cons, ih, length_pad, sum_cons, ih, max_assoc]

lemma length_sum_cons (r : List α) (rows : List (List α)) :
    (sum op (r :: rows)).length = max r.length (sum op rows).length := by
  rw [sum_cons, length_foldl_pad]

/-- Rows that are all longer by `n` have a parity that is longer by `n`. -/
lemma length_sum_map {β : Type} {rows : List β} {f g : β → List α} {n : ℕ} (hne : rows ≠ [])
    (h : ∀ r ∈ rows, (f r).length = (g r).length + n) :
    (sum op (rows.map f)).length = (sum op (rows.map g)).length + n := by
  induction rows with
  | nil => exact absurd rfl hne
  | cons r rows ih =>
    rw [List.map_cons, List.map_cons, length_sum_cons, length_sum_cons, h r (by simp)]
    cases rows with
    | nil => simp [sum]
    | cons r' rows =>
      rw [ih (by simp) fun s hs => h s (List.mem_cons_of_mem r hs), ← Nat.add_max_add_right]

lemma length_sum_le {rows : List (List α)} {n : ℕ} (h : ∀ r ∈ rows, r.length ≤ n) :
    (sum op rows).length ≤ n := by
  induction rows with
  | nil => simp [sum]
  | cons r rows ih =>
    rw [length_sum_cons]
    exact max_le (h r (by simp)) (ih fun s hs => h s (List.mem_cons_of_mem r hs))

lemma length_le_sum {rows : List (List α)} {r : List α} (h : r ∈ rows) :
    r.length ≤ (sum op rows).length := by
  induction rows with
  | nil => cases h
  | cons s rows ih =>
    rw [length_sum_cons]
    rcases List.mem_cons.mp h with rfl | h
    · exact le_max_left _ _
    · exact le_trans (ih h) (le_max_right _ _)

end Parity
