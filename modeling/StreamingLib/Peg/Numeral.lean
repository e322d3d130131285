import StreamingLib.Peg.Rules
import Mathlib.Data.Nat.Digits.Lemmas

/-!
# Numerals

Reading an unsigned number of bounded size and digit count, and writing one without leading
zeros. A written number is read back, whatever non-digit follows it.
-/

namespace Peg

variable {τ α : Type}

/-- Read at most `n` digits after the value `v`; a value above `limit` is a mismatch. -/
def numeralRun (digit : τ → Option ℕ) (radix limit : ℕ) : ℕ → List τ → ℕ → Reply τ ℕ
  | n + 1, c :: s, v =>
    match digit c with
    | none => ⟨true, c :: s, 0, v⟩
    | some d =>
      if v * radix + d ≤ limit then
        let r := numeralRun digit radix limit n s (v * radix + d)
        { r with far := r.far + 1 }
      else ⟨false, c :: s, 0, v⟩
  | 0, s, v => ⟨true, s, 0, v⟩
  | _ + 1, [], v => ⟨true, [], 0, v⟩

section Run

variable (digit : τ → Option ℕ) (radix limit : ℕ)

lemma numeralRun_within (n : ℕ) (s : List τ) (v : ℕ) :
    (numeralRun digit radix limit n s v).Within s := by
  induction n generalizing s v with
  | zero => cases s <;> exact .stay _ true v
  | succ n ih =>
    cases s with
    | nil => exact .stay [] true v
    | cons c s =>
      simp only [numeralRun]
      cases hd : digit c with
      | none => exact .stay (c :: s) true v
      | some d =>
        dsimp only
        split_ifs
        · obtain ⟨hs, hc, hf⟩ := ih s (v * radix + d)
          exact ⟨hs.trans (List.suffix_cons c s), by simp only [List.length_cons]; omega,
            by simp only [List.length_cons]; omega⟩
        · exact .stay (c :: s) false v

/-- A longer budget and a longer input change nothing, unless the end of either was reached. -/
lemma numeralRun_frame (n m : ℕ) (s t : List τ) (v : ℕ)
    (hs : (numeralRun digit radix limit n s v).far < s.length)
    (hn : n = m ∨ (n ≤ m ∧ (numeralRun digit radix limit n s v).far < n)) :
    numeralRun digit radix limit m (s ++ t) v = (numeralRun digit radix limit n s v).append t := by
  induction n generalizing m s v with
  | zero =>
    obtain rfl : m = 0 := by
      rcases hn with h | h
      · exact h.symm
      · exact absurd h.2 (by simp)
    cases s <;> cases t <;> rfl
  | succ n ih =>
    obtain ⟨m, rfl⟩ : ∃ k, m = k + 1 := ⟨m - 1, by omega⟩
    cases s with
    | nil => simp at hs
    | cons c s =>
      simp only [numeralRun, List.cons_append] at hs hn ⊢
      cases hd : digit c with
      | none => rfl
      | some d =>
        simp only [hd] at hs hn ⊢
        split_ifs at hs hn ⊢ with hv
        · simp only [List.length_cons, Nat.add_lt_add_iff_right] at hs hn
          rw [ih m s _ hs (by omega)]
          rfl
        · rfl

end Run

/-- An unsigned number of `minDigits` to `maxDigits` digits (any number of them if `none`). -/
def uint (digit : τ → Option ℕ) (radix limit minDigits : ℕ) (maxDigits : Option ℕ) :
    Parser τ ℕ where
  run s a :=
    let r := numeralRun digit radix limit (maxDigits.getD s.length) s 0
    if r.ok ∧ minDigits ≤ r.far then r else ⟨false, s, r.far, a⟩
  within s a := by
    have h := numeralRun_within digit radix limit (maxDigits.getD s.length) s 0
    dsimp only
    split_ifs
    · exact h
    · exact ⟨List.suffix_rfl, by simp, h.far_le⟩
  frame s t a h := by
    dsimp only at h ⊢
    have hfar : (numeralRun digit radix limit (maxDigits.getD s.length) s 0).far < s.length := by
      split_ifs at h <;> exact h
    rw [numeralRun_frame digit radix limit (maxDigits.getD s.length)
      (maxDigits.getD (s ++ t).length) s t 0 hfar]
    · by_cases hok : (numeralRun digit radix limit (maxDigits.getD s.length) s 0).ok = true ∧
          minDigits ≤ (numeralRun digit radix limit (maxDigits.getD s.length) s 0).far
      · rw [if_pos hok, Reply.append_ok, Reply.append_far, if_pos hok]
      · rw [if_neg hok, Reply.append_ok, Reply.append_far, if_neg hok]
        rfl
    · cases maxDigits with
      | none => exact Or.inr ⟨by simp, hfar⟩
      | some m => exact Or.inl rfl

/-- The digits of `n`, most significant first, and a single zero for zero. -/
def numeral (char : ℕ → τ) (radix n : ℕ) : List τ :=
  if n = 0 then [char 0] else (radix.digits n).reverse.map char

section RoundTrip

variable {digit : τ → Option ℕ} {radix limit : ℕ}

/-- Reading a list of digits adds them to the value, as long as the total is within the limit. -/
lemma numeralRun_digits (hradix : 0 < radix) (ds : List ℕ) (char : ℕ → τ)
    (hchar : ∀ d ∈ ds, digit (char d) = some d) (r : List τ)
    (v n : ℕ) (hr : r.head?.all (fun c => (digit c).isNone) = true ∨ n = ds.length)
    (hn : ds.length ≤ n) (hlim : ds.foldl (fun v d => v * radix + d) v ≤ limit) :
    numeralRun digit radix limit n (ds.map char ++ r) v =
      ⟨true, r, ds.length, ds.foldl (fun v d => v * radix + d) v⟩ := by
  induction ds generalizing v n with
  | nil =>
    cases n with
    | zero => cases r <;> rfl
    | succ n =>
      cases r with
      | nil => rfl
      | cons c r =>
        have hc : digit c = none := by simpa using hr
        simp [numeralRun, hc]
  | cons d ds ih =>
    obtain ⟨n, rfl⟩ : ∃ k, n = k + 1 := ⟨n - 1, by simp at hn; omega⟩
    have hd : digit (char d) = some d := hchar d (by simp)
    have hle : v * radix + d ≤ limit := by
      refine le_trans ?_ hlim
      simp only [List.foldl_cons]
      clear hlim ih hn hr hchar hd
      generalize v * radix + d = u
      induction ds generalizing u with
      | nil => exact le_rfl
      | cons e ds ih =>
        have := ih (u * radix + e)
        have := Nat.le_mul_of_pos_right u hradix
        simp only [List.foldl_cons]
        omega
    simp only [List.map_cons, List.cons_append, numeralRun, hd, hle, if_true]
    rw [ih (fun e he => hchar e (by simp [he])) _ n (by simpa using hr) (by simpa using hn)
      (by simpa using hlim)]
    simp

lemma numeral_ne_nil (char : ℕ → τ) (radix n : ℕ) : numeral char radix n ≠ [] := by
  unfold numeral
  split_ifs with h
  · simp
  · simpa using Nat.digits_ne_nil_iff_ne_zero.mpr h

/-- Every token of a numeral is the character of a digit. -/
lemma mem_numeral {char : ℕ → τ} {n : ℕ} {c : τ} (hradix : 1 < radix)
    (h : c ∈ numeral char radix n) : ∃ d < radix, c = char d := by
  unfold numeral at h
  split_ifs at h
  · exact ⟨0, by omega, by simpa using h⟩
  · simp only [List.mem_map, List.mem_reverse] at h
    obtain ⟨d, hd, rfl⟩ := h
    exact ⟨d, Nat.digits_lt_base hradix hd, rfl⟩

/-- How many digits a number needs. -/
lemma length_numeral_le_iff (char : ℕ → τ) (hradix : 1 < radix) {k : ℕ} (hk : 0 < k) (n : ℕ) :
    (numeral char radix n).length ≤ k ↔ n < radix ^ k := by
  unfold numeral
  split_ifs with h
  · rw [h]
    exact iff_of_true hk (pow_pos (by omega) k)
  · rw [List.length_map, List.length_reverse]
    exact Nat.digits_length_le_iff hradix n

/-- A numeral is made of digits, and they add up to its number. -/
lemma numeral_digits (hradix : 1 < radix) (char : ℕ → τ) (n : ℕ) :
    ∃ ds : List ℕ, numeral char radix n = ds.map char ∧ (∀ d ∈ ds, d < radix) ∧
      ds.foldl (fun v d => v * radix + d) 0 = n := by
  by_cases h : n = 0
  · subst h
    exact ⟨[0], by simp [numeral], by simp; omega, by simp⟩
  · refine ⟨(radix.digits n).reverse, by simp [numeral, h], ?_, ?_⟩
    · intro d hd
      exact Nat.digits_lt_base hradix (by simpa using hd)
    · rw [List.foldl_reverse]
      conv_rhs => rw [← Nat.ofDigits_digits radix n, Nat.ofDigits_eq_foldr]
      simp [add_comm, mul_comm]

/-- Reading a written number, with room for its digits. -/
lemma numeralRun_numeral (hradix : 1 < radix) {char : ℕ → τ}
    (hchar : ∀ d < radix, digit (char d) = some d) {n : ℕ} (hn : n ≤ limit) {room : ℕ}
    (hroom : (numeral char radix n).length ≤ room) {r : List τ}
    (hr : r.head?.all (fun c => (digit c).isNone) = true) :
    numeralRun digit radix limit room (numeral char radix n ++ r) 0 =
      ⟨true, r, (numeral char radix n).length, n⟩ := by
  obtain ⟨ds, hds, hmem, hval⟩ := numeral_digits hradix char n
  simp only [hds, List.length_map] at hroom ⊢
  have hrun : numeralRun digit radix limit room (ds.map char ++ r) 0 = _ :=
    numeralRun_digits (by omega : 0 < radix) ds char (fun d hd => hchar d (hmem d hd)) r 0 _
      (Or.inl hr) hroom (by omega)
  rw [hrun, hval]

/-- Digits that add up to more than the limit are not read. -/
lemma numeralRun_overflow (ds : List ℕ) (char : ℕ → τ)
    (hchar : ∀ d ∈ ds, digit (char d) = some d) (r : List τ) {v room : ℕ} (hv : v ≤ limit)
    (hroom : ds.length ≤ room) (hlim : limit < ds.foldl (fun v d => v * radix + d) v) :
    (numeralRun digit radix limit room (ds.map char ++ r) v).ok = false := by
  induction ds generalizing v room with
  | nil => exact absurd hv (not_le.mpr hlim)
  | cons d ds ih =>
    cases room with
    | zero => cases hroom
    | succ room =>
      simp only [List.map_cons, List.cons_append, numeralRun, hchar d List.mem_cons_self]
      split_ifs with hle
      · exact ih (fun e he => hchar e (List.mem_cons_of_mem d he)) hle
          (Nat.le_of_succ_le_succ hroom) hlim
      · rfl

/-- A written number is read back. -/
lemma uint_numeral (hradix : 1 < radix) {char : ℕ → τ}
    (hchar : ∀ d < radix, digit (char d) = some d) {n : ℕ} (hn : n ≤ limit) {minDigits : ℕ}
    {maxDigits : Option ℕ} (hmin : minDigits ≤ (numeral char radix n).length)
    (hmax : ∀ m, maxDigits = some m → (numeral char radix n).length ≤ m)
    {r : List τ} (hr : r.head?.all (fun c => (digit c).isNone) = true) (a : ℕ) :
    (uint digit radix limit minDigits maxDigits).Matches (numeral char radix n ++ r) a r n := by
  have hroom : (numeral char radix n).length ≤
      maxDigits.getD (numeral char radix n ++ r).length := by
    cases maxDigits with
    | none => simp
    | some m => exact hmax m rfl
  have hrun := numeralRun_numeral hradix hchar hn hroom hr
  refine ⟨(numeral char radix n).length, ?_⟩
  simp only [uint, hrun, hmin, and_self, if_true]

/-- A number with too few digits is not read. -/
lemma uint_numeral_fails (hradix : 1 < radix) {char : ℕ → τ}
    (hchar : ∀ d < radix, digit (char d) = some d) {n : ℕ} (hn : n ≤ limit) {minDigits m : ℕ}
    (hmin : (numeral char radix n).length < minDigits) (hm : minDigits ≤ m)
    {r : List τ} (hr : r.head?.all (fun c => (digit c).isNone) = true) (a : ℕ) :
    (uint digit radix limit minDigits (some m)).Fails (numeral char radix n ++ r) a a := by
  have hrun := numeralRun_numeral hradix hchar hn (hmin.le.trans hm) hr
  have hshort : ¬minDigits ≤ (numeral char radix n).length := not_le.mpr hmin
  simp only [Parser.Fails, uint, Option.getD_some, hrun, hshort, and_false, if_false, and_self]

/-- A number above the limit is not read. -/
lemma uint_numeral_overflow (hradix : 1 < radix) {char : ℕ → τ}
    (hchar : ∀ d < radix, digit (char d) = some d) {n : ℕ} (hn : limit < n) (minDigits : ℕ)
    (r : List τ) (a : ℕ) :
    (uint digit radix limit minDigits none).Fails (numeral char radix n ++ r) a a := by
  obtain ⟨ds, hds, hmem, hval⟩ := numeral_digits hradix char n
  have hrun : (numeralRun digit radix limit (numeral char radix n ++ r).length
      (numeral char radix n ++ r) 0).ok = false := by
    rw [hds]
    exact numeralRun_overflow ds char (fun d hd => hchar d (hmem d hd)) r (Nat.zero_le limit)
      (by simp) (hval ▸ hn)
  rw [List.length_append] at hrun
  simp [Parser.Fails, uint, hrun]

end RoundTrip

end Peg
