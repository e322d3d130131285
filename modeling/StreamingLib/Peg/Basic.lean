import Mathlib.Data.List.Basic
import Mathlib.Tactic

/-!
# Parsing expressions with attributes passed by reference

A parser reads a list of tokens and updates an attribute. Its reply records whether it matched,
the input it leaves, the attribute it leaves (also on failure: what was stored before a mismatch
stays stored) and how many tokens it moved past at its furthest point, which a single-pass
input can not give back.

A `Parser` carries the proof that it only looks at what it moves to: if it never reaches the end
of its input, appending to that input changes nothing.
-/

namespace Peg

variable {τ α β : Type}

/-- What a parser reports about one run. -/
structure Reply (τ α : Type) where
  ok : Bool
  rest : List τ
  far : ℕ
  attr : α
deriving DecidableEq

/-- The same reply with `t` after the input. -/
def Reply.append (r : Reply τ α) (t : List τ) : Reply τ α := { r with rest := r.rest ++ t }

@[simp] lemma Reply.append_ok (r : Reply τ α) (t : List τ) : (r.append t).ok = r.ok := rfl
@[simp] lemma Reply.append_rest (r : Reply τ α) (t : List τ) :
    (r.append t).rest = r.rest ++ t := rfl
@[simp] lemma Reply.append_far (r : Reply τ α) (t : List τ) : (r.append t).far = r.far := rfl
@[simp] lemma Reply.append_attr (r : Reply τ α) (t : List τ) : (r.append t).attr = r.attr := rfl

/-- The reply is about the input `s`: it leaves a suffix of `s`, and its furthest point lies
between what it consumed and the end of `s`. -/
structure Reply.Within (r : Reply τ α) (s : List τ) : Prop where
  suffix : r.rest <:+ s
  consumed_le : s.length ≤ r.rest.length + r.far
  far_le : r.far ≤ s.length

lemma Reply.Within.rest_length_le {r : Reply τ α} {s : List τ} (h : r.Within s) :
    r.rest.length ≤ s.length := h.suffix.length_le

lemma Reply.Within.stay (s : List τ) (ok : Bool) (a : α) :
    (Reply.mk ok s 0 a).Within s := ⟨List.suffix_rfl, by simp, by simp⟩

/-- A parser, with the proof that what it has not moved to can not influence it. -/
structure Parser (τ α : Type) where
  run : List τ → α → Reply τ α
  within : ∀ s a, (run s a).Within s
  frame : ∀ s t a, (run s a).far < s.length → run (s ++ t) a = (run s a).append t

/-- The reply of a second parser run on what a first one left of `s`, seen from `s`. -/
def Reply.after (r' : Reply τ β) (s : List τ) (r : Reply τ α) : ℕ :=
  max r.far (s.length - r.rest.length + r'.far)

lemma Reply.Within.after_le {r : Reply τ α} {r' : Reply τ β} {s : List τ}
    (h : r.Within s) (h' : r'.Within r.rest) : r'.after s r ≤ s.length := by
  have := h.rest_length_le
  have := h.far_le
  have := h'.far_le
  simp only [Reply.after]
  omega

lemma Reply.Within.le_after {r : Reply τ α} {r' : Reply τ β} {s : List τ}
    (h : r.Within s) (h' : r'.Within r.rest) : s.length ≤ r'.rest.length + r'.after s r := by
  have := h.rest_length_le
  have := h'.consumed_le
  simp only [Reply.after]
  omega

/-! ### Single tokens and literals -/

/-- Match one token of the class `q` and append it to the attribute. -/
def sat (q : τ → Bool) : Parser τ (List τ) where
  run
    | [], a => ⟨false, [], 0, a⟩
    | c :: s, a => if q c then ⟨true, s, 1, a ++ [c]⟩ else ⟨false, c :: s, 0, a⟩
  within s a := by
    cases s with
    | nil => exact .stay [] false a
    | cons c s =>
      by_cases hc : q c
      · simp only [hc, if_true]
        exact ⟨List.suffix_cons c s, by simp, by simp⟩
      · simp only [hc]
        exact .stay (c :: s) false a
  frame s t a h := by
    cases s with
    | nil => simp at h
    | cons c s => by_cases hc : q c <;> simp [hc, Reply.append]

/-- Number of leading tokens of `s` that agree with `w`. -/
def matchLength [DecidableEq τ] : List τ → List τ → ℕ
  | c :: w, d :: s => if c = d then matchLength w s + 1 else 0
  | _, _ => 0

lemma matchLength_le_right [DecidableEq τ] (w s : List τ) : matchLength w s ≤ s.length := by
  induction w, s using matchLength.induct <;> simp_all [matchLength]

@[simp] lemma matchLength_append_right [DecidableEq τ] (w r : List τ) :
    matchLength w (w ++ r) = w.length := by
  induction w with
  | nil => cases r <;> rfl
  | cons c w ih => simp [matchLength, ih]

lemma matchLength_append [DecidableEq τ] (w s t : List τ) (h : matchLength w s < s.length) :
    matchLength w (s ++ t) = matchLength w s := by
  induction w, s using matchLength.induct with
  | case1 w d s ih => simp_all [matchLength]
  | case2 c w d s hcd => simp [matchLength, hcd]
  | case3 w s hns =>
    cases w with
    | nil => simp [matchLength]
    | cons c w =>
      cases s with
      | nil => simp at h
      | cons d s => exact absurd rfl (hns c w d s rfl)

/-- Match exactly the tokens `w`; the attribute is untouched. A partial match moves forward. -/
def lit [DecidableEq τ] (w : List τ) : Parser τ α where
  run s a :=
    if matchLength w s = w.length then ⟨true, s.drop w.length, w.length, a⟩
    else ⟨false, s, matchLength w s, a⟩
  within s a := by
    have hle := matchLength_le_right w s
    split_ifs with h
    · exact ⟨List.drop_suffix _ _, by simp; omega, by simp; omega⟩
    · exact ⟨List.suffix_rfl, by simp, hle⟩
  frame s t a h := by
    have hm : matchLength w s < s.length := by
      split_ifs at h with hw
      · simpa [hw] using h
      · exact h
    rw [matchLength_append w s t hm]
    split_ifs with hw
    · simp only [Reply.append, Reply.mk.injEq, true_and, and_true]
      exact List.drop_append_of_le_length (by omega)
    · rfl

/-! ### Sequences, alternatives and differences -/

/-- `p` and then `q`; on failure of either the input is restored, the attribute is not. -/
def seq (p q : Parser τ α) : Parser τ α where
  run s a :=
    let r := p.run s a
    if r.ok then
      let r' := q.run r.rest r.attr
      ⟨r'.ok, if r'.ok then r'.rest else s, r'.after s r, r'.attr⟩
    else ⟨false, s, r.far, r.attr⟩
  within s a := by
    have hp := p.within s a
    have hq := q.within (p.run s a).rest (p.run s a).attr
    dsimp only
    split_ifs
    · exact ⟨hq.suffix.trans hp.suffix, hp.le_after hq, hp.after_le hq⟩
    · exact ⟨List.suffix_rfl, by simp, hp.after_le hq⟩
    · exact ⟨List.suffix_rfl, by simp, hp.far_le⟩
  frame s t a h := by
    have hp := p.within s a
    have hc := hp.consumed_le
    have hl := hp.rest_length_le
    dsimp only at h ⊢
    have hfar : (p.run s a).far < s.length := by
      split_ifs at h
      · exact lt_of_le_of_lt (le_max_left _ _) h
      · exact lt_of_le_of_lt (le_max_left _ _) h
      · exact h
    rw [p.frame s t a hfar]
    by_cases hok : (p.run s a).ok
    · simp only [hok, if_true, Reply.after] at h ⊢
      rw [Reply.append_rest, Reply.append_attr, q.frame _ t _ (by omega)]
      have hlen : (s ++ t).length - ((p.run s a).rest ++ t).length
          = s.length - (p.run s a).rest.length := by
        simp only [List.length_append]; omega
      split_ifs <;> simp_all [Reply.append]
    · simp [hok, Reply.append]

instance : AndThen (Parser τ α) := ⟨fun p q => seq p (q ())⟩

lemma hAndThen_eq (p q : Parser τ α) : (p >> q) = seq p q := rfl

lemma seq_run (p q : Parser τ α) (s : List τ) (a : α) :
    (p >> q).run s a =
      if (p.run s a).ok then
        let r' := q.run (p.run s a).rest (p.run s a).attr
        ⟨r'.ok, if r'.ok then r'.rest else s, r'.after s (p.run s a), r'.attr⟩
      else ⟨false, s, (p.run s a).far, (p.run s a).attr⟩ := rfl

/-- `p` and then `q` on what `p` left, which a failure of `q` does not give back. -/
def pre (p q : Parser τ α) : Parser τ α where
  run s a :=
    let r := p.run s a
    let r' := q.run r.rest r.attr
    { r' with far := r'.after s r }
  within s a := by
    have hp := p.within s a
    have hq := q.within (p.run s a).rest (p.run s a).attr
    exact ⟨hq.suffix.trans hp.suffix, hp.le_after hq, hp.after_le hq⟩
  frame s t a h := by
    have hp := p.within s a
    have hc := hp.consumed_le
    have hl := hp.rest_length_le
    simp only [Reply.after] at h ⊢
    rw [p.frame s t a (by omega), Reply.append_rest, Reply.append_attr,
      q.frame _ t _ (by omega)]
    have hlen : (s ++ t).length - ((p.run s a).rest ++ t).length
        = s.length - (p.run s a).rest.length := by
      simp only [List.length_append]; omega
    simp only [Reply.append, hlen]

/-- `p`, or else `q` on the same input, with the attribute as `p` left it. -/
def alt (p q : Parser τ α) : Parser τ α where
  run s a :=
    let r := p.run s a
    if r.ok then r
    else
      let r' := q.run s r.attr
      { r' with far := max r.far r'.far }
  within s a := by
    have hp := p.within s a
    have hq := q.within s (p.run s a).attr
    dsimp only
    split_ifs
    · exact hp
    · exact ⟨hq.suffix, le_trans hq.consumed_le (by simp), max_le hp.far_le hq.far_le⟩
  frame s t a h := by
    dsimp only at h ⊢
    have hfar : (p.run s a).far < s.length := by
      split_ifs at h
      · exact h
      · exact lt_of_le_of_lt (le_max_left _ _) h
    rw [p.frame s t a hfar]
    by_cases hok : (p.run s a).ok
    · simp [hok]
    · simp only [hok] at h ⊢
      have hq : (q.run s (p.run s a).attr).far < s.length :=
        lt_of_le_of_lt (le_max_right _ _) h
      simp [hok, q.frame s t _ hq, Reply.append]

instance : OrElse (Parser τ α) := ⟨fun p q => alt p (q ())⟩

lemma orElse_eq (p q : Parser τ α) : (p <|> q) = alt p q := rfl

/-- `p - q`: `p` unless `q` matches here. A match of `q` is looked at, then given back. -/
def diff [Inhabited β] (p : Parser τ α) (q : Parser τ β) : Parser τ α where
  run s a :=
    let e := q.run s default
    if e.ok then ⟨false, s, e.far, a⟩
    else
      let r := p.run s a
      { r with far := max e.far r.far }
  within s a := by
    have hq := q.within s default
    have hp := p.within s a
    dsimp only
    split_ifs
    · exact ⟨List.suffix_rfl, by simp, hq.far_le⟩
    · exact ⟨hp.suffix, le_trans hp.consumed_le (by simp), max_le hq.far_le hp.far_le⟩
  frame s t a h := by
    dsimp only at h ⊢
    have hfar : (q.run s default).far < s.length := by
      split_ifs at h
      · exact h
      · exact lt_of_le_of_lt (le_max_left _ _) h
    rw [q.frame s t default hfar]
    by_cases hok : (q.run s default).ok
    · simp [hok, Reply.append]
    · simp only [hok] at h ⊢
      have hp : (p.run s a).far < s.length := lt_of_le_of_lt (le_max_right _ _) h
      simp [hok, p.frame s t a hp, Reply.append]

instance [Inhabited β] : HSub (Parser τ α) (Parser τ β) (Parser τ α) := ⟨diff⟩

lemma hSub_eq [Inhabited β] (p : Parser τ α) (q : Parser τ β) : (p - q) = diff p q := rfl

/-- `p` if it matches, else nothing. -/
def opt (p : Parser τ α) : Parser τ α where
  run s a := { p.run s a with ok := true }
  within s a := ⟨(p.within s a).suffix, (p.within s a).consumed_le, (p.within s a).far_le⟩
  frame s t a h := by rw [p.frame s t a h]; rfl

/-- `p` for its effect on the input only. -/
def omits [Inhabited β] (p : Parser τ β) : Parser τ α where
  run s a := { p.run s default with attr := a }
  within s a := ⟨(p.within s _).suffix, (p.within s _).consumed_le, (p.within s _).far_le⟩
  frame s t a h := by rw [p.frame s t default h]; rfl

/-- `p` on the part of the attribute that `get` reads and `set` writes. -/
def focus (get : α → β) (set : β → α → α) (p : Parser τ β) : Parser τ α where
  run s a := { p.run s (get a) with attr := set (p.run s (get a)).attr a }
  within s a := ⟨(p.within s _).suffix, (p.within s _).consumed_le, (p.within s _).far_le⟩
  frame s t a h := by rw [p.frame s t (get a) h]; rfl

/-- `p` on a fresh attribute, from which `f` makes the new one if `p` matches. -/
def build [Inhabited β] (f : β → α → α) (p : Parser τ β) : Parser τ α where
  run s a :=
    let r := p.run s default
    ⟨r.ok, r.rest, r.far, if r.ok then f r.attr a else a⟩
  within s a := ⟨(p.within s _).suffix, (p.within s _).consumed_le, (p.within s _).far_le⟩
  frame s t a h := by rw [p.frame s t default h]; rfl

/-- `p` on a fresh attribute, which joins the list if `p` matches and is dropped if not. -/
def pushBack [Inhabited β] (p : Parser τ β) : Parser τ (List β) where
  run s l :=
    let r := p.run s default
    ⟨r.ok, r.rest, r.far, if r.ok then l ++ [r.attr] else l⟩
  within s a := ⟨(p.within s _).suffix, (p.within s _).consumed_le, (p.within s _).far_le⟩
  frame s t a h := by rw [p.frame s t default h]; rfl

/-! ### Repetition -/

/-- `p` again and again, at most `n` times. A match that moves nowhere ends the loop. -/
def starRun (p : Parser τ α) : ℕ → List τ → α → Reply τ α
  | 0, s, a => ⟨true, s, 0, a⟩
  | n + 1, s, a =>
    let r := p.run s a
    if r.ok ∧ r.rest.length < s.length then
      let r' := starRun p n r.rest r.attr
      ⟨true, r'.rest, r'.after s r, r'.attr⟩
    else ⟨true, s, r.far, r.attr⟩

lemma starRun_within (p : Parser τ α) (n : ℕ) (s : List τ) (a : α) :
    (starRun p n s a).Within s := by
  induction n generalizing s a with
  | zero => exact .stay s true a
  | succ n ih =>
    have hp := p.within s a
    have hn := ih (p.run s a).rest (p.run s a).attr
    simp only [starRun]
    split_ifs
    · exact ⟨hn.suffix.trans hp.suffix, hp.le_after hn, hp.after_le hn⟩
    · exact ⟨List.suffix_rfl, by simp, hp.far_le⟩

/-- A bound above the length of the input is never reached. -/
lemma starRun_fuel (p : Parser τ α) (n m : ℕ) (s : List τ) (a : α)
    (hn : s.length < n) (hm : s.length < m) : starRun p n s a = starRun p m s a := by
  induction n generalizing m s a with
  | zero => omega
  | succ n ih =>
    obtain ⟨m, rfl⟩ : ∃ k, m = k + 1 := ⟨m - 1, by omega⟩
    simp only [starRun]
    split_ifs with h
    · rw [ih m _ _ (by omega) (by omega)]
    · rfl

lemma starRun_frame (p : Parser τ α) (n : ℕ) (s t : List τ) (a : α)
    (hn : (s ++ t).length < n) (h : (starRun p n s a).far < s.length) :
    starRun p n (s ++ t) a = (starRun p n s a).append t := by
  induction n generalizing s a with
  | zero => omega
  | succ n ih =>
    have hp := p.within s a
    have hc := hp.consumed_le
    have hl := hp.rest_length_le
    simp only [List.length_append] at hn
    simp only [starRun] at h ⊢
    have hfar : (p.run s a).far < s.length := by
      split_ifs at h
      · exact lt_of_le_of_lt (le_max_left _ _) h
      · exact h
    rw [p.frame s t a hfar]
    by_cases hok : (p.run s a).ok ∧ (p.run s a).rest.length < s.length
    · simp only [hok, and_self, if_true, Reply.after, Reply.append_ok, Reply.append_rest,
        Reply.append_attr, Reply.append_far, List.length_append, Nat.add_lt_add_iff_right] at h ⊢
      rw [ih _ _ (by simp only [List.length_append]; omega) (by omega)]
      simp [Reply.append, Nat.add_sub_add_right]
    · have hok' : ¬((p.run s a).ok = true ∧
          ((p.run s a).rest ++ t).length < (s ++ t).length) := by simpa using hok
      rw [if_neg hok, Reply.append_ok, Reply.append_rest, if_neg hok']
      simp [Reply.append]

/-- `p` as often as it matches. -/
def star (p : Parser τ α) : Parser τ α where
  run s a := starRun p (s.length + 1) s a
  within s a := starRun_within p _ s a
  frame s t a h := by
    rw [starRun_fuel p (s.length + 1) ((s ++ t).length + 1) s a (by omega) (by simp)] at h ⊢
    exact starRun_frame p _ s t a (by omega) h

/-- One turn of the loop. -/
lemma star_run (p : Parser τ α) (s : List τ) (a : α) :
    (star p).run s a =
      if (p.run s a).ok ∧ (p.run s a).rest.length < s.length then
        let r' := (star p).run (p.run s a).rest (p.run s a).attr
        ⟨true, r'.rest, r'.after s (p.run s a), r'.attr⟩
      else ⟨true, s, (p.run s a).far, (p.run s a).attr⟩ := by
  show starRun p (s.length + 1) s a = _
  simp only [starRun]
  split_ifs with h
  · rw [starRun_fuel p s.length ((p.run s a).rest.length + 1) _ _ (by omega) (by omega)]
    rfl
  · rfl

/-- `p` at least once. -/
def plus (p : Parser τ α) : Parser τ α := seq p (star p)

/-- `p` at least once, separated by `sep`. -/
def list (p sep : Parser τ α) : Parser τ α := p >> star (sep >> p)

/-- `p` with the text that `skip` matches skipped before it and, if it matched, after it. -/
def phrase [Inhabited β] (skip : Parser τ β) (p : Parser τ α) : Parser τ α :=
  pre (omits (star skip)) (seq p (omits (star skip)))

/-- `p || q`: `p`, `q`, or both in this order. -/
def seqOr (p q : Parser τ α) : Parser τ α := p >> opt q <|> q

/-- The recursive rule `r = p >> opt (q >> r)`, see `chain_run`. -/
def chain (p q : Parser τ α) : Parser τ α := p >> star (q >> p)

end Peg
