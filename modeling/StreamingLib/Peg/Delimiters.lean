import StreamingLib.Peg.Numeral

/-!
# Delimiters

A parser is steady at a delimiter if it stops before it and does not let what follows it decide
anything. In a list of such parts, a gap after a separator that no part begins with ends the list
at that separator.
-/

namespace Peg

variable {τ α β : Type} {c : τ}

/-- On `u ++ c :: s` the parser stops before `c`, or it fails, in the same way for every `s`. -/
def Parser.SteadyAt (p : Parser τ α) (c : τ) (u : List τ) (a : α) : Prop :=
  (∃ v b, ∀ s, p.Matches (u ++ c :: s) a (v ++ c :: s) b) ∨ ∃ b, ∀ s, p.Fails (u ++ c :: s) a b

def Parser.Steady (p : Parser τ α) (c : τ) : Prop := ∀ u a, p.SteadyAt c u a

/-! ### Literals and numerals -/

lemma lit_steady [DecidableEq τ] {w : List τ} (hc : c ∉ w) : (lit w : Parser τ α).Steady c := by
  intro u a
  by_cases hu : ∃ v, u = w ++ v
  · obtain ⟨v, rfl⟩ := hu
    refine Or.inl ⟨v, a, fun s => ?_⟩
    rw [List.append_assoc]
    exact lit_matches w _ a
  · refine Or.inr ⟨a, fun s => lit_fails ?_ a⟩
    intro r hr
    obtain ⟨v, rfl, hv⟩ | ⟨v, rfl, -⟩ := List.append_eq_append_iff.mp hr
    · -- The literal would have to reach the delimiter.
      cases v with
      | nil => exact hu ⟨[], by simp⟩
      | cons d v =>
        obtain ⟨rfl, -⟩ := List.cons.inj hv
        exact hc (by simp)
    · exact hu ⟨v, rfl⟩

/-- Reading digits stops at the delimiter. -/
lemma numeralRun_steady {digit : τ → Option ℕ} (hc : digit c = none) (radix limit n : ℕ)
    (u : List τ) (k : ℕ) :
    ∃ ok v m b, ∀ s, numeralRun digit radix limit n (u ++ c :: s) k = ⟨ok, v ++ c :: s, m, b⟩ := by
  induction n generalizing u k with
  | zero => exact ⟨true, u, 0, k, fun s => by cases u <;> rfl⟩
  | succ n ih =>
    cases u with
    | nil => exact ⟨true, [], 0, k, fun s => by simp [numeralRun, hc]⟩
    | cons d u =>
      cases hd : digit d with
      | none => exact ⟨true, d :: u, 0, k, fun s => by simp [numeralRun, hd]⟩
      | some i =>
        by_cases hlim : k * radix + i ≤ limit
        · obtain ⟨ok, v, m, b, hrun⟩ := ih u (k * radix + i)
          exact ⟨ok, v, m + 1, b, fun s => by simp [numeralRun, hd, hlim, hrun]⟩
        · exact ⟨false, d :: u, 0, k, fun s => by simp [numeralRun, hd, hlim]⟩

lemma uint_steady {digit : τ → Option ℕ} (hc : digit c = none)
    (radix limit minDigits maxDigits : ℕ) :
    (uint digit radix limit minDigits (some maxDigits)).Steady c := by
  intro u a
  obtain ⟨ok, v, m, b, hrun⟩ := numeralRun_steady hc radix limit maxDigits u 0
  by_cases hok : ok = true ∧ minDigits ≤ m
  · refine Or.inl ⟨v, b, fun s => ⟨m, ?_⟩⟩
    simp only [uint, Option.getD_some, hrun, hok, and_self, if_true]
  · refine Or.inr ⟨a, fun s => ?_⟩
    simp only [Parser.Fails, uint, Option.getD_some, hrun, hok, if_false, and_self]

/-! ### Combinators -/

section Combinators

variable {p q : Parser τ α} {u : List τ} {a : α}

lemma Parser.SteadyAt.seq (hp : p.SteadyAt c u a)
    (hq : ∀ v b, (∀ s, p.Matches (u ++ c :: s) a (v ++ c :: s) b) → q.SteadyAt c v b) :
    (p >> q).SteadyAt c u a := by
  obtain ⟨v, b, hv⟩ | ⟨b, hf⟩ := hp
  · obtain ⟨w, d, hw⟩ | ⟨d, hf⟩ := hq v b hv
    · exact Or.inl ⟨w, d, fun s => (hv s).seq (hw s)⟩
    · exact Or.inr ⟨d, fun s => (hv s).seq_fails (hf s)⟩
  · exact Or.inr ⟨b, fun s => (hf s).seq⟩

lemma Parser.Steady.seq (hp : p.Steady c) (hq : q.Steady c) : (p >> q).Steady c :=
  fun u a => (hp u a).seq fun v b _ => hq v b

lemma Parser.SteadyAt.alt (hp : p.SteadyAt c u a) (hq : ∀ b, q.SteadyAt c u b) :
    (p <|> q).SteadyAt c u a := by
  obtain ⟨v, b, hv⟩ | ⟨b, hf⟩ := hp
  · exact Or.inl ⟨v, b, fun s => (hv s).alt⟩
  · obtain ⟨v, d, hv⟩ | ⟨d, hf'⟩ := hq b
    · exact Or.inl ⟨v, d, fun s => (hf s).alt (hv s)⟩
    · exact Or.inr ⟨d, fun s => (hf s).alt_fails (hf' s)⟩

lemma Parser.Steady.alt (hp : p.Steady c) (hq : q.Steady c) : (p <|> q).Steady c :=
  fun u a => (hp u a).alt (hq u)

lemma Parser.SteadyAt.focus {get : β → α} {set : α → β → β} {b : β}
    (hp : p.SteadyAt c u (get b)) : (Peg.focus get set p).SteadyAt c u b := by
  obtain ⟨v, d, hv⟩ | ⟨d, hf⟩ := hp
  · exact Or.inl ⟨v, set d b, fun s => (hv s).focus⟩
  · exact Or.inr ⟨set d b, fun s => (hf s).focus⟩

lemma Parser.Steady.focus {get : β → α} {set : α → β → β} (hp : p.Steady c) :
    (Peg.focus get set p).Steady c := fun u b => (hp u (get b)).focus

lemma Parser.SteadyAt.build [Inhabited α] {f : α → β → β} (hp : p.SteadyAt c u default) (b : β) :
    (Peg.build f p).SteadyAt c u b := by
  obtain ⟨v, d, hv⟩ | ⟨d, hf⟩ := hp
  · exact Or.inl ⟨v, f d b, fun s => (hv s).build b⟩
  · exact Or.inr ⟨b, fun s => (hf s).build b⟩

lemma Parser.Steady.build [Inhabited α] {f : α → β → β} (hp : p.Steady c) :
    (Peg.build f p).Steady c := fun u b => (hp u default).build b

/-- An optional sequence. -/
lemma Parser.Steady.opt_seq [Inhabited α] {f : α → β → β} (hpq : (p >> q).Steady c) :
    (Peg.opt (Peg.build f (p >> q))).Steady c := by
  intro u b
  obtain ⟨v, d, hv⟩ | ⟨d, hf⟩ := hpq u default
  · exact Or.inl ⟨v, f d b, fun s => ((hv s).build b).opt⟩
  · refine Or.inl ⟨u, b, fun s => ?_⟩
    have hrest : ((p >> q).run (u ++ c :: s) default).rest = u ++ c :: s := by
      have hok := (hf s).1
      rw [seq_run] at hok ⊢
      split_ifs at hok ⊢ <;> simp_all
    exact ⟨_, by simp only [opt, Peg.build, (hf s).1, hrest]; rfl⟩

/-- One turn of a loop, after which it goes on as it does from there. -/
lemma Parser.SteadyAt.star_turn {v : List τ} {b : α}
    (hp : ∀ s, p.Matches (u ++ c :: s) a (v ++ c :: s) b) (hlt : v.length < u.length)
    (h : (Peg.star p).SteadyAt c v b) : (Peg.star p).SteadyAt c u a := by
  have hlt : ∀ s : List τ, (v ++ c :: s).length < (u ++ c :: s).length := by
    intro s
    simpa using hlt
  obtain ⟨w, d, hw⟩ | ⟨d, hf⟩ := h
  · exact Or.inl ⟨w, d, fun s => (hp s).star (hlt s) (hw s)⟩
  · exact absurd (hf []).1 (by simp [star_ok])

lemma Parser.Steady.star (hp : p.Steady c) : (Peg.star p).Steady c := by
  intro u a
  induction h : u.length using Nat.strong_induction_on generalizing u a with
  | _ n ih =>
    obtain ⟨v, b, hv⟩ | ⟨b, hf⟩ := hp u a
    · by_cases hlt : v.length < u.length
      · exact Parser.SteadyAt.star_turn hv hlt (ih v.length (by omega) v b rfl)
      · refine Or.inl ⟨u, b, fun s => ?_⟩
        obtain ⟨-, hrest, hattr⟩ := (hv s).run_ok
        rw [Parser.Matches, star_run, if_neg (by simp [hrest]; omega), hattr]
        exact ⟨_, rfl⟩
    · exact Or.inl ⟨u, b, fun s => (hf s).star⟩

lemma Parser.Steady.plus (hp : p.Steady c) : (Peg.plus p).Steady c := hp.seq hp.star

end Combinators

/-! ### Parts that end at the delimiter -/

/-- Where it ends at `c`, the parser stops there in the same way whatever follows. -/
def Parser.Settled (p : Parser τ α) (c : τ) : Prop :=
  ∀ ⦃u s a b⦄, p.Matches (u ++ c :: s) a (c :: s) b → p.SteadyAt c u a

section Settled

variable {p q : Parser τ α}

lemma Parser.Steady.settled (hp : p.Steady c) : p.Settled c := fun u _ a _ _ => hp u a

lemma Parser.Settled.matches (hp : p.Settled c) {u s : List τ} {a b : α}
    (h : p.Matches (u ++ c :: s) a (c :: s) b) (t : List τ) :
    p.Matches (u ++ c :: t) a (c :: t) b := by
  obtain ⟨v, b', hv⟩ | ⟨b', hf⟩ := hp h
  · obtain ⟨hr, rfl⟩ := (hv s).unique h
    obtain rfl : v = [] := List.append_left_eq_self.mp hr
    exact hv t
  · exact absurd h (hf s).not_matches

lemma Parser.Steady.seq_settled (hp : p.Steady c) (hq : q.Settled c) : (p >> q).Settled c := by
  intro u s a d h
  refine (hp u a).seq fun v b hv => ?_
  obtain ⟨r, b', hfirst, hsecond⟩ := matches_seq_iff.mp h
  obtain ⟨rfl, rfl⟩ := (hv s).unique hfirst
  exact hq hsecond

lemma Parser.Settled.focus {get : β → α} {set : α → β → β} (hp : p.Settled c) :
    (Peg.focus get set p).Settled c := by
  intro u s b d h
  obtain ⟨hok, hrest, -⟩ := h.run_ok
  have hm : p.Matches (u ++ c :: s) (get b) (p.run (u ++ c :: s) (get b)).rest _ :=
    Parser.matches_of_ok hok
  rw [show (p.run (u ++ c :: s) (get b)).rest = c :: s from hrest] at hm
  exact (hp hm).focus

end Settled

/-- A token outside the class that `c` belongs to. -/
lemma Parser.Guards.diff_steady [Inhabited α] {e : Parser τ α} {q : τ → Bool} (h : e.Guards q)
    (hc : q c = true) : (diff char_ e).Steady c := by
  intro u a
  cases u with
  | nil => exact Or.inr ⟨a, fun s => h.diff_fails (by simpa using hc) a⟩
  | cons d u =>
    cases hd : q d with
    | true => exact Or.inr ⟨a, fun s => h.diff_fails (by simpa using hd) a⟩
    | false => exact Or.inl ⟨u, a ++ [d], fun s => h.diff_matches hd _ a⟩

/-! ### Gaps in lists -/

/-- `s` with the texts `gaps`, one after another, behind the separators `c` of the list of `p`
that begins it. -/
def spaced [DecidableEq τ] [Inhabited α] (p : Parser τ α) (c : τ) :
    List (List τ) → List τ → List τ
  | [], s => s
  | gap :: gaps, s =>
    let r := p.run s default
    match r.rest with
    | [] => s
    | d :: s' =>
      if r.ok ∧ d = c ∧ (p.run s' default).ok then
        s.take (s.length - r.rest.length) ++ c :: (gap ++ spaced p c gaps s')
      else s

section Lists

variable [DecidableEq τ] [Inhabited α] {p : Parser τ α}

/-- Either nothing is put into the text, or its list has a second part. -/
lemma spaced_cons (p : Parser τ α) (c : τ) (gap : List τ) (gaps : List (List τ)) (s : List τ) :
    spaced p c (gap :: gaps) s = s ∨
      ∃ u s' b, s = u ++ c :: s' ∧ p.Matches s default (c :: s') b ∧
        spaced p c (gap :: gaps) s = u ++ c :: (gap ++ spaced p c gaps s') := by
  simp only [spaced]
  split
  · exact Or.inl rfl
  · next d s' hrest =>
    split_ifs with h
    · obtain ⟨hok, rfl, -⟩ := h
      have hm := Parser.matches_of_ok hok
      obtain ⟨u, hu⟩ := hm.suffix
      rw [hrest] at hm hu ⊢
      refine Or.inr ⟨u, s', _, hu.symm, hm, ?_⟩
      rw [← hu]
      simp
    · exact Or.inl rfl

/-- A list is read up to the first gap that no part begins with. -/
theorem list_spaced {q : τ → Bool} (hp : p.Settled c)
    (hq : ∀ d s, q d = true → (p.run (d :: s) default).ok = false) {gaps : List (List τ)}
    (hgaps : ∀ gap ∈ gaps, ∀ d ∈ gap, q d = true) {s : List τ} (h : spaced p c gaps s ≠ s)
    (l : List α) :
    ∃ r l', (list (pushBack p) (lit [c])).Matches (spaced p c gaps s) l (c :: r) l' := by
  induction gaps generalizing s l with
  | nil => exact absurd rfl h
  | cons gap gaps ih =>
    obtain ⟨hgap, hothers⟩ := List.forall_mem_cons.mp hgaps
    obtain heq | ⟨u, s', b, rfl, hm, heq⟩ := spaced_cons p c gap gaps s
    · exact absurd heq h
    · rw [heq]
      have hfirst := (hp.matches hm (gap ++ spaced p c gaps s')).pushBack l
      cases gap with
      | nil =>
        -- Nothing is put here, so the next parts are read as well.
        have hnext : spaced p c gaps s' ≠ s' := by
          intro hs
          exact h (by rw [heq, hs, List.nil_append])
        obtain ⟨r, l', hrest⟩ := ih hothers hnext (l ++ [b])
        obtain ⟨r₁, l₁, hpart, hstar⟩ := matches_seq_iff.mp hrest
        have hturn := (lit_matches [c] (spaced p c gaps s') (l ++ [b])).seq hpart
        have hlt : r₁.length < ([c] ++ spaced p c gaps s').length := by
          have := hpart.suffix.length_le
          simp only [List.length_append, List.length_singleton]
          omega
        exact ⟨r, l', hfirst.seq (hturn.star hlt hstar)⟩
      | cons d gap =>
        have hfails : (pushBack p).Fails (d :: (gap ++ spaced p c gaps s')) (l ++ [b]) (l ++ [b]) :=
          (Parser.fails_of_not_ok (hq d _ (hgap d List.mem_cons_self))).pushBack _
        have hstop := ((lit_matches [c] _ (l ++ [b])).seq_fails hfails).star
        exact ⟨_, _, hfirst.seq hstop⟩

end Lists

end Peg
