import StreamingLib.Peg.Basic

/-!
# Rules of parsing

`p.Matches s a r b` says that `p` matches on `s`, leaves `r` and turns the attribute `a` into
`b`; `p.Fails s a b` that it does not match and leaves the attribute `b`. Each combinator gets its
rules, so that a run of a whole grammar is derived without unfolding it.
-/

namespace Peg

variable {τ α β : Type}

def Parser.Matches (p : Parser τ α) (s : List τ) (a : α) (r : List τ) (b : α) : Prop :=
  ∃ n, p.run s a = ⟨true, r, n, b⟩

def Parser.Fails (p : Parser τ α) (s : List τ) (a b : α) : Prop :=
  (p.run s a).ok = false ∧ (p.run s a).attr = b

lemma Parser.Matches.run_ok {p : Parser τ α} {s r : List τ} {a b : α} (h : p.Matches s a r b) :
    (p.run s a).ok = true ∧ (p.run s a).rest = r ∧ (p.run s a).attr = b := by
  obtain ⟨n, h⟩ := h
  simp [h]

lemma Parser.matches_of_ok {p : Parser τ α} {s : List τ} {a : α} (h : (p.run s a).ok = true) :
    p.Matches s a (p.run s a).rest (p.run s a).attr :=
  ⟨(p.run s a).far, by rw [← h]⟩

lemma Parser.fails_of_not_ok {p : Parser τ α} {s : List τ} {a : α} (h : (p.run s a).ok = false) :
    p.Fails s a (p.run s a).attr := ⟨h, rfl⟩

/-- A run ends in exactly one way. -/
lemma Parser.Matches.unique {p : Parser τ α} {s r r' : List τ} {a b b' : α}
    (h : p.Matches s a r b) (h' : p.Matches s a r' b') : r = r' ∧ b = b' := by
  obtain ⟨_, hr, hb⟩ := h.run_ok
  obtain ⟨_, hr', hb'⟩ := h'.run_ok
  exact ⟨hr.symm.trans hr', hb.symm.trans hb'⟩

lemma Parser.Fails.not_matches {p : Parser τ α} {s r : List τ} {a b c : α} (h : p.Fails s a b) :
    ¬p.Matches s a r c := by
  intro h'
  exact absurd h.1 (by simp [h'.run_ok.1])

lemma Parser.matches_intro {p : Parser τ α} {s r : List τ} {a b : α}
    (hok : (p.run s a).ok = true) (hr : (p.run s a).rest = r) (hb : (p.run s a).attr = b) :
    p.Matches s a r b := hr ▸ hb ▸ Parser.matches_of_ok hok

lemma Parser.Matches.suffix {p : Parser τ α} {s r : List τ} {a b : α} (h : p.Matches s a r b) :
    r <:+ s := by
  obtain ⟨n, h⟩ := h
  have := (p.within s a).suffix
  rwa [h] at this

/-! ### Single tokens and literals -/

lemma sat_matches {q : τ → Bool} {c : τ} (hc : q c) (s a : List τ) :
    (sat q).Matches (c :: s) a s (a ++ [c]) := ⟨1, by simp [sat, hc]⟩

lemma sat_fails_nil (q : τ → Bool) (a : List τ) : (sat q).Fails [] a a := ⟨rfl, rfl⟩

lemma sat_fails {q : τ → Bool} {c : τ} (hc : q c = false) (s a : List τ) :
    (sat q).Fails (c :: s) a a := by simp [Parser.Fails, sat, hc]

lemma lit_matches [DecidableEq τ] (w r : List τ) (a : α) : (lit w).Matches (w ++ r) a r a :=
  ⟨w.length, by simp [lit]⟩

lemma lit_fails_head [DecidableEq τ] {c d : τ} (h : c ≠ d) (w s : List τ) (a : α) :
    (lit (c :: w)).Fails (d :: s) a a := by simp [Parser.Fails, lit, matchLength, h]

lemma lit_fails_nil [DecidableEq τ] (c : τ) (w : List τ) (a : α) :
    (lit (c :: w)).Fails [] a a := by simp [Parser.Fails, lit, matchLength]

lemma lit_attr [DecidableEq τ] (w s : List τ) (a : α) : ((lit w).run s a).attr = a := by
  simp only [lit]
  split_ifs <;> rfl

/-- A literal matches exactly where the input starts with it. -/
lemma lit_matches_iff [DecidableEq τ] {w s r : List τ} {a b : α} :
    (lit w).Matches s a r b ↔ s = w ++ r ∧ b = a := by
  constructor
  · intro h
    have hb : b = a := h.run_ok.2.2.symm.trans (lit_attr w s a)
    obtain ⟨n, h⟩ := h
    refine ⟨?_, hb⟩
    simp only [lit] at h
    split_ifs at h with hw
    · simp only [Reply.mk.injEq, true_and] at h
      rw [← h.1]
      clear h
      induction w, s using matchLength.induct with
      | case1 w c s ih =>
        simp only [matchLength, if_true, List.length_cons, Nat.add_right_cancel_iff] at hw
        simpa using ih hw
      | case2 c w d s hcd => simp [matchLength, hcd] at hw
      | case3 w s hns =>
        cases w with
        | nil => simp
        | cons c w =>
          cases s with
          | nil => simp [matchLength] at hw
          | cons d s => exact absurd rfl (hns c w d s rfl)
    · simp at h
  · rintro ⟨rfl, rfl⟩
    exact lit_matches w r b

lemma lit_fails [DecidableEq τ] {w s : List τ} (h : ∀ r, s ≠ w ++ r) (a : α) :
    (lit w).Fails s a a := by
  cases hok : ((lit w).run s a).ok with
  | false => exact ⟨hok, lit_attr w s a⟩
  | true => exact absurd (lit_matches_iff.mp (Parser.matches_of_ok hok)).1 (h _)

/-! ### Sequences, alternatives and differences -/

section Combinators

variable {p q : Parser τ α} {s r r' : List τ} {a b c : α}

lemma Parser.Matches.seq (h : p.Matches s a r b) (h' : q.Matches r b r' c) :
    (p >> q).Matches s a r' c := by
  obtain ⟨n, h⟩ := h
  obtain ⟨m, h'⟩ := h'
  apply Parser.matches_intro <;> simp [hAndThen_eq, Peg.seq, h, h']

lemma Parser.Fails.seq (h : p.Fails s a b) : (p >> q).Fails s a b := by
  simp [Parser.Fails, hAndThen_eq, Peg.seq, h.1, h.2]

lemma Parser.Matches.seq_fails (h : p.Matches s a r b) (h' : q.Fails r b c) :
    (p >> q).Fails s a c := by
  obtain ⟨n, h⟩ := h
  simp [Parser.Fails, hAndThen_eq, Peg.seq, h, h'.1, h'.2]

/-- A sequence that matched is a match of its first part and then of its second. -/
lemma matches_seq_iff :
    (p >> q).Matches s a r' c ↔ ∃ r b, p.Matches s a r b ∧ q.Matches r b r' c := by
  constructor
  · intro h
    cases hp : (p.run s a).ok with
    | false => exact absurd h (Parser.Fails.seq (Parser.fails_of_not_ok hp)).not_matches
    | true =>
      cases hq : (q.run (p.run s a).rest (p.run s a).attr).ok with
      | false =>
        exact absurd h
          ((Parser.matches_of_ok hp).seq_fails (Parser.fails_of_not_ok hq)).not_matches
      | true =>
        have hm := (Parser.matches_of_ok hp).seq (Parser.matches_of_ok hq)
        obtain ⟨rfl, rfl⟩ := hm.unique h
        exact ⟨_, _, Parser.matches_of_ok hp, Parser.matches_of_ok hq⟩
  · rintro ⟨r, b, h, h'⟩
    exact h.seq h'

lemma Parser.Matches.alt (h : p.Matches s a r b) : (p <|> q).Matches s a r b := by
  obtain ⟨n, h⟩ := h
  exact ⟨n, by simp [orElse_eq, Peg.alt, h]⟩

lemma Parser.Fails.alt (h : p.Fails s a b) (h' : q.Matches s b r c) :
    (p <|> q).Matches s a r c := by
  obtain ⟨n, h'⟩ := h'
  apply Parser.matches_intro <;> simp [orElse_eq, Peg.alt, h.1, h.2, h']

lemma Parser.Fails.alt_fails (h : p.Fails s a b) (h' : q.Fails s b c) :
    (p <|> q).Fails s a c := by
  simp [Parser.Fails, orElse_eq, Peg.alt, h.1, h.2, h'.1, h'.2]

lemma Parser.Matches.opt (h : p.Matches s a r b) : (Peg.opt p).Matches s a r b := by
  obtain ⟨n, h⟩ := h
  exact ⟨n, by simp [Peg.opt, h]⟩

/-- An option whose sequence does not begin leaves the input alone. -/
lemma Parser.Fails.opt_seq [Inhabited α] {f : α → β → β} (h : p.Fails s default b) (d : β) :
    (Peg.opt (Peg.build f (p >> q))).Matches s d s d :=
  ⟨(p.run s default).far, by simp [Peg.opt, Peg.build, hAndThen_eq, Peg.seq, h.1]⟩

lemma Parser.Matches.omits [Inhabited α] (h : p.Matches s default r b) (d : β) :
    (Peg.omits p).Matches s d r d := by
  obtain ⟨n, h⟩ := h
  exact ⟨n, by simp [Peg.omits, h]⟩

lemma Parser.Fails.omits [Inhabited α] (h : p.Fails s default b) (d : β) :
    (Peg.omits p).Fails s d d := by simp [Parser.Fails, Peg.omits, h.1]

lemma Parser.Matches.focus {get : β → α} {set : α → β → β} {d : β}
    (h : p.Matches s (get d) r b) : (Peg.focus get set p).Matches s d r (set b d) := by
  obtain ⟨n, h⟩ := h
  exact ⟨n, by simp [Peg.focus, h]⟩

lemma Parser.Fails.focus {get : β → α} {set : α → β → β} {d : β}
    (h : p.Fails s (get d) b) : (Peg.focus get set p).Fails s d (set b d) := by
  simp [Parser.Fails, Peg.focus, h.1, h.2]

lemma Parser.Matches.pushBack [Inhabited α] (h : p.Matches s default r b) (l : List α) :
    (Peg.pushBack p).Matches s l r (l ++ [b]) := by
  obtain ⟨n, h⟩ := h
  exact ⟨n, by simp [Peg.pushBack, h]⟩

lemma Parser.Fails.pushBack [Inhabited α] (h : p.Fails s default b) (l : List α) :
    (Peg.pushBack p).Fails s l l := by simp [Parser.Fails, Peg.pushBack, h.1]

lemma Parser.Matches.build [Inhabited α] {f : α → β → β} (h : p.Matches s default r b) (d : β) :
    (Peg.build f p).Matches s d r (f b d) := by
  obtain ⟨n, h⟩ := h
  exact ⟨n, by simp [Peg.build, h]⟩

lemma Parser.Fails.build [Inhabited α] {f : α → β → β} (h : p.Fails s default b) (d : β) :
    (Peg.build f p).Fails s d d := by simp [Parser.Fails, Peg.build, h.1]

lemma Parser.Fails.diff [Inhabited β] {e : Parser τ β} (h : (e.run s default).ok = false)
    (hp : p.Matches s a r b) : (p - e).Matches s a r b := by
  obtain ⟨n, hp⟩ := hp
  apply Parser.matches_intro <;> simp [hSub_eq, Peg.diff, h, hp]

lemma diff_fails [Inhabited β] {e : Parser τ β} (h : (e.run s default).ok = true) :
    (p - e).Fails s a a := by simp [Parser.Fails, hSub_eq, Peg.diff, h]

/-! ### Repetition -/

lemma Parser.Fails.star (h : p.Fails s a b) : (Peg.star p).Matches s a s b := by
  rw [Parser.Matches, star_run, if_neg (by simp [h.1]), h.2]
  exact ⟨_, rfl⟩

lemma Parser.Matches.star (h : p.Matches s a r b) (hr : r.length < s.length)
    (h' : (Peg.star p).Matches r b r' c) : (Peg.star p).Matches s a r' c := by
  obtain ⟨n, h⟩ := h
  obtain ⟨m, h'⟩ := h'
  rw [Parser.Matches, star_run, h, if_pos ⟨rfl, hr⟩]
  simp only [h']
  exact ⟨_, rfl⟩

/-- A loop never fails. -/
lemma star_ok (p : Parser τ α) (s : List τ) (a : α) : ((star p).run s a).ok = true := by
  rw [star_run]
  split_ifs <;> rfl

/-- After a first turn that matched, the loop goes on as if it began there. -/
lemma matches_star_iff (h : p.Matches s a r b) (hr : r.length < s.length) :
    (star p).Matches s a r' c ↔ (star p).Matches r b r' c := by
  refine ⟨fun h' => ?_, h.star hr⟩
  have hgo := Parser.matches_of_ok (star_ok p r b)
  obtain ⟨rfl, rfl⟩ := (h.star hr hgo).unique h'
  exact hgo

lemma Parser.Matches.plus (h : p.Matches s a r b) (h' : (Peg.star p).Matches r b r' c) :
    (Peg.plus p).Matches s a r' c := h.seq h'

lemma Parser.Fails.plus (h : p.Fails s a b) : (Peg.plus p).Fails s a b := h.seq

/-- What holds of the attribute and is kept by every match of `p` holds after the loop, if a
failed `p` keeps it too. -/
lemma star_induction (I : α → Prop) (hp : ∀ s a, I a → I (p.run s a).attr) (s : List τ) (a : α)
    (ha : I a) : I ((star p).run s a).attr := by
  induction h : s.length using Nat.strong_induction_on generalizing s a with
  | _ n ih =>
    rw [star_run]
    split_ifs with hok
    · exact ih _ (by omega) _ _ (hp s a ha) rfl
    · exact hp s a ha

/-- A chain satisfies the recursive equation, if the separator moves whenever it matches. -/
theorem chain_run (hq : ∀ s a, (q.run s a).ok = true → (q.run s a).rest.length < s.length)
    (s : List τ) (a : α) :
    (chain p q).run s a = (p >> opt (q >> chain p q)).run s a := by
  have hturn : ∀ s a, (star (q >> p)).run s a = (opt (q >> chain p q)).run s a := by
    intro s a
    rw [star_run]
    simp only [opt, chain, seq_run]
    cases hok : (q.run s a).ok with
    | false => simp
    | true =>
      have hlt := hq s a hok
      cases hok' : (p.run (q.run s a).rest (q.run s a).attr).ok with
      | false => simp [Reply.after]
      | true =>
        have hle := (p.within (q.run s a).rest (q.run s a).attr).rest_length_le
        simp only [if_true, true_and, star_ok, Reply.after]
        rw [if_pos (by omega)]
        simp only [Reply.mk.injEq, true_and, and_true]
        omega
  rw [chain, seq_run, seq_run]
  simp only [hturn, chain]

/-! ### Attributes that only grow -/

/-- Whatever happens, `p` only appends to its attribute. -/
def Parser.Appends (p : Parser τ (List β)) : Prop :=
  ∀ s a, a <+: (p.run s a).attr

lemma sat_appends (q : τ → Bool) : (sat q).Appends := by
  intro s a
  cases s with
  | nil => exact List.prefix_rfl
  | cons c s => cases hc : q c <;> simp [sat, hc]

lemma lit_appends [DecidableEq τ] (w : List τ) : (lit w : Parser τ (List β)).Appends := by
  intro s a
  rw [lit_attr]

lemma omits_appends [Inhabited α] (p : Parser τ α) : (omits p : Parser τ (List β)).Appends :=
  fun _ _ => List.prefix_rfl

lemma pushBack_appends [Inhabited β] (p : Parser τ β) : (pushBack p).Appends := by
  intro s a
  simp only [pushBack]
  split_ifs
  · exact List.prefix_append _ _
  · exact List.prefix_rfl

section Appends

variable {p q : Parser τ (List β)}

lemma Parser.Appends.seq (hp : p.Appends) (hq : q.Appends) : (p >> q).Appends := by
  intro s a
  rw [seq_run]
  split_ifs
  · exact (hp s a).trans (hq _ _)
  · exact hp s a

lemma Parser.Appends.alt (hp : p.Appends) (hq : q.Appends) : (p <|> q).Appends := by
  intro s a
  simp only [orElse_eq, Peg.alt]
  split_ifs
  · exact hp s a
  · exact (hp s a).trans (hq _ _)

lemma Parser.Appends.diff [Inhabited α] (hp : p.Appends) (e : Parser τ α) :
    (p - e).Appends := by
  intro s a
  simp only [hSub_eq, Peg.diff]
  split_ifs
  · exact List.prefix_rfl
  · exact hp s a

lemma Parser.Appends.star (hp : p.Appends) : (Peg.star p).Appends := fun s a =>
  star_induction (a <+: ·) (fun s b hb => hb.trans (hp s b)) s a List.prefix_rfl

lemma Parser.Appends.plus (hp : p.Appends) : (Peg.plus p).Appends := hp.seq hp.star

lemma Parser.Appends.matches (hp : p.Appends) {s r : List τ} {a b : List β}
    (h : p.Matches s a r b) : a <+: b := by
  have := hp s a
  rwa [h.run_ok.2.2] at this

end Appends

/-! ### What is kept of attributes -/

/-- Whatever happens, `p` keeps `I` of its attribute. -/
def Parser.Keeps (p : Parser τ α) (I : α → Prop) : Prop := ∀ s a, I a → I (p.run s a).attr

section Keeps

variable {I : α → Prop} {J : β → Prop}

lemma keeps_true (p : Parser τ α) : p.Keeps fun _ => True := fun _ _ _ => trivial

lemma lit_keeps [DecidableEq τ] (w : List τ) (I : α → Prop) : (lit w).Keeps I := by
  intro s a ha
  rwa [lit_attr]

lemma omits_keeps [Inhabited β] (p : Parser τ β) (I : α → Prop) : (omits p).Keeps I :=
  fun _ _ ha => ha

lemma Parser.Keeps.seq (hp : p.Keeps I) (hq : q.Keeps I) : (p >> q).Keeps I := by
  intro s a ha
  rw [seq_run]
  split_ifs
  · exact hq _ _ (hp s a ha)
  · exact hp s a ha

lemma Parser.Keeps.pre (hp : p.Keeps I) (hq : q.Keeps I) : (Peg.pre p q).Keeps I :=
  fun s a ha => hq _ _ (hp s a ha)

lemma Parser.Keeps.alt (hp : p.Keeps I) (hq : q.Keeps I) : (p <|> q).Keeps I := by
  intro s a ha
  simp only [orElse_eq, Peg.alt]
  split_ifs
  · exact hp s a ha
  · exact hq s _ (hp s a ha)

lemma Parser.Keeps.opt (hp : p.Keeps I) : (Peg.opt p).Keeps I := hp

lemma Parser.Keeps.star (hp : p.Keeps I) : (Peg.star p).Keeps I := star_induction I hp

lemma Parser.Keeps.plus (hp : p.Keeps I) : (Peg.plus p).Keeps I := hp.seq hp.star

lemma Parser.Keeps.list (hp : p.Keeps I) (hq : q.Keeps I) : (Peg.list p q).Keeps I :=
  hp.seq (hq.seq hp).star

lemma Parser.Keeps.chain (hp : p.Keeps I) (hq : q.Keeps I) : (Peg.chain p q).Keeps I :=
  hp.seq (hq.seq hp).star

lemma Parser.Keeps.phrase [Inhabited β] (hp : p.Keeps I) (skip : Parser τ β) :
    (Peg.phrase skip p).Keeps I :=
  (omits_keeps _ I).pre (hp.seq (omits_keeps _ I))

/-- A part of an attribute is written. -/
lemma Parser.Keeps.focus {get : β → α} {set : α → β → β} (hp : p.Keeps I)
    (hget : ∀ b, J b → I (get b)) (hset : ∀ a b, I a → J b → J (set a b)) :
    (Peg.focus get set p).Keeps J :=
  fun s b hb => hset _ b (hp s _ (hget b hb)) hb

lemma Parser.Keeps.pushBack [Inhabited α] (hp : p.Keeps I) (hdefault : I default) :
    (Peg.pushBack p).Keeps fun l => ∀ a ∈ l, I a := by
  intro s l hl
  simp only [Peg.pushBack]
  split_ifs
  · exact List.forall_mem_append.mpr ⟨hl, List.forall_mem_singleton.mpr (hp s default hdefault)⟩
  · exact hl

end Keeps

end Combinators

/-! ### Spans of tokens -/

/-- Any token. -/
def char_ : Parser τ (List τ) := sat fun _ => true

/-- `e` matches exactly where the next token is of the class `q`. -/
def Parser.Guards (e : Parser τ α) (q : τ → Bool) : Prop :=
  ∀ s a, (e.run s a).ok = s.head?.any q

lemma sat_guards (q : τ → Bool) : (sat q).Guards q := by
  intro s a
  cases s with
  | nil => rfl
  | cons c s => cases hc : q c <;> simp [sat, hc]

lemma lit_guards [DecidableEq τ] (c : τ) : (lit [c] : Parser τ α).Guards (· == c) := by
  intro s a
  cases s with
  | nil => rfl
  | cons d s =>
    by_cases h : c = d
    · subst h; simp [lit, matchLength]
    · simp [lit, matchLength, h, Ne.symm h]

lemma Parser.Guards.alt {e e' : Parser τ α} {q q' : τ → Bool} (h : e.Guards q)
    (h' : e'.Guards q') : (e <|> e').Guards fun c => q c || q' c := by
  intro s a
  have hs := h s a
  have hs' := h' s (e.run s a).attr
  simp only [orElse_eq, Peg.alt]
  cases s with
  | nil => simp_all
  | cons c s => cases hq : q c <;> simp_all

section Span

variable [Inhabited α] {e : Parser τ α} {q : τ → Bool}

lemma Parser.Guards.diff_matches (h : e.Guards q) {c : τ} (hc : q c = false) (s a : List τ) :
    (diff char_ e).Matches (c :: s) a s (a ++ [c]) :=
  Parser.Fails.diff ((h (c :: s) default).trans hc) (sat_matches rfl s a)

lemma Parser.Guards.diff_fails (h : e.Guards q) {s : List τ} (hs : s.head?.all q = true)
    (a : List τ) : (diff char_ e).Fails s a a := by
  cases s with
  | nil =>
    have he : (e.run [] default).ok = false := h [] default
    simp [Parser.Fails, Peg.diff, he, char_, sat]
  | cons c s => exact Peg.diff_fails ((h (c :: s) default).trans (by simpa using hs))

/-- What is true of all tokens outside `q` is true of all that are taken. -/
lemma Parser.Guards.diff_keeps (h : e.Guards q) {P : τ → Prop} (hP : ∀ c, q c = false → P c) :
    (diff char_ e).Keeps fun a => ∀ c ∈ a, P c := by
  intro s a ha
  cases s with
  | nil =>
    rw [(h.diff_fails (s := []) rfl a).2]
    exact ha
  | cons c s =>
    cases hc : q c with
    | true =>
      rw [(h.diff_fails (s := c :: s) (by simpa using hc) a).2]
      exact ha
    | false =>
      rw [(h.diff_matches hc s a).run_ok.2.2]
      exact List.forall_mem_append.mpr ⟨ha, List.forall_mem_singleton.mpr (hP c hc)⟩

/-- A loop over the tokens outside `q` takes the longest run of them. -/
lemma Parser.Guards.star_matches (h : e.Guards q) (s a : List τ) :
    (star (diff char_ e)).Matches s a (s.dropWhile (!q ·)) (a ++ s.takeWhile (!q ·)) := by
  induction s generalizing a with
  | nil => simpa using (h.diff_fails (s := []) rfl a).star
  | cons c s ih =>
    cases hc : q c with
    | true => simpa [hc] using (h.diff_fails (s := c :: s) (by simpa using hc) a).star
    | false =>
      have := (h.diff_matches hc s a).star (by simp) (ih (a ++ [c]))
      simpa [hc] using this

lemma Parser.Guards.plus_matches (h : e.Guards q) {c : τ} (hc : q c = false) (s a : List τ) :
    (plus (diff char_ e)).Matches (c :: s) a (s.dropWhile (!q ·))
      (a ++ c :: s.takeWhile (!q ·)) := by
  have := (h.diff_matches hc s a).plus (h.star_matches s (a ++ [c]))
  simpa using this

lemma Parser.Guards.plus_fails (h : e.Guards q) {s : List τ} (hs : s.head?.all q = true)
    (a : List τ) : (plus (diff char_ e)).Fails s a a := (h.diff_fails hs a).plus

/-- A non-empty run of tokens outside `q`, up to a stop in `q` or the end. -/
lemma Parser.Guards.plus_span (h : e.Guards q) {w r : List τ} (hw : ∀ c ∈ w, q c = false)
    (hne : w ≠ []) (hr : r.head?.all q = true) (a : List τ) :
    (plus (diff char_ e)).Matches (w ++ r) a r (a ++ w) := by
  obtain ⟨c, w, rfl⟩ := List.exists_cons_of_ne_nil hne
  have hd : (w ++ r).dropWhile (!q ·) = r := by
    rw [List.dropWhile_append_of_pos (by simpa using fun x hx => hw x (by simp [hx]))]
    cases r with
    | nil => rfl
    | cons d r => simp_all
  have ht : (w ++ r).takeWhile (!q ·) = w := by
    rw [List.takeWhile_append_of_pos (by simpa using fun x hx => hw x (by simp [hx]))]
    cases r with
    | nil => simp
    | cons d r => simp_all
  have := h.plus_matches (hw c (by simp)) (w ++ r) a
  rwa [hd, ht] at this

end Span

/-- A loop over the tokens of a class takes the longest run of them. -/
lemma star_sat_matches (q : τ → Bool) (s a : List τ) :
    (star (sat q)).Matches s a (s.dropWhile q) (a ++ s.takeWhile q) := by
  induction s generalizing a with
  | nil => simpa using (sat_fails_nil q a).star
  | cons c s ih =>
    cases hc : q c with
    | true =>
      have := (sat_matches hc s a).star (by simp) (ih (a ++ [c]))
      simpa [hc] using this
    | false => simpa [hc] using (sat_fails hc s a).star

lemma plus_sat_matches {q : τ → Bool} {c : τ} (hc : q c) (s a : List τ) :
    (plus (sat q)).Matches (c :: s) a (s.dropWhile q) (a ++ c :: s.takeWhile q) := by
  have := (sat_matches hc s a).plus (star_sat_matches q s (a ++ [c]))
  simpa using this

/-! ### Phrases -/

section Phrase

variable {p : Parser τ α} {q : τ → Bool} {s r : List τ} {a b : α}

lemma phrase_run_ok (q : τ → Bool) (p : Parser τ α) (s : List τ) (a : α) :
    ((phrase (sat q) p).run s a).ok = (p.run (s.dropWhile q) a).ok := by
  obtain ⟨n, h⟩ := (star_sat_matches q s default).omits a
  simp only [phrase, pre, h, seq]
  cases hok : (p.run (s.dropWhile q) a).ok <;> simp [omits, star_ok]

/-- A phrase that does not match leaves what follows the skipped tokens. -/
lemma phrase_rest_of_fails [Inhabited β] {skip : Parser τ β}
    (h : ((phrase skip p).run s a).ok = false) :
    ((phrase skip p).run s a).rest = ((star skip).run s default).rest := by
  simp only [phrase, pre, seq, omits, star_ok] at h ⊢
  split_ifs at h ⊢
  rfl

/-- A phrase matches as its parser does after the skipped tokens, and skips once more. -/
lemma Parser.Matches.phrase (h : p.Matches (s.dropWhile q) a r b) :
    (Peg.phrase (sat q) p).Matches s a (r.dropWhile q) b := by
  obtain ⟨n, hs⟩ := (star_sat_matches q s default).omits a
  obtain ⟨m, hp⟩ := h.seq ((star_sat_matches q r default).omits b)
  rw [hAndThen_eq] at hp
  exact ⟨_, by simp only [Peg.phrase, pre, hs, hp]; rfl⟩

lemma phrase_matches_iff :
    (phrase (sat q) p).Matches s a r b ↔
      ∃ r', p.Matches (s.dropWhile q) a r' b ∧ r = r'.dropWhile q := by
  constructor
  · intro h
    have hok : (p.run (s.dropWhile q) a).ok = true := by
      rw [← phrase_run_ok]
      exact h.run_ok.1
    have hp := Parser.matches_of_ok hok
    obtain ⟨rfl, rfl⟩ := hp.phrase.unique h
    exact ⟨_, hp, rfl⟩
  · rintro ⟨r', h, rfl⟩
    exact h.phrase

end Phrase

/-! ### Beginnings of matches -/

/-- On the beginning of an input that it matches, a parser moves to the end, unless it already
matches there and leaves something. -/
lemma Parser.far_eq_length {p : Parser τ α} {s t : List τ} {a : α}
    (hrest : (p.run s a).ok = true → (p.run s a).rest = [])
    (hok : (p.run (s ++ t) a).ok = true) : (p.run s a).far = s.length := by
  have hwithin := p.within s a
  by_contra hne
  have hlt : (p.run s a).far < s.length := lt_of_le_of_ne hwithin.far_le hne
  rw [p.frame s t a hlt, Reply.append_ok] at hok
  have hconsumed := hwithin.consumed_le
  rw [hrest hok, List.length_nil] at hconsumed
  omega

/-! ### What a match ends in -/

/-- Whatever `p` matches ends in `w`. -/
def Parser.EndsIn (p : Parser τ α) (w : List τ) : Prop :=
  ∀ s a, (p.run s a).ok = true → ∃ u, s = u ++ (w ++ (p.run s a).rest)

section EndsIn

variable {p q : Parser τ α} {w : List τ}

lemma lit_endsIn [DecidableEq τ] (w : List τ) : (lit w : Parser τ α).EndsIn w := by
  intro s a hok
  exact ⟨[], (lit_matches_iff.mp (Parser.matches_of_ok hok)).1⟩

lemma Parser.EndsIn.seq (hq : q.EndsIn w) : (p >> q).EndsIn w := by
  intro s a hok
  obtain ⟨r, b, hp, hqm⟩ := matches_seq_iff.mp (Parser.matches_of_ok hok)
  obtain ⟨v, rfl⟩ := hp.suffix
  obtain ⟨u, hu⟩ := hq r b hqm.run_ok.1
  rw [hqm.run_ok.2.1] at hu
  refine ⟨v ++ u, ?_⟩
  rw [List.append_assoc, ← hu]

lemma Parser.EndsIn.focus {get : β → α} {set : α → β → β} (hp : p.EndsIn w) :
    (Peg.focus get set p).EndsIn w := fun s a hok => hp s (get a) hok

lemma Parser.EndsIn.pushBack [Inhabited α] (hp : p.EndsIn w) : (Peg.pushBack p).EndsIn w :=
  fun s _ hok => hp s default hok

/-- A loop goes on after `w` and stops after `w`. -/
lemma Parser.EndsIn.star_rest (hp : p.EndsIn w) (s s₀ : List τ) (a : α)
    (hs : ∃ u, s₀ = u ++ (w ++ s)) : ∃ u, s₀ = u ++ (w ++ ((star p).run s a).rest) := by
  induction h : s.length using Nat.strong_induction_on generalizing s a with
  | _ n ih =>
    rw [star_run]
    split_ifs with hok
    · obtain ⟨u, rfl⟩ := hs
      obtain ⟨v, hv⟩ := hp s a hok.1
      refine ih _ (by omega) _ _ ⟨u ++ (w ++ v), ?_⟩ rfl
      rw [List.append_assoc, List.append_assoc, ← hv]
    · exact hs

end EndsIn

end Peg
