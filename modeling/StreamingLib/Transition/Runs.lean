import Mathlib.Data.List.Induction

/-!
# Runs of event systems

A system steps from state to state under events, which carry all its choices. States are reached
by runs whose steps may be restricted to a condition on the state before the step and the event.
-/

namespace Transition

variable {σ ε : Type}

/-- Initial states, and the state after an event where the event can happen. -/
structure System (σ ε : Type) where
  init : σ → Prop
  step : σ → ε → Option σ

/-- Every event in every state. -/
def Always : σ → ε → Prop := fun _ _ => True

/-- The states reached by steps that meet `ok`. -/
inductive System.Reachable (M : System σ ε) (ok : σ → ε → Prop) : σ → Prop
  | init {s : σ} : M.init s → M.Reachable ok s
  | step {s s' : σ} {e : ε} : M.Reachable ok s → ok s e → M.step s e = some s' → M.Reachable ok s'

/-- The state after some events. -/
def System.run (M : System σ ε) : σ → List ε → Option σ
  | s, [] => some s
  | s, e :: es => (M.step s e).bind fun s' => M.run s' es

/-- A run ends with its last event. -/
lemma System.run_concat (M : System σ ε) (s : σ) (es : List ε) (e : ε) :
    M.run s (es ++ [e]) = (M.run s es).bind fun s' => M.step s' e := by
  induction es generalizing s with
  | nil => cases h : M.step s e <;> simp [System.run, h]
  | cons e' es ih =>
    cases h : M.step s e' with
    | none => simp [System.run, h]
    | some s' => simp [System.run, h, ih]

/-- Every step of a run meets `ok`, as far as the run goes. -/
def System.Meets (M : System σ ε) (ok : σ → ε → Prop) : σ → List ε → Prop
  | _, [] => True
  | s, e :: es => ok s e ∧ match M.step s e with
    | none => True
    | some s' => M.Meets ok s' es

instance System.decidableMeets (M : System σ ε) (ok : σ → ε → Prop)
    [∀ s e, Decidable (ok s e)] (s : σ) : (es : List ε) → Decidable (M.Meets ok s es)
  | [] => isTrue trivial
  | e :: es =>
    match h : M.step s e with
    | none => decidable_of_iff (ok s e) (by simp [System.Meets, h])
    | some s' =>
      have := M.decidableMeets ok s' es
      decidable_of_iff (ok s e ∧ M.Meets ok s' es) (by simp [System.Meets, h])

section Reachable

variable {M : System σ ε} {ok : σ → ε → Prop} {s : σ}

/-- What holds initially and is kept by every step that meets the condition holds in every state
reached. -/
theorem System.Reachable.invariant {I : σ → Prop} (hs : M.Reachable ok s)
    (hinit : ∀ s, M.init s → I s)
    (hstep : ∀ s e s', I s → ok s e → M.step s e = some s' → I s') : I s := by
  induction hs with
  | init h => exact hinit _ h
  | step _ hok h ih => exact hstep _ _ _ ih hok h

lemma System.Reachable.mono {ok' : σ → ε → Prop} (hs : M.Reachable ok s)
    (h : ∀ s e, ok s e → ok' s e) : M.Reachable ok' s := by
  induction hs with
  | init h => exact .init h
  | step _ hok hstep ih => exact .step ih (h _ _ hok) hstep

/-- A run whose steps meet the condition leads from a reached state to a reached state. -/
lemma System.Reachable.run {s' : σ} (hs : M.Reachable ok s) {es : List ε}
    (hok : M.Meets ok s es) (h : M.run s es = some s') : M.Reachable ok s' := by
  induction es generalizing s with
  | nil =>
    simp only [System.run, Option.some.injEq] at h
    exact h ▸ hs
  | cons e es ih =>
    simp only [System.run, Option.bind_eq_some_iff] at h
    obtain ⟨t, ht, h⟩ := h
    simp only [System.Meets, ht] at hok
    exact ih (.step hs hok.1 ht) hok.2 h

/-- Conditions that agree in every state a run can reach are met by the same runs. -/
lemma System.meets_congr {ok' : σ → ε → Prop} {I : σ → Prop} (hinit : I s)
    (hstep : ∀ s e s', I s → M.step s e = some s' → I s')
    (hcongr : ∀ s e, I s → (ok s e ↔ ok' s e)) (es : List ε) :
    M.Meets ok s es ↔ M.Meets ok' s es := by
  induction es generalizing s with
  | nil => exact Iff.rfl
  | cons e es ih =>
    simp only [System.Meets]
    apply and_congr (hcongr s e hinit)
    cases h : M.step s e with
    | none => exact Iff.rfl
    | some s' => exact ih (hstep s e s' hinit h)

lemma System.meets_always (M : System σ ε) (s : σ) (es : List ε) : M.Meets Always s es := by
  induction es generalizing s with
  | nil => trivial
  | cons e es ih =>
    refine ⟨trivial, ?_⟩
    split
    · trivial
    · exact ih _

end Reachable

section History

variable {M : System σ ε} {ok : σ → ε → Prop} {s s' : σ} {e : ε} {es : List ε}

/-- A run meets the condition if all but its last step do and the last one does. -/
lemma System.meets_concat_iff (h : M.run s es = some s') :
    M.Meets ok s (es ++ [e]) ↔ M.Meets ok s es ∧ ok s' e := by
  induction es generalizing s with
  | nil =>
    simp only [System.run, Option.some.injEq] at h
    subst h
    simp only [List.nil_append, System.Meets, true_and, and_iff_left_iff_imp]
    intro _
    split <;> trivial
  | cons e' es ih =>
    simp only [System.run, Option.bind_eq_some_iff] at h
    obtain ⟨t, ht, h⟩ := h
    simp only [List.cons_append, System.Meets, ht, ih h, and_assoc]

/-- What relates the events so far to the state: it holds at first and is kept by every step that
meets the condition. -/
theorem System.run_invariant {I : List ε → σ → Prop} (hok : M.Meets ok s es)
    (h : M.run s es = some s') (hinit : I [] s)
    (hstep : ∀ es e t t', I es t → ok t e → M.step t e = some t' → I (es ++ [e]) t') : I es s' := by
  induction es using List.reverseRecOn generalizing s' with
  | nil =>
    simp only [System.run, Option.some.injEq] at h
    exact h ▸ hinit
  | append_singleton es e ih =>
    rw [System.run_concat, Option.bind_eq_some_iff] at h
    obtain ⟨t, ht, hlast⟩ := h
    obtain ⟨hrest, hone⟩ := (System.meets_concat_iff ht).mp hok
    exact hstep es e t s' (ih hrest ht) hone hlast

end History

section Progress

variable {M : System σ ε} {goal : σ → Prop}

/-- From every state that is reached, a run leads to the goal. -/
def System.AlwaysReaches (M : System σ ε) (goal : σ → Prop) : Prop :=
  ∀ s, M.Reachable Always s → ∃ es, ∃ s' ∈ M.run s es, goal s'

/-- Where every state of an invariant is at the goal or has a step that comes closer to it, the
goal can always be reached. -/
theorem System.AlwaysReaches.of_measure {I : σ → Prop} (measure : σ → ℕ)
    (hinit : ∀ s, M.init s → I s) (hstep : ∀ s e s', I s → M.step s e = some s' → I s')
    (hcloser : ∀ s, I s → ¬goal s → ∃ e, ∃ s' ∈ M.step s e, measure s' < measure s) :
    M.AlwaysReaches goal := by
  intro s hs
  have hI := hs.invariant hinit fun s e s' hI _ h => hstep s e s' hI h
  clear hs
  induction hn : measure s using Nat.strongRecOn generalizing s with
  | ind n ih =>
    by_cases hgoal : goal s
    · exact ⟨[], s, rfl, hgoal⟩
    · obtain ⟨e, s', hs', hlt⟩ := hcloser s hI hgoal
      obtain ⟨es, t, ht, hgoal⟩ := ih (measure s') (hn ▸ hlt) s' (hstep s e s' hI hs') rfl
      refine ⟨e :: es, t, ?_, hgoal⟩
      rw [System.run, Option.mem_def.mp hs']
      exact ht

/-- A state of an invariant that excludes the goal is never reached. -/
theorem System.AlwaysReaches.not_reachable {I : σ → Prop} (h : M.AlwaysReaches goal)
    (hstep : ∀ s e s', I s → M.step s e = some s' → I s') (hgoal : ∀ s, I s → ¬goal s) {s : σ}
    (hI : I s) : ¬M.Reachable Always s := by
  intro hs
  obtain ⟨es, t, ht, hreached⟩ := h s hs
  have htrapped := System.run_invariant (I := fun _ s => I s) (M.meets_always s es) ht hI
    fun _ e s s' hI _ h => hstep s e s' hI h
  exact hgoal t htrapped hreached

end Progress

end Transition
