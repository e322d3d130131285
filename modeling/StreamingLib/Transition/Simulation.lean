import StreamingLib.Transition.Runs

/-!
# Simulations

A system refines another one if each of its steps is matched by a run of the other one, with the
same observations. Steps may be matched by no step at all, or by several.
-/

namespace Transition

variable {σ ε τ δ ω : Type}

/-! ### Observations -/

/-- What is observed of the steps of a run, as far as the run goes. -/
def System.observe (M : System σ ε) (out : σ → ε → List ω) : σ → List ε → List ω
  | _, [] => []
  | s, e :: es => out s e ++ match M.step s e with
    | none => []
    | some s' => M.observe out s' es

section Observe

variable {M : System σ ε} {out : σ → ε → List ω} {s s' : σ} {e : ε} {es : List ε}

@[simp] lemma System.observe_nil : M.observe out s [] = [] := rfl

lemma System.observe_cons (h : M.step s e = some s') :
    M.observe out s (e :: es) = out s e ++ M.observe out s' es := by
  simp only [System.observe, h]

/-- Runs one after the other. -/
lemma System.run_append (M : System σ ε) (s : σ) (es es' : List ε) :
    M.run s (es ++ es') = (M.run s es).bind fun t => M.run t es' := by
  induction es generalizing s with
  | nil => rfl
  | cons e es ih =>
    cases h : M.step s e with
    | none => simp [System.run, h]
    | some s' => simp [System.run, h, ih]

/-- What is observed of a run that goes on is observed one after the other. -/
lemma System.observe_append (h : M.run s es = some s') (es' : List ε) :
    M.observe out s (es ++ es') = M.observe out s es ++ M.observe out s' es' := by
  induction es generalizing s with
  | nil =>
    simp only [System.run, Option.some.injEq] at h
    rw [h]
    rfl
  | cons e es ih =>
    simp only [System.run, Option.bind_eq_some_iff] at h
    obtain ⟨t, ht, h⟩ := h
    rw [List.cons_append, System.observe_cons ht, System.observe_cons ht, ih h, List.append_assoc]

end Observe

/-! ### Simulations -/

/-- Every step of `C` is matched in `A` from each related state, with the same observations. -/
structure Simulation (C : System σ ε) (A : System τ δ) (outC : σ → ε → List ω)
    (outA : τ → δ → List ω) (R : σ → τ → Prop) : Prop where
  init : ∀ s, C.init s → ∃ t, A.init t ∧ R s t
  step : ∀ s t e s', R s t → C.step s e = some s' →
    ∃ ds, ∃ t' ∈ A.run t ds, A.observe outA t ds = outC s e ∧ R s' t'

namespace Simulation

variable {C : System σ ε} {A : System τ δ} {outC : σ → ε → List ω} {outA : τ → δ → List ω}
  {R : σ → τ → Prop} {s s' : σ} {t : τ} {es : List ε}

/-- A whole run is matched with its observations. -/
theorem run (h : Simulation C A outC outA R) (hR : R s t) (hrun : C.run s es = some s') :
    ∃ ds, ∃ t' ∈ A.run t ds, A.observe outA t ds = C.observe outC s es ∧ R s' t' := by
  induction es generalizing s t with
  | nil =>
    simp only [System.run, Option.some.injEq] at hrun
    subst hrun
    exact ⟨[], t, rfl, rfl, hR⟩
  | cons e es ih =>
    simp only [System.run, Option.bind_eq_some_iff] at hrun
    obtain ⟨u, hu, hrun⟩ := hrun
    obtain ⟨ds, v, hv, hobserve, hRu⟩ := h.step s t e u hR hu
    obtain ⟨ds', t', ht', hobserve', hRs'⟩ := ih hRu hrun
    refine ⟨ds ++ ds', t', ?_, ?_, hRs'⟩
    · rw [Option.mem_def, System.run_append, Option.mem_def.mp hv]
      exact ht'
    · rw [System.observe_append hv, System.observe_cons hu, hobserve, hobserve']

/-- Every state that is reached is related to one that is reached. -/
theorem reachable (h : Simulation C A outC outA R) (hs : C.Reachable Always s) :
    ∃ t, A.Reachable Always t ∧ R s t := by
  induction hs with
  | init hinit =>
    obtain ⟨t, ht, hR⟩ := h.init _ hinit
    exact ⟨t, .init ht, hR⟩
  | step _ _ hstep ih =>
    obtain ⟨t, ht, hR⟩ := ih
    obtain ⟨ds, t', ht', -, hR'⟩ := h.step _ t _ _ hR hstep
    exact ⟨t', ht.run (System.meets_always A t ds) ht', hR'⟩

end Simulation

end Transition
