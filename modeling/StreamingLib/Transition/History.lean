import StreamingLib.Transition.Runs

/-!
# Histories

A system may record something of the steps that it has made. The record does not bear on which
steps it makes.
-/

namespace Transition

variable {σ ε η : Type}

/-- A system with a record of its steps, which is empty at first. -/
def System.recording (M : System σ ε) (empty : η) (record : σ → η → ε → η) : System (σ × η) ε where
  init s := M.init s.1 ∧ s.2 = empty
  step s e := (M.step s.1 e).map fun s' => (s', record s.1 s.2 e)

section Recording

variable {M : System σ ε} {ok : σ → ε → Prop} {empty : η} {record : σ → η → ε → η} {s : σ × η}

/-- What holds of every step with what it records holds of every state reached with its record. -/
theorem System.Reachable.recording_invariant {I : σ → η → Prop}
    (hs : (M.recording empty record).Reachable (fun s e => ok s.1 e) s)
    (hinit : ∀ s, M.init s → I s empty)
    (hstep : ∀ s h e s', I s h → ok s e → M.step s e = some s' → I s' (record s h e)) :
    I s.1 s.2 := by
  apply hs.invariant (I := fun s => I s.1 s.2)
  · rintro s ⟨hs, hempty⟩
    rw [hempty]
    exact hinit s.1 hs
  · rintro ⟨s, h⟩ e t hI hok hnext
    obtain ⟨s', hs', rfl⟩ := Option.map_eq_some_iff.mp hnext
    exact hstep s h e s' hI hok hs'

end Recording

end Transition
