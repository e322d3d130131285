import StreamingLib.Rtsp.Server.Invariants

/-!
# The index by host

What `handle_timeout_of_host` leaves of the tables.
-/

namespace Rtsp

variable {s : ServerState} {host : Address}

/-- A host without entries has nothing to time out. -/
lemma timeout_nothing (hnone : ∀ entry ∈ s.sessionsByHost, entry.1 ≠ host) :
    (∀ identifier, s.sessions.lookup identifier =
      if (host, identifier) ∈ s.sessionsByHost then none else s.sessions.lookup identifier) ∧
    s.sessionsByHost = s.sessionsByHost.filter (·.1 ≠ host) := by
  refine ⟨fun identifier => (if_neg fun hmem => hnone _ hmem rfl).symm, ?_⟩
  exact (List.filter_eq_self.mpr fun entry hmem => decide_eq_true (hnone entry hmem)).symm

/-- Enough turns of the loop delete the sessions that are indexed under the host, and the entries
of the host. -/
lemma timeoutLoop_spec {n : ℕ} (hn : s.sessionsByHost.countP (·.1 = host) ≤ n) :
    (∀ identifier, (ServerState.timeoutLoop host n s).sessions.lookup identifier =
      if (host, identifier) ∈ s.sessionsByHost then none else s.sessions.lookup identifier) ∧
    (ServerState.timeoutLoop host n s).sessionsByHost =
      s.sessionsByHost.filter (·.1 ≠ host) := by
  induction n generalizing s with
  | zero =>
    apply timeout_nothing
    intro entry hmem heq
    exact List.countP_eq_zero.mp (Nat.le_zero.mp hn) entry hmem (decide_eq_true heq)
  | succ n ih =>
    unfold ServerState.timeoutLoop
    cases hfind : s.sessionsByHost.find? (·.1 = host) with
    | none =>
      apply timeout_nothing
      intro entry hmem heq
      exact List.find?_eq_none.mp hfind entry hmem (decide_eq_true heq)
    | some entry =>
      have hmem : entry ∈ s.sessionsByHost := List.mem_of_find?_eq_some hfind
      have hentry : entry.1 = host := by simpa using List.find?_some hfind
      have hcount : (s.sessionsByHost.erase entry).countP (·.1 = host) ≤ n := by
        rw [List.countP_erase, if_pos ⟨hmem, decide_eq_true hentry⟩]
        exact Nat.sub_le_of_le_add hn
      obtain ⟨hlookup, hindex⟩ := ih (s := ⟨s.sessions.erase entry.2, s.sessionsByHost.erase entry⟩)
        hcount
      refine ⟨fun identifier => (hlookup identifier).trans ?_, hindex.trans ?_⟩
      · dsimp only
        by_cases hid : identifier = entry.2
        · subst hid
          rw [Finmap.lookup_erase, ite_self, ← hentry, if_pos hmem]
        · have hother : (host, identifier) ≠ entry := fun h => hid (congrArg Prod.snd h)
          simp only [Finmap.lookup_erase_ne hid, List.mem_erase_of_ne hother]
      · dsimp only
        rw [← List.erase_filter]
        apply List.erase_of_not_mem
        intro hkept
        have hne : entry.1 ≠ host := by simpa using List.of_mem_filter hkept
        exact hne hentry

/-- A timeout deletes the sessions that are indexed under the host, and the entries of the host. -/
theorem handleTimeoutOfHost_spec (s : ServerState) (host : Address) :
    (∀ identifier, (s.handleTimeoutOfHost host).sessions.lookup identifier =
      if (host, identifier) ∈ s.sessionsByHost then none else s.sessions.lookup identifier) ∧
    (s.handleTimeoutOfHost host).sessionsByHost = s.sessionsByHost.filter (·.1 ≠ host) :=
  timeoutLoop_spec List.countP_le_length

end Rtsp
