import StreamingLib.Rtsp.Server.ConnectionTimeout

/-!
# Sessions are supervised

If the handlers of the timers are not late, no session outlives its host by much: the host of a
live session has a connection, and it has been heard in the last two periods.
-/

namespace Rtsp

open Transition

/-! ### Handlers on time -/

section OnTime

variable {env : Environment} {latency : ℕ} {s s' : TimedServer} {event : TimedEvent}
  {c : TimedConnection} {now now' : ℕ}

/-- When the next handler of the timer is due. -/
def TimeoutTimer.due : TimeoutTimer → Option ℕ
  | .waiting expiry => some expiry
  | .timingOut since => some since
  | .ended => none

/-- No handler of a timer, and no call of `handle_timeout_of_host`, takes longer than the latency
after it is due. -/
def OnTime (latency : ℕ) (s : TimedServer) : TimedEvent → Prop
  | .tick elapsed =>
    ∀ c ∈ s.connections, ∀ due ∈ c.timeoutTimer.due, s.now + elapsed ≤ due + latency
  | _ => True

/-- No connection is reset, and who sets up a session over UDP has a connection. -/
def Accountable (s : TimedServer) : TimedEvent → Prop
  | .disconnect _ reset => reset = false
  | .datagram _ message requester => (parseRequest message).ok = true →
    CreatesSession (parseRequest message).attr →
      ∃ c ∈ s.connections, c.remoteAddress = requester ∧ c.timeoutTimer ≠ .ended
  | _ => True

/-- A timer that is not overdue, and how long the connection may have been silent. -/
inductive TimedConnection.Timely (latency now : ℕ) (c : TimedConnection) : Prop
  | waiting (expiry : ℕ) (htimer : c.timeoutTimer = .waiting expiry)
      (hexpiry : expiry ≤ c.lastRequestTimePoint + 2 * timeoutPeriod)
      (hnow : now ≤ expiry + latency)
  | timingOut (since : ℕ) (htimer : c.timeoutTimer = .timingOut since)
      (hsince : since ≤ c.lastRequestTimePoint + 2 * timeoutPeriod + latency)
      (hnow : now ≤ since + latency)
  | ended (htimer : c.timeoutTimer = .ended)

namespace TimedConnection.Timely

lemma start (remoteAddress : Address) (now : ℕ) :
    (TimedConnection.start remoteAddress now).Timely latency now := by
  refine .waiting _ rfl ?_ ?_
  · simp only [TimedConnection.start]
    omega
  · omega

lemma tick (h : c.Timely latency now)
    (hdue : ∀ due ∈ c.timeoutTimer.due, now' ≤ due + latency) : c.Timely latency now' := by
  cases h with
  | waiting expiry htimer hexpiry hnow =>
    refine .waiting expiry htimer hexpiry (hdue expiry ?_)
    rw [htimer]
    rfl
  | timingOut since htimer hsince hnow =>
    refine .timingOut since htimer hsince (hdue since ?_)
    rw [htimer]
    rfl
  | ended htimer => exact .ended htimer

lemma headerRead (h : c.Timely latency now) (hlast : c.lastRequestTimePoint ≤ now)
    (answered : Bool) : (c.headerRead now answered).Timely latency now := by
  cases h with
  | waiting expiry htimer hexpiry hnow =>
    refine .waiting expiry htimer (hexpiry.trans ?_) hnow
    exact Nat.add_le_add_right hlast _
  | timingOut since htimer hsince hnow =>
    refine .timingOut since htimer (hsince.trans ?_) hnow
    exact Nat.add_le_add_right (Nat.add_le_add_right hlast _) _
  | ended htimer => exact .ended htimer

lemma disconnect (h : c.Timely latency now) (reset : Bool) :
    (c.disconnect reset).Timely latency now := by
  cases h with
  | waiting expiry htimer hexpiry hnow => exact .waiting expiry htimer hexpiry hnow
  | timingOut since htimer hsince hnow => exact .timingOut since htimer hsince hnow
  | ended htimer => exact .ended htimer

lemma timeoutCheck (h : c.Timely latency now) {expiry : ℕ}
    (htimer : c.timeoutTimer = .waiting expiry) (hdue : expiry ≤ now)
    (hconnected : c.connected = true) : (c.timeoutCheck now expiry).Timely latency now := by
  cases h with
  | waiting expiry' htimer' hexpiry hnow =>
    rw [htimer] at htimer'
    cases htimer'
    rcases le_or_gt now (c.lastRequestTimePoint + timeoutPeriod) with hheard | hsilent
    · -- the next expiry is one period after the one that is due
      refine .waiting _ (TimedConnection.timeoutCheck_heard expiry hheard) ?_ ?_
      · rw [TimedConnection.timeoutCheck_lastRequestTimePoint]
        omega
      · omega
    · refine .timingOut now (TimedConnection.timeoutCheck_silent expiry hsilent hconnected) ?_ ?_
      · rw [TimedConnection.timeoutCheck_lastRequestTimePoint]
        omega
      · omega
  | timingOut since htimer' hsince hnow =>
    rw [htimer] at htimer'
    cases htimer'
  | ended htimer' =>
    rw [htimer] at htimer'
    cases htimer'

end TimedConnection.Timely

/-- The host has an open connection. -/
def TimedServer.HasConnection (s : TimedServer) (host : Address) : Prop :=
  ∃ c ∈ s.connections, c.remoteAddress = host ∧ c.timeoutTimer ≠ .ended

/-- The timers are on time, and every host with an entry has a connection. -/
structure Supervised (env : Environment) (latency : ℕ) (s : TimedServer) : Prop where
  recorded : s.Recorded env
  connected : ∀ c ∈ s.connections, c.connected = true
  last : ∀ c ∈ s.connections, c.lastRequestTimePoint ≤ s.now
  timely : ∀ c ∈ s.connections, c.Timely latency s.now
  attended : FreshIdentifiers s.handled →
    ∀ entry ∈ s.server.sessionsByHost, s.HasConnection entry.1

/-- What an event of the server leaves of the index was there before, or is the entry of the
session that it has created. -/
lemma Serves.entries {serverEvent : ServerEvent} (hserves : Serves env s s' serverEvent)
    (hrecorded : s.Recorded env) (hfresh : FreshIdentifiers s'.handled)
    {entry : Address × Text} (hmem : entry ∈ s'.server.sessionsByHost) :
    entry ∈ s.server.sessionsByHost ∨ serverEvent.created = some (entry.2, entry.1) := by
  rw [hserves.handled] at hfresh
  have htracks := tracks_run env hfresh.of_concat hrecorded
  have hstart : (serverSystem env).Reachable Always {} := .init rfl
  have hsender := (sender_invariant env).reachable
    (hstart.run (System.meets_always _ _ _) hrecorded)
  cases TablesStep.of_step htracks hsender hfresh hserves.server with
  | created identifier host state hcreated htorn hstate hindex =>
    rw [hindex, List.mem_append, List.mem_singleton] at hmem
    refine hmem.imp_right ?_
    rintro rfl
    exact hcreated
  | deleted identifier hcreated htorn hstate hindex => exact Or.inl (hindex ▸ hmem)
  | timedOut host hevent hstate hindex =>
    rw [hindex] at hmem
    exact Or.inl (List.mem_of_mem_filter hmem)
  | kept hcreated htorn hstate hindex => exact Or.inl (hindex ▸ hmem)

namespace TimedServer.HasConnection

variable {host : Address}

lemma setConnection {i : ℕ} {c' : TimedConnection} (h : s.HasConnection host)
    (hc : s.connections[i]? = some c) (haddress : c'.remoteAddress = c.remoteAddress)
    (hopen : c.timeoutTimer ≠ .ended → c'.timeoutTimer ≠ .ended) :
    (s.setConnection i c').HasConnection host := by
  obtain ⟨d, hmem, hhost, hd⟩ := h
  obtain ⟨j, hj⟩ := List.mem_iff_getElem?.mp hmem
  by_cases hij : i = j
  · subst hij
    rw [hc] at hj
    cases hj
    exact ⟨c', List.mem_set (List.getElem?_eq_some_iff.mp hc).1 c', haddress.trans hhost,
      hopen hd⟩
  · refine ⟨d, List.mem_iff_getElem?.mpr ⟨j, ?_⟩, hhost, hd⟩
    exact (List.getElem?_set_ne hij).trans hj

/-- The connections of other hosts stay. -/
lemma set_other {i : ℕ} {c' : TimedConnection} (h : s.HasConnection host)
    (hc : s.connections[i]? = some c) (haddress : c.remoteAddress ≠ host) :
    (s.setConnection i c').HasConnection host := by
  obtain ⟨d, hmem, hhost, hd⟩ := h
  obtain ⟨j, hj⟩ := List.mem_iff_getElem?.mp hmem
  have hij : i ≠ j := by
    rintro rfl
    rw [hc] at hj
    cases hj
    exact haddress hhost
  exact ⟨d, List.mem_iff_getElem?.mpr ⟨j, (List.getElem?_set_ne hij).trans hj⟩, hhost, hd⟩

lemma congr (h : s.HasConnection host) (hconnections : s'.connections = s.connections) :
    s'.HasConnection host := by
  rw [HasConnection, hconnections]
  exact h

end TimedServer.HasConnection

namespace Supervised

lemma init : Supervised env latency {} where
  recorded := rfl
  connected _ hmem := absurd hmem List.not_mem_nil
  last _ hmem := absurd hmem List.not_mem_nil
  timely _ hmem := absurd hmem List.not_mem_nil
  attended _ _ hmem := absurd hmem List.not_mem_nil

/-- An event of the server, if a host that sets up a session has a connection. -/
lemma serves {serverEvent : ServerEvent} (h : Supervised env latency s)
    (hserves : Serves env s s' serverEvent)
    (hcreated : ∀ created ∈ serverEvent.created, s.HasConnection created.2) :
    Supervised env latency s' where
  recorded := hserves.recorded h.recorded
  connected := hserves.connections ▸ h.connected
  last := hserves.connections ▸ hserves.now ▸ h.last
  timely := hserves.connections ▸ hserves.now ▸ h.timely
  attended hfresh entry hmem := by
    rcases hserves.entries h.recorded hfresh hmem with hentry | hentry
    · rw [hserves.handled] at hfresh
      exact (h.attended hfresh.of_concat entry hentry).congr hserves.connections
    · exact (hcreated _ hentry).congr hserves.connections

lemma servesText {draws : Draws} {text : Text} {requester : Address}
    (h : Supervised env latency s) (hserves : ServesText env s draws text requester s')
    (hcreates : (parseRequest text).ok = true → CreatesSession (parseRequest text).attr →
      s.HasConnection requester) : Supervised env latency s' := by
  cases hserves with
  | ignored => exact h
  | served hok hserves =>
    refine h.serves hserves fun created hcreated => ?_
    simp only [ServerEvent.created, Option.mem_def, Option.ite_none_right_eq_some] at hcreated
    obtain ⟨hsession, hcreated⟩ := hcreated
    cases hcreated
    exact hcreates hok hsession

/-- A connection that stays as open as it was. -/
lemma setConnection {i : ℕ} {c' : TimedConnection} (h : Supervised env latency s)
    (hc : s.connections[i]? = some c) (haddress : c'.remoteAddress = c.remoteAddress)
    (hopen : c.timeoutTimer ≠ .ended → c'.timeoutTimer ≠ .ended)
    (hconnected : c'.connected = true) (hlast : c'.lastRequestTimePoint ≤ s.now)
    (htimely : c'.Timely latency s.now) : Supervised env latency (s.setConnection i c') where
  recorded := h.recorded
  connected d hmem := by
    rcases mem_setConnection hmem with hmem | rfl
    · exact h.connected d hmem
    · exact hconnected
  last d hmem := by
    rcases mem_setConnection hmem with hmem | rfl
    · exact h.last d hmem
    · exact hlast
  timely d hmem := by
    rcases mem_setConnection hmem with hmem | rfl
    · exact h.timely d hmem
    · exact htimely
  attended hfresh entry hmem := (h.attended hfresh entry hmem).setConnection hc haddress hopen

/-- The connection of a host without entries is closed. -/
lemma close {i : ℕ} (h : Supervised env latency s) (hc : s.connections[i]? = some c)
    (hentries : ∀ entry ∈ s.server.sessionsByHost, entry.1 ≠ c.remoteAddress) :
    Supervised env latency (s.setConnection i c.close) where
  recorded := h.recorded
  connected d hmem := by
    rcases mem_setConnection hmem with hmem | rfl
    · exact h.connected d hmem
    · exact h.connected c (List.mem_of_getElem? hc)
  last d hmem := by
    rcases mem_setConnection hmem with hmem | rfl
    · exact h.last d hmem
    · exact h.last c (List.mem_of_getElem? hc)
  timely d hmem := by
    rcases mem_setConnection hmem with hmem | rfl
    · exact h.timely d hmem
    · exact .ended rfl
  attended hfresh entry hmem :=
    (h.attended hfresh entry hmem).set_other hc fun heq => hentries entry hmem heq.symm

lemma accept (h : Supervised env latency s) (remoteAddress : Address) :
    Supervised env latency
      { s with connections := s.connections ++ [.start remoteAddress s.now] } where
  recorded := h.recorded
  connected d hmem := by
    rcases List.mem_append.mp hmem with hmem | hmem
    · exact h.connected d hmem
    · rw [List.mem_singleton.mp hmem]
      rfl
  last d hmem := by
    rcases List.mem_append.mp hmem with hmem | hmem
    · exact h.last d hmem
    · rw [List.mem_singleton.mp hmem]
      exact le_rfl
  timely d hmem := by
    rcases List.mem_append.mp hmem with hmem | hmem
    · exact h.timely d hmem
    · rw [List.mem_singleton.mp hmem]
      exact .start remoteAddress s.now
  attended hfresh entry hmem := by
    obtain ⟨d, hd, hhost, hopen⟩ := h.attended hfresh entry hmem
    exact ⟨d, List.mem_append_left _ hd, hhost, hopen⟩

lemma tick (h : Supervised env latency s) {elapsed : ℕ}
    (hdue : OnTime latency s (.tick elapsed)) :
    Supervised env latency { s with now := s.now + elapsed } where
  recorded := h.recorded
  connected := h.connected
  last d hmem := (h.last d hmem).trans (Nat.le_add_right _ _)
  timely d hmem := (h.timely d hmem).tick (hdue d hmem)
  attended hfresh entry hmem := h.attended hfresh entry hmem

/-- What is supervised stays so as long as the handlers are on time. -/
lemma step (h : Supervised env latency s) (hontime : OnTime latency s event)
    (haccountable : Accountable s event) (hstep : TimedStep env s event s') :
    Supervised env latency s' := by
  cases hstep with
  | tick elapsed => exact h.tick hontime
  | accept remoteAddress => exact h.accept remoteAddress
  | @headerRead s₁ i c draws text answered hc hopen hserves =>
    have hmem := List.mem_of_getElem? hc
    have hserved : Supervised env latency s₁ :=
      h.servesText hserves fun _ _ => ⟨c, hmem, rfl, hopen⟩
    have hc₁ : s₁.connections[i]? = some c := hserves.connections ▸ hc
    have hnow : s.now = s₁.now := hserves.now.symm
    have hmem₁ := List.mem_of_getElem? hc₁
    rw [hnow]
    exact hserved.setConnection hc₁ rfl id (hserved.connected c hmem₁) le_rfl
      ((hserved.timely c hmem₁).headerRead (hserved.last c hmem₁) answered)
  | @disconnect i c reset hc =>
    have hmem := List.mem_of_getElem? hc
    obtain rfl : reset = false := haccountable
    refine h.setConnection hc rfl id ?_ (h.last c hmem) ((h.timely c hmem).disconnect false)
    rw [TimedConnection.disconnect, Bool.not_false, Bool.and_true]
    exact h.connected c hmem
  | @timeoutCheck i expiry c hc htimer hdue =>
    have hmem := List.mem_of_getElem? hc
    have htimely := (h.timely c hmem).timeoutCheck htimer hdue (h.connected c hmem)
    refine h.setConnection hc (TimedConnection.timeoutCheck_remoteAddress expiry)
      (fun _ => TimedConnection.timeoutCheck_open expiry (h.connected c hmem)) ?_ ?_ htimely
    · rw [TimedConnection.timeoutCheck_connected]
      exact h.connected c hmem
    · rw [TimedConnection.timeoutCheck_lastRequestTimePoint]
      exact h.last c hmem
  | @timedOut s₁ i since c hc htimer hserves =>
    have hserved : Supervised env latency s₁ := h.serves hserves nofun
    have hc₁ : s₁.connections[i]? = some c := hserves.connections ▸ hc
    refine hserved.close hc₁ fun entry hentry => ?_
    have hserver : s.server.handleTimeoutOfHost c.remoteAddress = s₁.server :=
      Option.some.inj hserves.server
    rw [← hserver, (handleTimeoutOfHost_spec s.server c.remoteAddress).2] at hentry
    exact of_decide_eq_true (List.mem_filter.mp hentry).2
  | datagram hserves => exact h.servesText hserves haccountable
  | sender hserves => exact h.serves hserves nofun

end Supervised

instance (latency : ℕ) (s : TimedServer) : (event : TimedEvent) →
    Decidable (OnTime latency s event ∧ Accountable s event)
  | .tick _ => inferInstanceAs (Decidable ((∀ _ ∈ _, ∀ _ ∈ _, _) ∧ True))
  | .disconnect _ _ => inferInstanceAs (Decidable (True ∧ _ = _))
  | .datagram _ _ _ => inferInstanceAs (Decidable (True ∧ (_ = _ → _ → ∃ _ ∈ _, _ ∧ ¬_)))
  | .accept _ | .headerRead _ _ _ | .timeoutCheck _ | .handleTimeoutOfHost _ | .sender _ _ =>
    inferInstanceAs (Decidable (True ∧ True))

end OnTime

end Rtsp
