import StreamingLib.Rtsp.Server.State

/-!
# Invariants of the sessions

A property of sessions that a new one has and that every method and every handler of a sender
keeps holds of all live sessions in every state of every run.
-/

namespace Rtsp

open Transition

/-- Every live session has the property `P`. -/
def ServerState.All (P : Text → ServerSession → Prop) (s : ServerState) : Prop :=
  ∀ identifier session, s.sessions.lookup identifier = some session → P identifier session

/-- What is true of a session when it is created and kept by whatever happens to it. -/
structure SessionInvariant (env : Environment) (P : Text → ServerSession → Prop) : Prop where
  new (identifier : Text) : P identifier { identifier := identifier }
  seen {identifier : Text} {session : ServerSession} (requester : Address) :
    P identifier session → P identifier { session with lastSeenRequestAddress := requester }
  method {identifier : Text} {session : ServerSession} {draws : Draws}
    {entry : Text × MethodImplementation} (request : InternalRequest) :
    entry ∈ methods env draws → P identifier session → P identifier (entry.2 session request).1
  sender {identifier : Text} {session session' : ServerSession} {event : Rtp.SenderEvent} :
    P identifier session → session.stepSender event = some session' → P identifier session'

section

variable {env : Environment} {P : Text → ServerSession → Prop} {s : ServerState}

lemma ServerState.All.insert (h : s.All P) {identifier : Text} {session : ServerSession}
    (hsession : P identifier session) (byHost : List (Address × Text)) :
    ServerState.All P ⟨s.sessions.insert identifier session, byHost⟩ := by
  intro identifier' session' hlookup
  by_cases hid : identifier' = identifier
  · subst hid
    rw [Finmap.lookup_insert, Option.some.injEq] at hlookup
    exact hlookup ▸ hsession
  · rw [Finmap.lookup_insert_of_ne _ hid] at hlookup
    exact h _ _ hlookup

lemma ServerState.All.delete (h : s.All P) (identifier : Text) (byHost : List (Address × Text)) :
    ServerState.All P ⟨s.sessions.erase identifier, byHost⟩ := by
  intro identifier' session' hlookup
  by_cases hid : identifier' = identifier
  · subst hid
    rw [Finmap.lookup_erase] at hlookup
    cases hlookup
  · rw [Finmap.lookup_erase_ne hid] at hlookup
    exact h _ _ hlookup

lemma mem_methods {draws : Draws} {name : Text} {method : MethodImplementation}
    (h : (methods env draws).lookup name = some method) : (name, method) ∈ methods env draws := by
  obtain ⟨before, after, heq, -⟩ := List.lookup_eq_some_iff.mp h
  rw [heq]
  exact List.mem_append_right before List.mem_cons_self

lemma ServerState.All.emplaceSession (hP : SessionInvariant env P) (h : s.All P)
    (identifier : Text) (requester : Address) :
    (s.emplaceSession identifier requester).1.All P ∧
      P identifier (s.emplaceSession identifier requester).2 := by
  have hsession : P identifier (s.emplaceSession identifier requester).2 := by
    apply hP.seen
    cases hlookup : s.sessions.lookup identifier with
    | none => exact hP.new identifier
    | some session => exact h _ _ hlookup
  exact ⟨h.insert hsession _, hsession⟩

lemma ServerState.All.handleSetup (hP : SessionInvariant env P) (h : s.All P) (draws : Draws)
    (request : InternalRequest) (requester : Address) :
    (s.handleSetup env draws request requester).1.All P := by
  obtain ⟨hall, hsession⟩ := h.emplaceSession hP draws.identifier requester
  unfold ServerState.handleSetup
  cases hmethod : (methods env draws).lookup request.1.methodOrExtension with
  | none => exact hall
  | some method => exact hall.insert (hP.method request (mem_methods hmethod) hsession) _

lemma ServerState.All.handleMethod (hP : SessionInvariant env P) (h : s.All P) {draws : Draws}
    {entry : Text × MethodImplementation} (hmem : entry ∈ methods env draws)
    (identifier cseq : Text) (request : InternalRequest) (requester : Address) :
    (s.handleMethod entry.2 identifier cseq request requester).1.All P := by
  unfold ServerState.handleMethod
  cases hlookup : s.sessions.lookup identifier with
  | none => exact h
  | some session =>
    have hcall := h.insert (hP.method request hmem (hP.seen requester (h _ _ hlookup)))
      s.sessionsByHost
    dsimp only
    split
    · exact hcall
    · split_ifs
      · exact hcall.delete identifier _
      · exact hcall

lemma ServerState.All.handleIncomingRequest (hP : SessionInvariant env P) (h : s.All P)
    (draws : Draws) (request : Request) (requester : Address) :
    (s.handleIncomingRequest env draws request requester).1.All P := by
  unfold ServerState.handleIncomingRequest
  dsimp only
  split_ifs
  · exact h
  · exact h
  · exact h
  · exact h
  · exact h.handleSetup hP draws _ requester
  · split
    · exact h
    · split
      · next hmethod => exact h.handleMethod hP (mem_methods hmethod) _ _ _ requester
      · exact h

lemma ServerState.All.timeoutLoop (h : s.All P) (host : Address) (n : ℕ) :
    (ServerState.timeoutLoop host n s).All P := by
  induction n generalizing s with
  | zero => exact h
  | succ n ih =>
    unfold ServerState.timeoutLoop
    split
    · exact h
    · exact ih (h.delete _ _)

/-- What is invariant of a session holds of all live sessions in every state reached. -/
theorem SessionInvariant.reachable {ok : ServerState → ServerEvent → Prop}
    (hP : SessionInvariant env P) (hs : (serverSystem env).Reachable ok s) : s.All P := by
  apply hs.invariant
  · rintro _ rfl identifier session hlookup
    rw [Finmap.lookup_empty] at hlookup
    cases hlookup
  · intro s event s' h _ hstep
    cases event with
    | request draws request requester =>
      cases hstep
      exact h.handleIncomingRequest hP draws request requester
    | timeout host =>
      cases hstep
      exact h.timeoutLoop host _
    | sender identifier event =>
      obtain ⟨session, hlookup, hstep⟩ := Option.bind_eq_some_iff.mp hstep
      obtain ⟨session', hsender, rfl⟩ := Option.map_eq_some_iff.mp hstep
      exact h.insert (hP.sender (h _ _ hlookup) hsender) _

end

/-! ### Identifiers -/

lemma stepSender_identifier {session session' : ServerSession} {event : Rtp.SenderEvent}
    (h : session.stepSender event = some session') : session'.identifier = session.identifier := by
  unfold ServerSession.stepSender at h
  split_ifs at h
  obtain ⟨sender, -, h⟩ := Option.bind_eq_some_iff.mp h
  obtain ⟨sender', -, rfl⟩ := Option.map_eq_some_iff.mp h
  rfl

lemma method_identifier {env : Environment} {draws : Draws} {entry : Text × MethodImplementation}
    (h : entry ∈ methods env draws) (session : ServerSession) (request : InternalRequest) :
    (entry.2 session request).1.identifier = session.identifier := by
  simp only [methods, List.mem_cons, List.not_mem_nil, or_false] at h
  rcases h with rfl | rfl | rfl | rfl | rfl
  · rfl
  · rcases setup_cases env draws session request with
      ⟨hkept, -⟩ | ⟨ssrc, source, fecK, response, -, -, hsetup⟩
    · exact congrArg _ hkept
    · exact congrArg (·.1.identifier) hsetup
  · rfl
  · rcases play_cases session request with hkept | ⟨sender, response, -, -, -, hplay⟩
    · exact congrArg _ hkept
    · exact congrArg (·.1.identifier) hplay
  · rcases pause_cases session request with hkept | ⟨sender, response, -, -, -, hpause⟩
    · exact congrArg _ hkept
    · exact congrArg (·.1.identifier) hpause

/-- Every session is stored under its own identifier. -/
theorem identifier_invariant (env : Environment) :
    SessionInvariant env fun identifier session => session.identifier = identifier where
  new _ := rfl
  seen _ h := h
  method request hmem h := (method_identifier hmem _ request).trans h
  sender h hstep := (stepSender_identifier hstep).trans h

/-! ### Senders -/

/-- A session that is ready or playing has a sender, and none is recording. -/
structure ServerSession.HasSender (session : ServerSession) : Prop where
  sender : session.sessionState = .ready ∨ session.sessionState = .playing →
    session.rtpSession.isSome = true
  notRecording : session.sessionState ≠ .recording

lemma hasSender_method {env : Environment} {draws : Draws} {entry : Text × MethodImplementation}
    (h : entry ∈ methods env draws) {session : ServerSession} (hs : session.HasSender)
    (request : InternalRequest) : (entry.2 session request).1.HasSender := by
  simp only [methods, List.mem_cons, List.not_mem_nil, or_false] at h
  rcases h with rfl | rfl | rfl | rfl | rfl
  · exact hs
  · change (setup env draws session request).1.HasSender
    rcases setup_cases env draws session request with
      ⟨hkept, -⟩ | ⟨ssrc, source, fecK, response, -, -, hsetup⟩
    · rw [hkept]
      exact hs
    · rw [hsetup]
      exact ⟨fun _ => rfl, by simp⟩
  · exact hs
  · change (play session request).1.HasSender
    rcases play_cases session request with hkept | ⟨sender, response, -, -, -, hplay⟩
    · rw [hkept]
      exact hs
    · rw [hplay]
      exact ⟨fun _ => rfl, by simp⟩
  · change (pause session request).1.HasSender
    rcases pause_cases session request with hkept | ⟨sender, response, -, -, -, hpause⟩
    · rw [hkept]
      exact hs
    · rw [hpause]
      exact ⟨fun _ => rfl, by simp⟩

lemma stepSender_hasSender {session session' : ServerSession} {event : Rtp.SenderEvent}
    (hs : session.HasSender) (h : session.stepSender event = some session') :
    session'.HasSender := by
  unfold ServerSession.stepSender at h
  split_ifs at h
  obtain ⟨sender, -, h⟩ := Option.bind_eq_some_iff.mp h
  obtain ⟨sender', -, rfl⟩ := Option.map_eq_some_iff.mp h
  exact ⟨fun _ => rfl, hs.notRecording⟩

/-- Every session that is ready or playing has a sender. -/
theorem sender_invariant (env : Environment) :
    SessionInvariant env fun _ session => session.HasSender where
  new _ := ⟨nofun, nofun⟩
  seen _ h := ⟨h.sender, h.notRecording⟩
  method request hmem h := hasSender_method hmem h request
  sender h hstep := stepSender_hasSender h hstep

end Rtsp
