import StreamingLib.Rtsp.Server.Invariants

/-!
# Failed requests

What a request that fails leaves behind. A SETUP creates its session before anything is checked,
and the session stays when the request is refused.
-/

namespace Rtsp

open Transition

/-- The state and the sender of a session, nothing if it is not live. -/
def ServerState.view (s : ServerState) (identifier : Text) :
    Option (SessionState × Option Rtp.Sender) :=
  (s.sessions.lookup identifier).map fun session => (session.sessionState, session.rtpSession)

/-- A failed method leaves its session alone. -/
lemma method_failed {env : Environment} {draws : Draws} {entry : Text × MethodImplementation}
    (h : entry ∈ methods env draws) {session : ServerSession} {request : InternalRequest}
    (hfail : Failed (entry.2 session request).2) : (entry.2 session request).1 = session := by
  simp only [methods, List.mem_cons, List.not_mem_nil, or_false] at h
  rcases h with rfl | rfl | rfl | rfl | rfl
  · rfl
  · rcases setup_cases env draws session request with
      ⟨hkept, -⟩ | ⟨ssrc, source, fecK, response, -, hsuccess, hsetup⟩
    · exact hkept
    · change Failed (setup env draws session request).2 at hfail
      rw [hsetup] at hfail
      exact absurd hfail (not_failed_ok hsuccess)
  · rfl
  · rcases play_cases session request with hkept | ⟨sender, response, -, -, hsuccess, hplay⟩
    · exact hkept
    · change Failed (play session request).2 at hfail
      rw [hplay] at hfail
      exact absurd hfail (not_failed_ok hsuccess)
  · rcases pause_cases session request with hkept | ⟨sender, response, -, -, hsuccess, hpause⟩
    · exact hkept
    · change Failed (pause session request).2 at hfail
      rw [hpause] at hfail
      exact absurd hfail (not_failed_ok hsuccess)

lemma view_insert (s : ServerState) (identifier : Text) (session : ServerSession)
    (byHost : List (Address × Text)) :
    ServerState.view ⟨s.sessions.insert identifier session, byHost⟩ =
      Function.update s.view identifier (some (session.sessionState, session.rtpSession)) := by
  funext identifier'
  by_cases hid : identifier' = identifier
  · subst hid
    rw [Function.update_self, ServerState.view, Finmap.lookup_insert]
    rfl
  · rw [Function.update_of_ne hid, ServerState.view, Finmap.lookup_insert_of_ne _ hid]
    rfl

lemma view_of_lookup {s : ServerState} {identifier : Text} {session : ServerSession}
    (h : s.sessions.lookup identifier = some session) :
    s.view identifier = some (session.sessionState, session.rtpSession) := by
  rw [ServerState.view, h]
  rfl

lemma teardown_of_mem {env : Environment} {draws : Draws} {method : MethodImplementation}
    (h : (str "TEARDOWN", method) ∈ methods env draws) : method = teardown := by
  simp only [methods, List.mem_cons, List.not_mem_nil, or_false, Prod.mk.injEq] at h
  rcases h with ⟨h, -⟩ | ⟨h, -⟩ | ⟨-, h⟩ | ⟨h, -⟩ | ⟨h, -⟩
  · exact absurd h (by decide)
  · exact absurd h (by decide)
  · exact h
  · exact absurd h (by decide)
  · exact absurd h (by decide)

/-- A failed call of a method on a live session changes nothing that can be seen of it. -/
lemma call_failed {s : ServerState} {env : Environment} {draws : Draws}
    {entry : Text × MethodImplementation} (hmem : entry ∈ methods env draws) {identifier : Text}
    {session : ServerSession} (hsession : s.view identifier =
      some (session.sessionState, session.rtpSession)) {request : InternalRequest}
    (hfail : Failed (s.call identifier session entry.2 request).2) :
    (s.call identifier session entry.2 request).1.view = s.view := by
  rw [ServerState.call, method_failed hmem hfail, view_insert, Function.update_eq_self_iff]
  exact hsession.symm

/-- A failed request with a method on a session changes nothing that can be seen. -/
lemma handleMethod_failed {s : ServerState} {env : Environment} {draws : Draws}
    {method : MethodImplementation} (identifier cseq : Text) {request : InternalRequest}
    (requester : Address) (hmem : (request.1.methodOrExtension, method) ∈ methods env draws)
    (hcseq : request.2.lookup (str "cseq") ≠ none)
    (hfail : Failed (s.handleMethod method identifier cseq request requester).2) :
    (s.handleMethod method identifier cseq request requester).1.view = s.view ∧
      (s.handleMethod method identifier cseq request requester).1.sessionsByHost =
        s.sessionsByHost := by
  unfold ServerState.handleMethod at hfail ⊢
  cases hlookup : s.sessions.lookup identifier with
  | none => exact ⟨rfl, rfl⟩
  | some session =>
    rw [hlookup] at hfail
    dsimp only at hfail ⊢
    have hview := view_of_lookup hlookup
    have hcall := @call_failed s env draws _ hmem identifier
      { session with lastSeenRequestAddress := requester } hview request
    cases hresult : (s.call identifier { session with lastSeenRequestAddress := requester } method
      request).2 with
    | error fault => exact ⟨hcall (by rw [hresult]; exact failed_error fault), rfl⟩
    | ok response =>
      rw [hresult] at hfail
      dsimp only at hfail ⊢
      split_ifs at hfail ⊢ with hteardown
      · rw [hteardown] at hmem
        obtain rfl := teardown_of_mem hmem
        exact absurd (hresult ▸ hfail) (teardown_not_failed hcseq)
      · exact ⟨hcall hfail, rfl⟩

/-- The creation of a session, before the method is called. -/
lemma emplaceSession_view {s : ServerState} (hs : s.All fun identifier session =>
      session.identifier = identifier) (identifier : Text) (requester : Address) :
    (s.emplaceSession identifier requester).1.view =
        Function.update s.view identifier (some ((s.view identifier).getD (.init, none))) ∧
      (s.emplaceSession identifier requester).1.sessionsByHost =
        s.sessionsByHost ++ [(requester, identifier)] ∧
      (s.view identifier).getD (.init, none) =
        ((s.emplaceSession identifier requester).2.sessionState,
          (s.emplaceSession identifier requester).2.rtpSession) := by
  unfold ServerState.emplaceSession
  cases hlookup : s.sessions.lookup identifier with
  | none =>
    have hview : s.view identifier = none := by rw [ServerState.view, hlookup]; rfl
    rw [hview]
    exact ⟨view_insert s identifier _ _, rfl, rfl⟩
  | some session =>
    rw [view_of_lookup hlookup]
    refine ⟨view_insert s identifier _ _, ?_, rfl⟩
    dsimp only [Option.getD_some]
    rw [hs identifier session hlookup]

lemma handleSetup_failed {s : ServerState} {env : Environment} {draws : Draws}
    (hs : s.All fun identifier session => session.identifier = identifier)
    {request : InternalRequest} (requester : Address)
    (hfail : Failed (s.handleSetup env draws request requester).2) :
    (s.handleSetup env draws request requester).1.view = Function.update s.view draws.identifier
        (some ((s.view draws.identifier).getD (.init, none))) ∧
      (s.handleSetup env draws request requester).1.sessionsByHost =
        s.sessionsByHost ++ [(requester, draws.identifier)] := by
  obtain ⟨hview, hhost, hsession⟩ := emplaceSession_view hs draws.identifier requester
  unfold ServerState.handleSetup at hfail ⊢
  generalize s.emplaceSession draws.identifier requester = inserted at *
  cases hmethod : (methods env draws).lookup request.1.methodOrExtension with
  | none => exact ⟨hview, hhost⟩
  | some method =>
    rw [hmethod] at hfail
    refine ⟨(call_failed (mem_methods hmethod) ?_ hfail).trans hview, hhost⟩
    rw [hview, Function.update_self, hsession]

/-- A failed request changes nothing that can be seen of the sessions, except that a SETUP which
creates a session leaves it in the tables, in state init and without a sender if it is new. -/
theorem failed_request (env : Environment) {s : ServerState}
    (hs : (serverSystem env).Reachable Always s) (draws : Draws) (request : Request)
    (requester : Address)
    (hfail : Failed (s.handleIncomingRequest env draws request requester).2) :
    (¬CreatesSession request →
      (s.handleIncomingRequest env draws request requester).1.view = s.view ∧
      (s.handleIncomingRequest env draws request requester).1.sessionsByHost =
        s.sessionsByHost) ∧
    (CreatesSession request →
      (s.handleIncomingRequest env draws request requester).1.view =
        Function.update s.view draws.identifier
          (some ((s.view draws.identifier).getD (.init, none))) ∧
      (s.handleIncomingRequest env draws request requester).1.sessionsByHost =
        s.sessionsByHost ++ [(requester, draws.identifier)]) := by
  have hid := (identifier_invariant env).reachable hs
  unfold ServerState.handleIncomingRequest at hfail ⊢
  dsimp only at hfail ⊢
  split_ifs at hfail ⊢ with hcseq hoptions hdescribe hsession hsetup
  · exact ⟨fun _ => ⟨rfl, rfl⟩, fun h => absurd hcseq h.1⟩
  · refine ⟨fun _ => ⟨rfl, rfl⟩, fun h => absurd (hoptions.symm.trans h.2.1) (by decide)⟩
  · refine ⟨fun _ => ⟨rfl, rfl⟩, fun h => absurd (hdescribe.symm.trans h.2.1) (by decide)⟩
  · refine ⟨fun _ => ⟨rfl, rfl⟩, fun h => ?_⟩
    rw [h.2.2] at hsession
    exact absurd hsession.2 Bool.false_ne_true
  · refine ⟨fun h => absurd ⟨hcseq, hsetup, ?_⟩ h, fun _ => handleSetup_failed hid requester hfail⟩
    rw [hsetup] at hsession
    exact Option.not_isSome_iff_eq_none.mp fun h => hsession ⟨rfl, h⟩
  · refine ⟨fun _ => ?_, fun h => absurd h.2.1 hsetup⟩
    have hsome : (normalizeHeaders request.headers).lookup (str "cseq") ≠ none := by
      intro hnone
      rw [hnone] at hcseq
      exact hcseq rfl
    cases hidentifier : (normalizeHeaders request.headers).lookup (str "session") with
    | none => exact ⟨rfl, rfl⟩
    | some identifier =>
      rw [hidentifier] at hfail
      cases hmethod : (methods env draws).lookup request.methodOrExtension with
      | none => exact ⟨rfl, rfl⟩
      | some method =>
        rw [hmethod] at hfail
        exact handleMethod_failed identifier _ requester (mem_methods hmethod) hsome hfail

def pauseMovie : Request := movieRequest (str "PAUSE") [(str "Session", str "a")]

/-- A SETUP without a Transport header. -/
def setupWithoutTransport : Request where
  methodOrExtension := str "SETUP"
  uri := str "rtsp://localhost/movie"
  rtspVersionMajor := 1
  rtspVersionMinor := 0
  headers := [(str "CSeq", str "1")]

lemma setupWithoutTransport_failed :
    Failed (ServerState.handleIncomingRequest {} emptyRoot { identifier := str "a" }
      setupWithoutTransport default).2 := by
  decide

lemma setupWithoutTransport_createsSession : CreatesSession setupWithoutTransport := by
  decide

/-- The session of the movie is ready. PAUSE is refused for it, and so is another SETUP, which
leaves its own session behind. -/
theorem failed_request_setup :
    ∃ s ∈ (serverSystem emptyRoot).step {} (.request { identifier := str "a" } setupMovie default),
      (s.view (str "a")).map Prod.fst = some .ready ∧
      (s.handleIncomingRequest emptyRoot {} pauseMovie default).1.view = s.view ∧
      (s.handleIncomingRequest emptyRoot {} pauseMovie default).1.sessionsByHost =
        [(default, str "a")] ∧
      (s.handleIncomingRequest emptyRoot { identifier := str "b" } setupWithoutTransport
        default).1.view = Function.update s.view (str "b") (some (.init, none)) ∧
      (s.handleIncomingRequest emptyRoot { identifier := str "b" } setupWithoutTransport
        default).1.sessionsByHost = [(default, str "a"), (default, str "b")] := by
  obtain ⟨s, hstep, hready, hfresh, hhost, hpause, hsetup⟩ :
      ∃ s ∈ (serverSystem emptyRoot).step {}
          (.request { identifier := str "a" } setupMovie default),
        (s.view (str "a")).map Prod.fst = some .ready ∧ str "b" ∉ s.sessions ∧
        s.sessionsByHost = [(default, str "a")] ∧
        Failed (s.handleIncomingRequest emptyRoot {} pauseMovie default).2 ∧
        Failed (s.handleIncomingRequest emptyRoot { identifier := str "b" } setupWithoutTransport
          default).2 := by
    decide +kernel
  have hs : (serverSystem emptyRoot).Reachable Always s := .step (.init rfl) trivial hstep
  obtain ⟨hview, hentries⟩ :=
    (failed_request emptyRoot hs {} pauseMovie default hpause).1 (by decide)
  obtain ⟨hview', hentries'⟩ :=
    (failed_request emptyRoot hs { identifier := str "b" } setupWithoutTransport default
      hsetup).2 setupWithoutTransport_createsSession
  have hnone : s.view (str "b") = none := by
    rw [ServerState.view, Finmap.lookup_eq_none.mpr hfresh]
    rfl
  rw [hnone] at hview'
  rw [hhost] at hentries hentries'
  exact ⟨s, hstep, hready, hview, hentries, hview', hentries'⟩

/-- The session of a refused SETUP stays in the tables. -/
theorem failed_request_not_atomic :
    ¬∀ (env : Environment) (s : ServerState), (serverSystem env).Reachable Always s →
      ∀ draws request requester,
        Failed (s.handleIncomingRequest env draws request requester).2 →
        (s.handleIncomingRequest env draws request requester).1.view = s.view ∧
        (s.handleIncomingRequest env draws request requester).1.sessionsByHost =
          s.sessionsByHost := by
  intro h
  obtain ⟨-, hhost⟩ := h emptyRoot {} (.init rfl) { identifier := str "a" } setupWithoutTransport
    default setupWithoutTransport_failed
  have hadded : (ServerState.handleIncomingRequest {} emptyRoot { identifier := str "a" }
      setupWithoutTransport default).1.sessionsByHost = [(default, str "a")] := by
    decide
  rw [hadded] at hhost
  cases hhost

end Rtsp
