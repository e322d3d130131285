import StreamingLib.Rtsp.Client.ServerTransport
import StreamingLib.Rtsp.Server.Faults

/-!
# Answers

Every response of the server is final and carries the CSeq of its request, and a SETUP that
succeeds names its session.
-/

namespace Rtsp

/-- A final response to the request with this CSeq. -/
structure Response.Answers (response : Response) (cseq : Text) : Prop where
  cseq : (normalizeHeaders response.headers).lookup (str "cseq") = some cseq
  final : 200 ≤ response.statusCode

/-- A status that has been decided on. -/
def Decided (statusCode : ℕ) : Prop :=
  200 ≤ statusCode ∧ statusCode ≠ unchangedResponse.statusCode

instance (statusCode : ℕ) : Decidable (Decided statusCode) := inferInstanceAs (Decidable (_ ∧ _))

/-- A decided response with one CSeq header, which is that of its request. Case does not
distinguish names. -/
structure Response.Correlated (response : Response) (cseq : Text) : Prop where
  cseq : response.headers.filter (fun header => toLowerCopy header.1 = str "cseq") =
    [(str "CSeq", cseq)]
  decided : Decided response.statusCode

lemma Response.Correlated.answers {response : Response} {cseq : Text}
    (h : response.Correlated cseq) : response.Answers cseq := by
  refine ⟨?_, h.decided.1⟩
  rw [lookup_normalizeHeaders, valuesOf, h.cseq]
  rfl

lemma Response.IsSuccess.decided {response : Response} (h : response.IsSuccess) :
    Decided response.statusCode := by
  refine ⟨h.1, fun heq => ?_⟩
  have := h.2
  rw [heq] at this
  exact absurd this (by decide)

/-- The CSeq is the first header, and the only one of its name. -/
lemma correlated_of_headers {response : Response} {cseq : Text} {headers : RawHeaders}
    (h : response.headers = (str "CSeq", cseq) :: headers)
    (hother : ∀ header ∈ headers, toLowerCopy header.1 ≠ str "cseq")
    (hdecided : Decided response.statusCode) : response.Correlated cseq := by
  refine ⟨?_, hdecided⟩
  have hname : toLowerCopy (str "CSeq") = str "cseq" := by decide
  have hnone : headers.filter (fun header => toLowerCopy header.1 = str "cseq") = [] := by
    rw [List.filter_eq_nil_iff]
    exact fun header hmem heq => hother header hmem (of_decide_eq_true heq)
  rw [h, List.filter_cons_of_pos (by simpa using hname), hnone]

lemma refusal_correlated (cseq : Text) {statusCode : ℕ} (reasonPhrase : Text)
    (hdecided : Decided statusCode) : (refusal cseq statusCode reasonPhrase).Correlated cseq :=
  correlated_of_headers rfl (List.forall_mem_nil _) hdecided

/-! ### Methods -/

/-- The headers that a method answers with: the CSeq, the session, and what SETUP adds. -/
def MethodHeaders (cseq identifier : Text) (headers : RawHeaders) : Prop :=
  ∃ others, headers = (str "CSeq", cseq) :: (str "Session", identifier) :: others ∧
    ∀ header ∈ others, header.1 = str "Unsupported" ∨ header.1 = str "Transport"

section Methods

variable {request : InternalRequest} {cseq identifier : Text} {response : Response}

lemma MethodHeaders.append {headers others : RawHeaders} (h : MethodHeaders cseq identifier headers)
    (hothers : ∀ header ∈ others, header.1 = str "Unsupported" ∨ header.1 = str "Transport") :
    MethodHeaders cseq identifier (headers ++ others) := by
  obtain ⟨before, rfl, hbefore⟩ := h
  refine ⟨before ++ others, by simp, ?_⟩
  exact List.forall_mem_append.mpr ⟨hbefore, hothers⟩

lemma MethodHeaders.correlated (h : MethodHeaders cseq identifier response.headers)
    (hdecided : Decided response.statusCode) : response.Correlated cseq := by
  obtain ⟨others, hheaders, hothers⟩ := h
  apply correlated_of_headers hheaders _ hdecided
  intro header hmem
  have hsession : toLowerCopy (str "Session") ≠ str "cseq" := by decide
  rcases List.mem_cons.mp hmem with rfl | hmem
  · exact hsession
  · rcases hothers header hmem with hname | hname
    · rw [hname]
      decide
    · rw [hname]
      decide

lemma MethodHeaders.session (h : MethodHeaders cseq identifier response.headers) :
    (normalizeHeaders response.headers).lookup (str "session") = some identifier := by
  obtain ⟨others, hheaders, hothers⟩ := h
  have hcseq : toLowerCopy (str "CSeq") ≠ str "session" := by decide
  have hsession : toLowerCopy (str "Session") = str "session" := by decide
  have hnone : valuesOf others (str "session") = [] := by
    apply valuesOf_eq_nil
    intro header hmem
    rcases hothers header hmem with hname | hname
    · rw [hname]
      decide
    · rw [hname]
      decide
  rw [lookup_normalizeHeaders, hheaders, valuesOf_cons_of_ne hcseq, valuesOf_cons_of_eq hsession,
    hnone]
  rfl

variable {session : ServerSession}

lemma commonResponseSkeleton_headers (hcseq : request.2.lookup (str "cseq") = some cseq)
    (h : commonResponseSkeleton session request = .ok response) :
    MethodHeaders cseq session.identifier response.headers := by
  rw [commonResponseSkeleton, hcseq] at h
  cases h
  exact ⟨[], rfl, List.forall_mem_nil _⟩

/-- A refused SETUP adds nothing but unsupported tags. -/
lemma setupChecks_error_headers {env : Environment} {draws : Draws} {refusal : Response}
    (h : setupChecks env draws session request response = .error refusal)
    (hheaders : MethodHeaders cseq identifier response.headers) :
    MethodHeaders cseq identifier refusal.headers := by
  have hrefusal := @setupChecks_headers env draws session request response
  rw [h] at hrefusal
  obtain ⟨tags, htags⟩ := hrefusal
  rw [htags]
  apply hheaders.append
  intro header hmem
  obtain ⟨tag, -, rfl⟩ := List.mem_map.mp hmem
  exact Or.inl rfl

/-- A SETUP answers its CSeq, and if it succeeds, it names its session, which is ready. -/
lemma setup_correlated {env : Environment} {draws : Draws}
    (hcseq : request.2.lookup (str "cseq") = some cseq)
    (h : (setup env draws session request).2 = .ok response) :
    response.Correlated cseq ∧ (response.IsSuccess →
      (normalizeHeaders response.headers).lookup (str "session") = some session.identifier ∧
      (setup env draws session request).1.sessionState = .ready) := by
  obtain ⟨skeleton, hskeleton, hcase⟩ := setup_response h
  have hheaders := commonResponseSkeleton_headers hcseq hskeleton
  have hsuccess := commonResponseSkeleton_isSuccess hskeleton
  rcases hcase with hchecks | ⟨options, chosen, source, clientPort, serverPort, ssrc, -, -,
    hsession, rfl⟩
  · have hrefused := setupChecks_error hchecks
    refine ⟨(setupChecks_error_headers hchecks hheaders).correlated ?_, ?_⟩
    · exact ⟨le_trans (by norm_num) hrefused.1, hrefused.2⟩
    · exact fun hok => absurd hok (not_isSuccess hrefused.1)
  · have hresponse := hheaders.append (List.forall_mem_singleton.mpr (Or.inr rfl) :
      ∀ header ∈ [(str "Transport", generateTransportHeader ⟨[chosen]⟩)], _)
    exact ⟨hresponse.correlated hsuccess.decided, fun _ => ⟨hresponse.session, by rw [hsession]⟩⟩

lemma notValidInThisState_correlated (h : MethodHeaders cseq identifier response.headers) :
    (notValidInThisState response).Correlated cseq :=
  MethodHeaders.correlated h (by decide : Decided 455)

/-- The response of PLAY and PAUSE. -/
lemma skeleton_correlated (hcseq : request.2.lookup (str "cseq") = some cseq)
    (h : ∃ skeleton, commonResponseSkeleton session request = .ok skeleton ∧
      (response = skeleton ∨ response = notValidInThisState skeleton)) :
    response.Correlated cseq := by
  obtain ⟨skeleton, hskeleton, rfl | rfl⟩ := h
  · exact (commonResponseSkeleton_headers hcseq hskeleton).correlated
      (commonResponseSkeleton_isSuccess hskeleton).decided
  · exact notValidInThisState_correlated (commonResponseSkeleton_headers hcseq hskeleton)

lemma teardown_correlated (hcseq : request.2.lookup (str "cseq") = some cseq)
    (h : (teardown session request).2 = .ok response) : response.Correlated cseq :=
  (commonResponseSkeleton_headers hcseq h).correlated (commonResponseSkeleton_isSuccess h).decided

lemma options_correlated (hcseq : request.2.lookup (str "cseq") = some cseq)
    (h : options request = .ok response) : response.Correlated cseq := by
  rw [options, hcseq] at h
  cases h
  apply correlated_of_headers rfl _ (by decide : Decided 200)
  intro header hmem
  rw [List.mem_singleton.mp hmem]
  have hname : toLowerCopy (str "Public") ≠ str "cseq" := by decide
  exact hname

lemma method_correlated {env : Environment} {draws : Draws} {entry : Text × MethodImplementation}
    (hmem : entry ∈ methods env draws) (hcseq : request.2.lookup (str "cseq") = some cseq)
    (h : (entry.2 session request).2 = .ok response) : response.Correlated cseq := by
  simp only [methods, List.mem_cons, List.not_mem_nil, or_false] at hmem
  rcases hmem with rfl | rfl | rfl | rfl | rfl
  · exact options_correlated hcseq h
  · exact (setup_correlated hcseq h).1
  · exact teardown_correlated hcseq h
  · exact skeleton_correlated hcseq (play_response h)
  · exact skeleton_correlated hcseq (pause_response h)

end Methods

/-! ### Requests -/

section Requests

variable {env : Environment} {draws : Draws} {s : ServerState} {requester : Address} {cseq : Text}
  {response : Response}

lemma handleMethod_correlated {method : MethodImplementation} {identifier : Text}
    {request : InternalRequest}
    (hmem : (request.1.methodOrExtension, method) ∈ methods env draws)
    (hcseq : request.2.lookup (str "cseq") = some cseq)
    (h : (s.handleMethod method identifier cseq request requester).2 = .ok response) :
    response.Correlated cseq := by
  unfold ServerState.handleMethod at h
  cases hlookup : s.sessions.lookup identifier with
  | none =>
    rw [hlookup] at h
    cases h
    exact refusal_correlated cseq _ (by decide)
  | some session =>
    rw [hlookup] at h
    dsimp only [ServerState.call] at h
    cases hresult : (method { session with lastSeenRequestAddress := requester } request).2 with
    | error fault =>
      rw [hresult] at h
      cases h
    | ok answer =>
      rw [hresult] at h
      dsimp only at h
      split_ifs at h
      · cases h
        exact method_correlated hmem hcseq hresult
      · cases h
        exact method_correlated hmem hcseq hresult

/-- The session of a SETUP has the identifier that is drawn for it. -/
lemma emplaceSession_identifier
    (hs : s.All fun identifier session => session.identifier = identifier) (identifier : Text) :
    (s.emplaceSession identifier requester).2.identifier = identifier := by
  unfold ServerState.emplaceSession
  cases hlookup : s.sessions.lookup identifier with
  | none => rfl
  | some session => exact hs identifier session hlookup

/-- A SETUP answers its CSeq. If it succeeds, it names a session that is ready. -/
lemma handleSetup_correlated (hs : s.All fun identifier session => session.identifier = identifier)
    {request : InternalRequest} (hname : request.1.methodOrExtension = str "SETUP")
    (hcseq : request.2.lookup (str "cseq") = some cseq)
    (h : (s.handleSetup env draws request requester).2 = .ok response) :
    response.Correlated cseq ∧ (response.IsSuccess → ∃ identifier session,
      (normalizeHeaders response.headers).lookup (str "session") = some identifier ∧
      (s.handleSetup env draws request requester).1.sessions.lookup identifier = some session ∧
      session.sessionState = .ready) := by
  have hmethod : (methods env draws).lookup request.1.methodOrExtension =
      some (setup env draws) := by
    rw [hname]
    rfl
  unfold ServerState.handleSetup at h ⊢
  rw [hmethod] at h ⊢
  obtain ⟨hanswers, hready⟩ := setup_correlated hcseq h
  refine ⟨hanswers, fun hsuccess => ?_⟩
  obtain ⟨hsession, hstate⟩ := hready hsuccess
  rw [emplaceSession_identifier hs] at hsession
  exact ⟨draws.identifier, _, hsession, Finmap.lookup_insert _, hstate⟩

/-- Every response to a request with a CSeq is decided and carries it. -/
lemma handleIncomingRequest_correlated {request : Request}
    (hcseq : (normalizeHeaders request.headers).lookup (str "cseq") = some cseq)
    (hne : cseq ≠ [])
    (h : (s.handleIncomingRequest env draws request requester).2 = .ok response) :
    response.Correlated cseq := by
  unfold ServerState.handleIncomingRequest at h
  simp only [hcseq, Option.getD_some, hne, if_false] at h
  split_ifs at h with hoptions hdescribe hsession hsetup
  · exact options_correlated hcseq h
  · cases h
    exact refusal_correlated cseq _ (by decide)
  · cases h
    exact refusal_correlated cseq _ (by decide)
  · cases hmethod : (methods env draws).lookup request.methodOrExtension with
    | none =>
      rw [ServerState.handleSetup, hmethod] at h
      cases h
    | some method =>
      rw [ServerState.handleSetup, hmethod] at h
      exact method_correlated (mem_methods hmethod) hcseq h
  · cases hidentifier : (normalizeHeaders request.headers).lookup (str "session") with
    | none =>
      rw [hidentifier] at h
      cases h
      exact refusal_correlated cseq _ (by decide)
    | some identifier =>
      rw [hidentifier] at h
      cases hmethod : (methods env draws).lookup request.methodOrExtension with
      | none =>
        rw [hmethod] at h
        cases h
        exact refusal_correlated cseq _ (by decide)
      | some method =>
        rw [hmethod] at h
        exact handleMethod_correlated (mem_methods hmethod) hcseq h

/-- Every response to a request with a CSeq is final and carries it. -/
theorem handleIncomingRequest_answers {request : Request}
    (hcseq : (normalizeHeaders request.headers).lookup (str "cseq") = some cseq)
    (hne : cseq ≠ [])
    (h : (s.handleIncomingRequest env draws request requester).2 = .ok response) :
    response.Answers cseq := (handleIncomingRequest_correlated hcseq hne h).answers

end Requests

/-- Whatever the state of the server and whoever asks, a request with a CSeq that is answered at
all gets a decided answer with this CSeq once, and one without is refused and changes nothing. -/
theorem every_answer_correlated (env : Environment) (draws : Draws) (s : ServerState)
    (requester : Address) (request : Request) :
    (∀ cseq response, (normalizeHeaders request.headers).lookup (str "cseq") = some cseq →
      cseq ≠ [] → (s.handleIncomingRequest env draws request requester).2 = .ok response →
        response.Correlated cseq) ∧
    ((normalizeHeaders request.headers).lookup (str "cseq") = none ∨
        (normalizeHeaders request.headers).lookup (str "cseq") = some [] →
      ∃ response, s.handleIncomingRequest env draws request requester = (s, .ok response) ∧
        response.statusCode = 400) := by
  refine ⟨fun cseq response hcseq hne h => handleIncomingRequest_correlated hcseq hne h, ?_⟩
  intro hmissing
  have hempty : ((normalizeHeaders request.headers).lookup (str "cseq")).getD [] = [] := by
    rcases hmissing with hcseq | hcseq <;> rw [hcseq] <;> rfl
  rw [ServerState.handleIncomingRequest, if_pos hempty]
  exact ⟨_, rfl, rfl⟩

/-- The answers to a SETUP of the movie and to a request without headers. -/
theorem every_answer_correlated_setup :
    (∃ response, (ServerState.handleIncomingRequest {} emptyRoot { identifier := str "a" }
        setupMovie (.v4 1)).2 = .ok response ∧ response.Correlated (str "1")) ∧
      ∃ response, ServerState.handleIncomingRequest {} emptyRoot {}
        { setupMovie with headers := [] } (.v4 1) = ({}, .ok response) ∧
        response.statusCode = 400 := by
  have hok : (ServerState.handleIncomingRequest {} emptyRoot { identifier := str "a" }
      setupMovie (.v4 1)).2.toOption.isSome = true := by decide
  cases h : (ServerState.handleIncomingRequest {} emptyRoot { identifier := str "a" }
      setupMovie (.v4 1)).2 with
  | error fault =>
    rw [h] at hok
    cases hok
  | ok response =>
    exact ⟨⟨response, rfl, (every_answer_correlated emptyRoot { identifier := str "a" } {} (.v4 1)
      setupMovie).1 (str "1") response (by decide) (by decide) h⟩,
      (every_answer_correlated emptyRoot {} {} (.v4 1) _).2 (Or.inl (by decide))⟩

end Rtsp
