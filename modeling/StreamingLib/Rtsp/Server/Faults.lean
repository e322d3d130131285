import StreamingLib.Rtsp.Server.Invariants

/-!
# Requests that end by an exception

Only a SETUP can end by an exception, when it has passed its checks and builds a sender.
-/

namespace Rtsp

open Transition

/-- SETUP passes its checks, but the transport it has chosen names a range of server ports or the
socket of the sender can not be set up. -/
def SetupThrows (env : Environment) (draws : Draws) (session : ServerSession)
    (request : InternalRequest) : Prop :=
  ∃ response checks, commonResponseSkeleton session request = .ok response ∧
    setupChecks env draws session request response = .ok checks ∧
    ((senderParameters checks.2.1).isOk = false ∨ draws.socketOpens = false)

instance (env : Environment) (draws : Draws) (session : ServerSession)
    (request : InternalRequest) : Decidable (SetupThrows env draws session request) :=
  match hskeleton : commonResponseSkeleton session request with
  | .error _ => isFalse (by simp [SetupThrows, hskeleton])
  | .ok response =>
    match hchecks : setupChecks env draws session request response with
    | .error _ => isFalse (by simp [SetupThrows, hskeleton, hchecks])
    | .ok checks =>
      decidable_of_iff ((senderParameters checks.2.1).isOk = false ∨ draws.socketOpens = false)
        (by simp only [SetupThrows, hskeleton, hchecks, Except.ok.injEq, exists_and_left,
          exists_eq_left'])

/-- The request creates a session and its SETUP ends by an exception. -/
def RequestThrows (env : Environment) (draws : Draws) (requester : Address) (s : ServerState)
    (request : Request) : Prop :=
  CreatesSession request ∧ SetupThrows env draws (s.emplaceSession draws.identifier requester).2
    (request, normalizeHeaders request.headers)

instance (env : Environment) (draws : Draws) (requester : Address) (s : ServerState)
    (request : Request) : Decidable (RequestThrows env draws requester s request) :=
  inferInstanceAs (Decidable (_ ∧ _))

lemma commonResponseSkeleton_ok (session : ServerSession) {request : InternalRequest}
    (h : request.2.lookup (str "cseq") ≠ none) :
    ∃ response, commonResponseSkeleton session request = .ok response := by
  obtain ⟨cseq, hcseq⟩ := Option.ne_none_iff_exists'.mp h
  exact ⟨_, by rw [commonResponseSkeleton, hcseq]⟩

lemma setup_isOk (env : Environment) (draws : Draws) (session : ServerSession)
    {request : InternalRequest} (hcseq : request.2.lookup (str "cseq") ≠ none) :
    (setup env draws session request).2.isOk = true ↔ ¬SetupThrows env draws session request := by
  obtain ⟨response, hskeleton⟩ := commonResponseSkeleton_ok session hcseq
  simp only [setup, SetupThrows, hskeleton, Except.ok.injEq, exists_and_left, exists_eq_left']
  cases hchecks : setupChecks env draws session request response with
  | error refusal => simp [Except.isOk, Except.toBool]
  | ok checks =>
    obtain ⟨options, chosen, source⟩ := checks
    cases hparameters : senderParameters chosen with
    | error fault => simp [Except.isOk, Except.toBool, hparameters]
    | ok parameters =>
      cases hopens : draws.socketOpens <;> simp [Except.isOk, Except.toBool, hparameters]

lemma play_isOk {session : ServerSession} (hs : session.HasSender) {request : InternalRequest}
    (hcseq : request.2.lookup (str "cseq") ≠ none) : (play session request).2.isOk = true := by
  obtain ⟨response, hskeleton⟩ := commonResponseSkeleton_ok session hcseq
  simp only [play, hskeleton]
  split_ifs with hplaying hready
  · rfl
  · rfl
  · obtain ⟨sender, hsender⟩ := Option.isSome_iff_exists.mp (hs.sender (Or.inl (not_not.mp hready)))
    rw [hsender]
    rfl

lemma pause_isOk {session : ServerSession} (hs : session.HasSender) {request : InternalRequest}
    (hcseq : request.2.lookup (str "cseq") ≠ none) : (pause session request).2.isOk = true := by
  obtain ⟨response, hskeleton⟩ := commonResponseSkeleton_ok session hcseq
  simp only [pause, hskeleton]
  split_ifs with hplaying
  · rfl
  · obtain ⟨sender, hsender⟩ :=
      Option.isSome_iff_exists.mp (hs.sender (Or.inr (not_not.mp hplaying)))
    rw [hsender]
    rfl

/-- The methods but SETUP give a response to every request with a CSeq. -/
lemma method_isOk {env : Environment} {draws : Draws} {entry : Text × MethodImplementation}
    (h : entry ∈ methods env draws) (hname : entry.1 ≠ str "SETUP") {session : ServerSession}
    (hs : session.HasSender) {request : InternalRequest}
    (hcseq : request.2.lookup (str "cseq") ≠ none) :
    (entry.2 session request).2.isOk = true := by
  simp only [methods, List.mem_cons, List.not_mem_nil, or_false] at h
  rcases h with rfl | rfl | rfl | rfl | rfl
  · obtain ⟨cseq, hcseq⟩ := Option.ne_none_iff_exists'.mp hcseq
    simp [options, hcseq, Except.isOk, Except.toBool]
  · exact absurd rfl hname
  · obtain ⟨response, hskeleton⟩ := commonResponseSkeleton_ok session hcseq
    simp [teardown, hskeleton, Except.isOk, Except.toBool]
  · exact play_isOk hs hcseq
  · exact pause_isOk hs hcseq

lemma handleMethod_isOk {s : ServerState} {env : Environment} {draws : Draws}
    (hs : s.All fun _ session => session.HasSender) {method : MethodImplementation}
    (identifier cseq : Text) {request : InternalRequest} (requester : Address)
    (hmem : (request.1.methodOrExtension, method) ∈ methods env draws)
    (hname : request.1.methodOrExtension ≠ str "SETUP")
    (hcseq : request.2.lookup (str "cseq") ≠ none) :
    (s.handleMethod method identifier cseq request requester).2.isOk = true := by
  unfold ServerState.handleMethod
  cases hlookup : s.sessions.lookup identifier with
  | none => rfl
  | some session =>
    have hsession := hs _ _ hlookup
    have hok := @method_isOk env draws _ hmem hname
      { session with lastSeenRequestAddress := requester } ⟨hsession.sender, hsession.notRecording⟩
      request hcseq
    dsimp only [ServerState.call]
    cases hresult : (method { session with lastSeenRequestAddress := requester } request).2 with
    | error fault =>
      rw [hresult] at hok
      cases hok
    | ok response =>
      dsimp only
      split_ifs <;> simp [Except.isOk, Except.toBool]

/-- In a state that can be reached, a request gets a response unless its SETUP ends by an
exception. -/
theorem handleIncomingRequest_isOk (env : Environment) {s : ServerState}
    (hs : (serverSystem env).Reachable Always s) (draws : Draws) (request : Request)
    (requester : Address) :
    (s.handleIncomingRequest env draws request requester).2.isOk = true ↔
      ¬RequestThrows env draws requester s request := by
  have hsender := (sender_invariant env).reachable hs
  unfold ServerState.handleIncomingRequest
  dsimp only
  split_ifs with hcseq hoptions hdescribe hsession hsetup
  · exact iff_of_true rfl fun h => h.1.1 hcseq
  · refine iff_of_true ?_ fun h => absurd (hoptions.symm.trans h.1.2.1) (by decide)
    cases hlookup : (normalizeHeaders request.headers).lookup (str "cseq") with
    | none =>
      rw [hlookup] at hcseq
      exact absurd rfl hcseq
    | some cseq => simp [options, hlookup, Except.isOk, Except.toBool]
  · exact iff_of_true rfl fun h => absurd (hdescribe.symm.trans h.1.2.1) (by decide)
  · refine iff_of_true rfl fun h => ?_
    rw [h.1.2.2] at hsession
    exact absurd hsession.2 Bool.false_ne_true
  all_goals
    have hsome : (normalizeHeaders request.headers).lookup (str "cseq") ≠ none := by
      intro hnone
      rw [hnone] at hcseq
      exact hcseq rfl
  · have hcreates : CreatesSession request := by
      refine ⟨hcseq, hsetup, Option.not_isSome_iff_eq_none.mp fun h => hsession ⟨hsetup, h⟩⟩
    have hmethod :
        (methods env draws).lookup request.methodOrExtension = some (setup env draws) := by
      rw [hsetup]
      rfl
    simp only [RequestThrows, and_iff_right hcreates, ServerState.handleSetup, hmethod]
    exact setup_isOk env draws _ hsome
  · refine iff_of_true ?_ fun h => absurd h.1.2.1 hsetup
    cases (normalizeHeaders request.headers).lookup (str "session") with
    | none => rfl
    | some identifier =>
      cases hmethod : (methods env draws).lookup request.methodOrExtension with
      | none => rfl
      | some method =>
        exact handleMethod_isOk hsender identifier _ requester (mem_methods hmethod) hsetup hsome

/-! ### Null senders -/

/-- A SETUP that creates a session is handled as such. -/
lemma handleIncomingRequest_of_createsSession (env : Environment) (s : ServerState)
    (draws : Draws) {request : Request} (requester : Address) (h : CreatesSession request) :
    s.handleIncomingRequest env draws request requester =
      s.handleSetup env draws (request, normalizeHeaders request.headers) requester := by
  obtain ⟨hcseq, hsetup, hsession⟩ := h
  unfold ServerState.handleIncomingRequest
  dsimp only
  rw [if_neg hcseq, if_neg (by rw [hsetup]; decide), if_neg (by rw [hsetup]; decide), if_neg,
    if_pos hsetup]
  rw [hsession]
  exact fun h => Bool.false_ne_true h.2

lemma commonResponseSkeleton_ne_nullSender (session : ServerSession) (request : InternalRequest) :
    commonResponseSkeleton session request ≠ .error .nullSender := by
  unfold commonResponseSkeleton
  split <;> nofun

lemma senderParameters_ne_nullSender (spec : TransportSpec) :
    senderParameters spec ≠ .error .nullSender := by
  have hat : ∀ n, parameterAt spec n = .error .outOfRange ∨ ∃ p, parameterAt spec n = .ok p := by
    intro n
    unfold parameterAt
    cases spec.parameters[n]? with
    | none => exact Or.inl rfl
    | some p => exact Or.inr ⟨p, rfl⟩
  have hport : ∀ p : Parameter,
      p.getPortNumber = .error .badGet ∨ ∃ n, p.getPortNumber = .ok n := by
    rintro (ttl | ⟨type, n | range⟩ | value | mode | string)
    · exact Or.inl rfl
    · exact Or.inr ⟨n, rfl⟩
    · exact Or.inl rfl
    · exact Or.inl rfl
    · exact Or.inl rfl
    · exact Or.inl rfl
  have hssrc : ∀ p : Parameter, p.getSsrc = .error .badGet ∨ ∃ n, p.getSsrc = .ok n := by
    rintro (ttl | port | value | mode | string)
    · exact Or.inl rfl
    · exact Or.inl rfl
    · exact Or.inr ⟨value, rfl⟩
    · exact Or.inl rfl
    · exact Or.inl rfl
  unfold senderParameters
  rcases hat 1 with h₁ | ⟨p₁, h₁⟩ <;> rw [h₁]
  · nofun
  change (p₁.getPortNumber >>= _) ≠ _
  rcases hport p₁ with h | ⟨n₁, h⟩ <;> rw [h]
  · nofun
  change (parameterAt spec 3 >>= _) ≠ _
  rcases hat 3 with h₃ | ⟨p₃, h₃⟩ <;> rw [h₃]
  · nofun
  change (p₃.getPortNumber >>= _) ≠ _
  rcases hport p₃ with h | ⟨n₃, h⟩ <;> rw [h]
  · nofun
  change (parameterAt spec 2 >>= _) ≠ _
  rcases hat 2 with h₂ | ⟨p₂, h₂⟩ <;> rw [h₂]
  · nofun
  change (p₂.getSsrc >>= _) ≠ _
  rcases hssrc p₂ with h | ⟨n₂, h⟩ <;> rw [h] <;> nofun

lemma setup_ne_nullSender (env : Environment) (draws : Draws) (session : ServerSession)
    (request : InternalRequest) :
    (setup env draws session request).2 ≠ .error .nullSender := by
  unfold setup
  cases hskeleton : commonResponseSkeleton session request with
  | error fault =>
    rintro ⟨rfl⟩
    exact commonResponseSkeleton_ne_nullSender session request hskeleton
  | ok response =>
    dsimp only
    cases setupChecks env draws session request response with
    | error refusal => nofun
    | ok checks =>
      obtain ⟨options, chosen, source⟩ := checks
      dsimp only
      cases hparameters : senderParameters chosen with
      | error fault =>
        rintro ⟨rfl⟩
        exact senderParameters_ne_nullSender chosen hparameters
      | ok parameters =>
        dsimp only
        split_ifs <;> nofun

/-- In every state that can be reached, each session that is ready or playing has a sender, none
is recording, each is stored under its own identifier, and no request dereferences a sender that
is not there. -/
theorem sender_presence (env : Environment) {s : ServerState}
    (hs : (serverSystem env).Reachable Always s) :
    (∀ identifier session, s.sessions.lookup identifier = some session →
      session.HasSender ∧ session.identifier = identifier) ∧
    ∀ draws request requester,
      (s.handleIncomingRequest env draws request requester).2 ≠ .error .nullSender := by
  constructor
  · intro identifier session hlookup
    exact ⟨(sender_invariant env).reachable hs identifier session hlookup,
      (identifier_invariant env).reachable hs identifier session hlookup⟩
  · intro draws request requester hnull
    have hthrows : RequestThrows env draws requester s request := by
      by_contra hreturns
      have hok := (handleIncomingRequest_isOk env hs draws request requester).mpr hreturns
      rw [hnull] at hok
      cases hok
    obtain ⟨hcreates, -⟩ := hthrows
    have hmethod : (methods env draws).lookup request.methodOrExtension =
        some (setup env draws) := by
      rw [hcreates.2.1]
      rfl
    rw [handleIncomingRequest_of_createsSession env s draws requester hcreates,
      ServerState.handleSetup, hmethod] at hnull
    exact setup_ne_nullSender env draws _ _ hnull

theorem sender_presence_setup :
    ∃ s ∈ (serverSystem emptyRoot).run {} [.request { identifier := str "a" } setupMovie default],
      ∃ session ∈ s.sessions.lookup (str "a"), session.sessionState = .ready ∧
        session.HasSender ∧ session.identifier = str "a" := by
  obtain ⟨s, hrun, session, hlookup, hready⟩ :
      ∃ s ∈ (serverSystem emptyRoot).run {}
          [.request { identifier := str "a" } setupMovie default],
        ∃ session ∈ s.sessions.lookup (str "a"), session.sessionState = .ready := by
    decide
  have hinit : (serverSystem emptyRoot).Reachable Always {} := .init rfl
  have hpresent := (sender_presence emptyRoot (hinit.run (System.meets_always _ _ _) hrun)).1
  exact ⟨s, hrun, session, hlookup, hready, hpresent (str "a") session hlookup⟩

end Rtsp
