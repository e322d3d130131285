import StreamingLib.Rtsp.Server.Connection

/-!
# Responses on a TCP connection

All responses of a connection share `last_response_string_`: each is appended to it, the whole of
it is sent, and a completed send clears it. Here requests may come in at any time.
-/

namespace Rtsp

open Transition

/-- A connection with what it should have sent. -/
structure ResponseRun where
  server : ServerState := {}
  connection : TcpConnection := {}
  /-- The generated responses in the order of the requests. -/
  responses : List Text := []
  /-- Whether a call of `response_sent` has thrown. -/
  thrown : Bool := false

inductive ResponseEvent
  /-- Bytes arrive. -/
  | receive (bytes : Text)
  | headerRead (draws : Draws)
  /-- The first outstanding send completes. -/
  | responseSent
  /-- Something else happens to the state of the server. -/
  | server (event : ServerEvent)

/-- The response that `header_read` generates, unless an exception escapes. -/
def generatedResponse (env : Environment) (draws : Draws) (requester : Address)
    (server : ServerState) (text : Text) : Option Text :=
  match (answer env draws requester server text).2 with
  | .error _ => none
  | .ok response => some (generateResponse response)

def responseStep (env : Environment) (requester : Address) (s : ResponseRun) :
    ResponseEvent → Option ResponseRun
  | .receive bytes =>
    some { s with connection :=
      { s.connection with inStreambuf := s.connection.inStreambuf ++ bytes } }
  | .headerRead draws =>
    if s.connection.Readable then
      let r := headerRead env draws requester s.server s.connection
      some { s with
        server := r.1
        connection := r.2
        responses := s.responses ++
          (generatedResponse env draws requester s.server s.connection.inStreambuf).toList }
    else none
  | .responseSent =>
    match s.connection.sending with
    | [] => none
    | n :: sending => some { s with
        connection := responseSent { s.connection with sending := sending } n
        thrown := s.thrown || n != s.connection.lastResponseString.length }
  | .server event => (s.server.step env event).map fun server => { s with server := server }

/-- A new connection to a server in any state that it can be in. -/
def responseSystem (env : Environment) (requester : Address) :
    System ResponseRun ResponseEvent where
  init s := (serverSystem env).Reachable Always s.server ∧ s = { server := s.server }
  step := responseStep env requester

/-- The bytes given to the socket are those of the responses, and no completion has thrown. -/
def ResponseRun.SentOnce (s : ResponseRun) : Prop :=
  s.connection.sends.flatten = s.responses.flatten ∧ s.thrown = false

instance (s : ResponseRun) : Decidable s.SentOnce := inferInstanceAs (Decidable (_ ∧ _))

/-- `header_read` generates no response while a send is outstanding. -/
def OneAtATime (env : Environment) (requester : Address) (s : ResponseRun) :
    ResponseEvent → Prop
  | .headerRead draws => s.connection.sending = [] ∨
      (parseRequest s.connection.inStreambuf).ok = true ∧
        RequestThrows env draws requester s.server (parseRequest s.connection.inStreambuf).attr
  | _ => True

instance (env : Environment) (requester : Address) (s : ResponseRun) :
    (event : ResponseEvent) → Decidable (OneAtATime env requester s event)
  | .headerRead _ => inferInstanceAs (Decidable (_ ∨ _ ∧ _))
  | .receive _ | .responseSent | .server _ => isTrue trivial

/-! ### What is outstanding -/

lemma generateResponse_ne_nil (response : Response) : generateResponse response ≠ [] := by
  intro h
  have hline := List.append_eq_nil_iff.mp h
  exact absurd hline.2 (by decide)

/-- The string is empty, or it is the response whose send is outstanding. -/
structure Settled (s : ResponseRun) : Prop where
  sentOnce : s.SentOnce
  outstanding : (s.connection.sending = [] ∧ s.connection.lastResponseString = []) ∨
    s.connection.sending = [s.connection.lastResponseString.length] ∧
      s.connection.lastResponseString ≠ []

section Steps

variable {env : Environment} {requester : Address} {draws : Draws} {s : ResponseRun}

/-- `header_read` on a connection without an outstanding send. -/
lemma Settled.headerRead (h : Settled s) (hidle : s.connection.sending = []) :
    Settled { s with
      server := (Rtsp.headerRead env draws requester s.server s.connection).1
      connection := (Rtsp.headerRead env draws requester s.server s.connection).2
      responses := s.responses ++
        (generatedResponse env draws requester s.server s.connection.inStreambuf).toList } := by
  obtain ⟨⟨hsends, hthrown⟩, houtstanding⟩ := h
  have hempty : s.connection.lastResponseString = [] := by
    rcases houtstanding with ⟨-, hempty⟩ | ⟨hone, -⟩
    · exact hempty
    · rw [hidle] at hone
      cases hone
  unfold generatedResponse Rtsp.headerRead
  rcases answer env draws requester s.server s.connection.inStreambuf with
    ⟨server, fault | response⟩
  · refine ⟨⟨?_, hthrown⟩, Or.inl ⟨hidle, hempty⟩⟩
    simp [hsends]
  · refine ⟨⟨?_, hthrown⟩, Or.inr ⟨?_, ?_⟩⟩
    · simp [hsends, hempty]
    · simp [hidle]
    · simp [hempty, generateResponse_ne_nil]

/-- `header_read` that ends by an exception. -/
lemma Settled.headerRead_throws (h : Settled s)
    (hserver : (serverSystem env).Reachable Always s.server)
    (hok : (parseRequest s.connection.inStreambuf).ok = true)
    (hthrows : RequestThrows env draws requester s.server
      (parseRequest s.connection.inStreambuf).attr) :
    Settled { s with
      server := (Rtsp.headerRead env draws requester s.server s.connection).1
      connection := (Rtsp.headerRead env draws requester s.server s.connection).2
      responses := s.responses ++
        (generatedResponse env draws requester s.server s.connection.inStreambuf).toList } := by
  have herror := mt (handleIncomingRequest_isOk env hserver draws
    (parseRequest s.connection.inStreambuf).attr requester).mp (not_not.mpr hthrows)
  unfold generatedResponse Rtsp.headerRead
  simp only [answer, hok, if_true]
  rcases hresult : s.server.handleIncomingRequest env draws
    (parseRequest s.connection.inStreambuf).attr requester with ⟨server, fault | response⟩
  · obtain ⟨⟨hsends, hthrown⟩, houtstanding⟩ := h
    refine ⟨⟨?_, hthrown⟩, houtstanding⟩
    simp [hsends]
  · rw [hresult] at herror
    exact absurd rfl herror

/-- The outstanding send completes. -/
lemma Settled.responseSent (h : Settled s) {n : ℕ} {sending : List ℕ}
    (hsending : s.connection.sending = n :: sending) :
    Settled { s with
      connection := Rtsp.responseSent { s.connection with sending := sending } n
      thrown := s.thrown || n != s.connection.lastResponseString.length } := by
  obtain ⟨⟨hsends, hthrown⟩, houtstanding⟩ := h
  rcases houtstanding with ⟨hnone, -⟩ | ⟨hone, -⟩
  · rw [hnone] at hsending
    cases hsending
  · rw [hone] at hsending
    cases hsending
    unfold Rtsp.responseSent
    simp only [ne_eq, not_true_eq_false, if_false]
    refine ⟨⟨hsends, ?_⟩, Or.inl ⟨rfl, rfl⟩⟩
    simp [hthrown]

end Steps

/-! ### Runs -/

lemma settled_of_reachable {env : Environment} {requester : Address} {s : ResponseRun}
    (hs : (responseSystem env requester).Reachable (OneAtATime env requester) s) :
    (serverSystem env).Reachable Always s.server ∧ Settled s := by
  apply hs.invariant
  · rintro s ⟨hserver, hinit⟩
    refine ⟨hserver, ?_⟩
    rw [hinit]
    exact ⟨⟨rfl, rfl⟩, Or.inl ⟨rfl, rfl⟩⟩
  · rintro s event s' ⟨hserver, h⟩ hok hstep
    cases event with
    | receive bytes =>
      cases hstep
      exact ⟨hserver, h.sentOnce, h.outstanding⟩
    | headerRead draws =>
      simp only [responseSystem, responseStep] at hstep
      split_ifs at hstep with hread
      cases hstep
      constructor
      · dsimp only
        rw [headerRead_server]
        exact answer_reachable hserver _
      · rcases hok with hidle | ⟨hparse, hthrows⟩
        · exact h.headerRead hidle
        · exact h.headerRead_throws hserver hparse hthrows
    | responseSent =>
      simp only [responseSystem, responseStep] at hstep
      split at hstep
      · cases hstep
      · next n sending hsending =>
        cases hstep
        exact ⟨hserver, h.responseSent hsending⟩
    | server event =>
      obtain ⟨server, hserver', rfl⟩ := Option.map_eq_some_iff.mp hstep
      exact ⟨hserver.step trivial hserver', h.sentOnce, h.outstanding⟩

/-- A response that is generated while a send is outstanding goes out behind the previous response,
which is sent again. -/
theorem response_repeated {env : Environment} {requester : Address} {s s' : ResponseRun}
    (hs : (responseSystem env requester).Reachable (OneAtATime env requester) s)
    {event : ResponseEvent} (hoverlap : ¬OneAtATime env requester s event)
    (hstep : responseStep env requester s event = some s') : ¬s'.SentOnce := by
  obtain ⟨hserver, ⟨hsends, -⟩, houtstanding⟩ := settled_of_reachable hs
  cases event with
  | headerRead draws =>
    simp only [OneAtATime, not_or, not_and] at hoverlap
    obtain ⟨hbusy, hreturns⟩ := hoverlap
    have hlast : s.connection.lastResponseString ≠ [] := by
      rcases houtstanding with ⟨hidle, -⟩ | ⟨-, hlast⟩
      · exact absurd hidle hbusy
      · exact hlast
    have hok := answer_isOk hserver hreturns
    simp only [responseStep] at hstep
    split_ifs at hstep
    cases hstep
    unfold generatedResponse headerRead
    rcases hanswer : answer env draws requester s.server s.connection.inStreambuf with
      ⟨server, fault | response⟩
    · rw [hanswer] at hok
      cases hok
    · rintro ⟨hflatten, -⟩
      have hlength := congrArg List.length hflatten
      have hsame := congrArg List.length hsends
      simp only [List.flatten_append, List.length_append, Option.toList, List.flatten_cons,
        List.flatten_nil, List.append_nil, hsame] at hlength
      have hpos := List.length_pos_iff.mpr hlast
      omega
  | receive bytes => exact absurd trivial hoverlap
  | responseSent => exact absurd trivial hoverlap
  | server event => exact absurd trivial hoverlap

/-- In every run in which responses are generated one at a time, the responses are sent once and
in order, and no completion throws. -/
theorem responses_sent_once {env : Environment} {requester : Address} {s : ResponseRun}
    (hs : (responseSystem env requester).Reachable (OneAtATime env requester) s) : s.SentOnce :=
  (settled_of_reachable hs).2.sentOnce

/-- The second request is read once the response to the first one has been sent. -/
theorem responses_sent_once_options :
    ∃ s ∈ (responseSystem emptyRoot default).run {} [.receive optionsBlock, .headerRead {},
        .responseSent, .receive optionsBlock, .headerRead {}],
      s.connection.sends.length = 2 ∧ s.SentOnce := by
  obtain ⟨s, hrun, hsends⟩ : ∃ s ∈ (responseSystem emptyRoot default).run {}
      [.receive optionsBlock, .headerRead {}, .responseSent, .receive optionsBlock,
        .headerRead {}], s.connection.sends.length = 2 := by
    decide +kernel
  have hmeets : (responseSystem emptyRoot default).Meets (OneAtATime emptyRoot default) {}
      [.receive optionsBlock, .headerRead {}, .responseSent, .receive optionsBlock,
        .headerRead {}] := by
    decide +kernel
  have hinit : (responseSystem emptyRoot default).Reachable (OneAtATime emptyRoot default) {} :=
    .init ⟨.init rfl, rfl⟩
  exact ⟨s, hrun, hsends, responses_sent_once (hinit.run hmeets hrun)⟩

/-- The second response goes out behind the first one, and the first completion throws. -/
theorem responses_not_sent_once :
    ¬∀ (env : Environment) (requester : Address) (s : ResponseRun),
      (responseSystem env requester).Reachable Always s → s.SentOnce := by
  intro h
  obtain ⟨s, hrun, hrepeated⟩ : ∃ s ∈ (responseSystem emptyRoot default).run {}
      [.receive optionsBlock, .headerRead {}, .receive optionsBlock, .headerRead {},
        .responseSent], ¬s.SentOnce := by
    decide
  have hinit : (responseSystem emptyRoot default).Reachable Always {} := .init ⟨.init rfl, rfl⟩
  exact hrepeated (h _ _ s (hinit.run (System.meets_always _ _ _) hrun))

end Rtsp
