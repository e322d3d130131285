import StreamingLib.Rtp.OwnSource
import StreamingLib.Rtsp.Client.Agreement
import StreamingLib.Rtsp.Client.ServerTransport
import StreamingLib.Transition.History

/-!
# The path of the media

SETUP makes two ends: the server builds a sender for an endpoint and with a source, and the client
a receiver with the port and the source that it reads in the answer. PLAY, PAUSE and the steps of
the sender leave both as they are.
-/

namespace Rtsp

open Peg Transition

/-! ### The ends -/

/-- The endpoint that SETUP builds its sender for, if it builds one. -/
def setupDestination (env : Environment) (draws : Draws) (session : ServerSession)
    (request : InternalRequest) : Option (Address × UInt16) :=
  match commonResponseSkeleton session request with
  | .error _ => none
  | .ok response =>
    match setupChecks env draws session request response with
    | .error _ => none
    | .ok (_, chosenTransport, _) =>
      match senderParameters chosenTransport with
      | .error _ => none
      | .ok (clientPort, _, _) =>
        if !draws.socketOpens then none else some (session.lastSeenRequestAddress, clientPort)

/-- The endpoint of the sender that a request makes the server build. -/
def ServerState.destination (s : ServerState) (env : Environment) (draws : Draws)
    (request : Request) (requester : Address) : Option (Address × UInt16) :=
  if CreatesSession request then
    setupDestination env draws (s.emplaceSession draws.identifier requester).2
      (request, normalizeHeaders request.headers)
  else none

/-- The endpoints of the senders by the identifiers of their sessions. -/
abbrev Destinations := Text → Option (Address × UInt16)

/-- The endpoint of a new sender is added. -/
def Destinations.add (destinations : Destinations) (identifier : Text) :
    Option (Address × UInt16) → Destinations
  | none => destinations
  | some endpoint => Function.update destinations identifier (some endpoint)

/-- What a step of a dialog adds to the endpoints. -/
def recordDestination (env : Environment) (requester : Address) (d : Dialog)
    (destinations : Destinations) : DialogEvent → Destinations
  | .serve draws =>
    match d.requests with
    | [] => destinations
    | request :: _ => destinations.add draws.identifier
        (d.server.destination env draws request requester)
  | .call _ _ | .resolved _ | .connected _ | .deliver _ | .sender _ _ => destinations

/-- The receiver that the client builds for a response to SETUP. -/
def receiverOf (response : Response) : Option ReceiverParameters :=
  ((normalizeHeaders response.headers).lookup (str "transport")).bind fun transport =>
    (processServerTransportHeader transport).toOption

/-! ### The header that connects them -/

/-- Whatever the client reads in the transport that was chosen is the port and the source of the
sender. -/
lemma processServerTransportHeader_eq {requested : Transport} {draws : Draws}
    {chosen : TransportSpec} (hchosen : getAcceptableTransport requested draws = some chosen)
    {clientPort serverPort : UInt16} {ssrc : UInt32}
    (hparameters : senderParameters chosen = .ok (clientPort, serverPort, ssrc))
    {parameters : ReceiverParameters}
    (h : processServerTransportHeader (generateTransportHeader ⟨[chosen]⟩) = .ok parameters) :
    parameters = ⟨clientPort, ssrc⟩ := by
  by_cases hssrc : 0x10000000 ≤ ssrc.toNat
  · exact Except.ok.inj (h.symm.trans ((processServerTransportHeader_iff hchosen hparameters).mpr
      hssrc))
  · obtain ⟨clientPort', ssrc', port, rfl⟩ := getAcceptableTransport_eq hchosen
    obtain rfl : ssrc' = ssrc := by
      rcases port with ⟨type, n | ⟨first, second⟩⟩
      · cases hparameters
        rfl
      · cases hparameters
    obtain ⟨before, hbefore⟩ : ∃ before : List Parameter,
        before = [.string (str "unicast"), .port ⟨.client, .number clientPort'⟩] := ⟨_, rfl⟩
    have hfull : ∀ p ∈ before, p.FillsDigits := by
      simp only [hbefore, List.forall_mem_cons]
      exact ⟨trivial, trivial, List.forall_mem_nil _⟩
    -- what is read ends before the source
    obtain ⟨x, hread⟩ := @transportGrammar_matches_of_short _
      (wellFormed_negotiated clientPort' ssrc' port) [] [] _ rfl (List.forall_mem_nil _) before
      [.port port] ssrc' (by rw [hbefore]; rfl) hfull (not_le.mp hssrc) default
    obtain ⟨hok, -, hattr⟩ := hread.run_ok
    unfold processServerTransportHeader at h
    dsimp only at h
    rw [hok, hattr, hbefore] at h
    cases h

/-- The Transport header that is added to the skeleton of a response. -/
lemma lookup_transport {session : ServerSession} {request : InternalRequest} {response : Response}
    (h : commonResponseSkeleton session request = .ok response) (header : Text) :
    (normalizeHeaders (response.headers ++ [(str "Transport", header)])).lookup (str "transport") =
      some header := by
  have hcseq : toLowerCopy (str "CSeq") ≠ str "transport" := by decide
  have hsession : toLowerCopy (str "Session") ≠ str "transport" := by decide
  have htransport : toLowerCopy (str "Transport") = str "transport" := by decide
  unfold commonResponseSkeleton at h
  split at h
  · cases h
  · cases h
    rw [List.cons_append, List.cons_append, List.nil_append, lookup_normalizeHeaders,
      valuesOf_cons_of_ne hcseq, valuesOf_cons_of_ne hsession, valuesOf_cons_of_eq htransport]
    rfl

/-- A SETUP that succeeds builds a sender, and a receiver built for its answer is the other end. -/
lemma setup_connects {env : Environment} {draws : Draws} {session : ServerSession}
    {request : InternalRequest} {response : Response}
    (h : (setup env draws session request).2 = .ok response) (hsuccess : response.IsSuccess) :
    ∃ sender clientPort, (setup env draws session request).1.rtpSession = some sender ∧
      setupDestination env draws session request =
        some (session.lastSeenRequestAddress, clientPort) ∧
      ∀ parameters ∈ receiverOf response, parameters = ⟨clientPort, sender.ssrc⟩ := by
  unfold setup setupDestination at *
  cases hskeleton : commonResponseSkeleton session request with
  | error fault =>
    rw [hskeleton] at h
    cases h
  | ok skeleton =>
    rw [hskeleton] at h
    dsimp only at h ⊢
    cases hchecks : setupChecks env draws session request skeleton with
    | error refusal =>
      rw [hchecks] at h
      cases h
      exact absurd hsuccess (not_isSuccess (setupChecks_error hchecks).1)
    | ok checks =>
      obtain ⟨options, chosen, source⟩ := checks
      rw [hchecks] at h
      dsimp only at h ⊢
      cases hparameters : senderParameters chosen with
      | error fault =>
        rw [hparameters] at h
        cases h
      | ok parameters =>
        obtain ⟨clientPort, serverPort, ssrc⟩ := parameters
        rw [hparameters] at h
        cases hopens : draws.socketOpens with
        | false =>
          rw [hopens] at h
          cases h
        | true =>
          rw [hopens] at h
          cases h
          refine ⟨_, clientPort, rfl, rfl, fun parameters hmem => ?_⟩
          have hchosen := @setupChecks_headers env draws session request skeleton
          rw [hchecks] at hchosen
          obtain ⟨requested, hchosen⟩ := hchosen
          rw [receiverOf, lookup_transport hskeleton, Option.bind_some] at hmem
          cases hprocess : processServerTransportHeader (generateTransportHeader ⟨[chosen]⟩) with
          | error fault =>
            rw [hprocess] at hmem
            cases hmem
          | ok parameters' =>
            rw [hprocess] at hmem
            cases hmem
            exact processServerTransportHeader_eq hchosen hparameters hprocess

/-! ### The sender stays -/

/-- PLAY and PAUSE start and stop the sender of their session. -/
lemma implementation_extends {method : SessionMethod} {session : ServerSession}
    {sender : Rtp.Sender} (hsender : session.rtpSession = some sender) (request : InternalRequest) :
    ∃ sender', (method.implementation session request).1.rtpSession = some sender' ∧
      sender.Extends sender' := by
  cases method with
  | play =>
    rcases play_cases session request with hsame | ⟨sender', response, -, hsome, -, hplay⟩
    · exact ⟨sender, (congrArg (·.rtpSession) hsame).trans hsender,
        Rtp.Sender.extends_of_eq rfl rfl⟩
    · obtain rfl : sender' = sender := Option.some.inj (hsome.symm.trans hsender)
      exact ⟨_, congrArg (·.1.rtpSession) hplay, sender'.start_extends⟩
  | pause =>
    rcases pause_cases session request with hsame | ⟨sender', response, -, hsome, -, hpause⟩
    · exact ⟨sender, (congrArg (·.rtpSession) hsame).trans hsender,
        Rtp.Sender.extends_of_eq rfl rfl⟩
    · obtain rfl : sender' = sender := Option.some.inj (hsome.symm.trans hsender)
      exact ⟨_, congrArg (·.1.rtpSession) hpause, sender'.stop_extends⟩
  | teardown => exact ⟨sender, hsender, Rtp.Sender.extends_of_eq rfl rfl⟩

lemma stepSender_extends {session session' : ServerSession} {event : Rtp.SenderEvent}
    (h : session.stepSender event = some session') :
    ∃ sender sender', session.rtpSession = some sender ∧ session'.rtpSession = some sender' ∧
      sender.Extends sender' := by
  unfold ServerSession.stepSender at h
  split_ifs at h
  obtain ⟨sender, hsender, h⟩ := Option.bind_eq_some_iff.mp h
  obtain ⟨sender', hstep, rfl⟩ := Option.map_eq_some_iff.mp h
  exact ⟨sender, sender', hsender, rfl, Rtp.Sender.step_extends hstep⟩

/-- Every sender marks what it sends. -/
theorem marks_invariant (env : Environment) :
    SessionInvariant env fun _ session => ∀ sender ∈ session.rtpSession, sender.Marks where
  new _ _ h := by cases h
  seen _ h := h
  method := by
    intro identifier session draws entry request hmem h
    simp only [methods, List.mem_cons, List.not_mem_nil, or_false] at hmem
    rcases hmem with rfl | rfl | rfl | rfl | rfl
    · exact h
    · change ∀ sender ∈ (setup env draws session request).1.rtpSession, sender.Marks
      rcases setup_cases env draws session request with
        ⟨hkept, -⟩ | ⟨ssrc, source, fecK, response, -, -, hsetup⟩
      · rw [hkept]
        exact h
      · rw [hsetup]
        rintro _ ⟨rfl⟩
        exact List.forall_mem_nil _
    · exact h
    · change ∀ sender ∈ (play session request).1.rtpSession, sender.Marks
      rcases play_cases session request with hkept | ⟨sender, response, -, hsome, -, hplay⟩
      · rw [hkept]
        exact h
      · rw [hplay]
        rintro _ ⟨rfl⟩
        exact sender.start_extends.marks (h sender hsome)
    · change ∀ sender ∈ (pause session request).1.rtpSession, sender.Marks
      rcases pause_cases session request with hkept | ⟨sender, response, -, hsome, -, hpause⟩
      · rw [hkept]
        exact h
      · rw [hpause]
        rintro _ ⟨rfl⟩
        exact sender.stop_extends.marks (h sender hsome)
  sender := by
    intro identifier session session' event h hstep
    obtain ⟨sender, sender', hsender, hsender', hextends⟩ := stepSender_extends hstep
    rw [hsender']
    rintro _ ⟨rfl⟩
    exact hextends.marks (h sender hsender)

/-! ### What the client holds -/

/-- The session of the client and its receiver after the handler of a response has returned. -/
def settleEnds (held : ClientSession × Option ReceiverParameters) (a : Sent × Response) :
    ClientSession × Option ReceiverParameters :=
  (settle held.1 a, if a.1.method = .setup then receiverOf a.2 else held.2)

/-- Unless the client is in state init, there is a sender for its session, and its receiver has the
port that the sender sends to and the source of the sender. -/
def Connects (requester : Address) (destinations : Destinations) (s : ServerState)
    (held : ClientSession × Option ReceiverParameters) : Prop :=
  held.1.sessionState ≠ .init → ∃ session sender port,
    s.sessions.lookup held.1.identifier = some session ∧ session.rtpSession = some sender ∧
      held.2 = some ⟨port, sender.ssrc⟩ ∧ destinations held.1.identifier = some (requester, port)

/-- The client can not build a receiver for the response. -/
def Unusable (a : Sent × Response) : Prop :=
  a.1.method = .setup ∧ ¬(a.2.IsSuccess ∧ (receiverOf a.2).isSome = true)

section Serve

variable {env : Environment} {draws : Draws} {requester : Address} {destinations : Destinations}
  {s : ServerState} {held : ClientSession × Option ReceiverParameters} {q : Sent}
  {request : Request} {response : Response}

lemma createsSession_of_isRequest (hq : q.IsRequest request) (hmethod : q.method = .setup) :
    CreatesSession request := by
  refine ⟨?_, ?_, ?_⟩
  · rw [hq.cseq]
    exact numeral_ne_nil _ _ _
  · rw [hq.name, hmethod]
    rfl
  · rw [hq.session, if_pos hmethod]

/-- A SETUP makes both ends, or the client can not use its response. -/
lemma serve_setup_connects
    (hid : s.All fun identifier session => session.identifier = identifier)
    (hq : q.IsRequest request) (hmethod : q.method = .setup)
    (h : (s.handleIncomingRequest env draws request requester).2 = .ok response) :
    Unusable (q, response) ∨ Connects requester
      (destinations.add draws.identifier (s.destination env draws request requester))
      (s.handleIncomingRequest env draws request requester).1 (settleEnds held (q, response)) := by
  by_cases huse : response.IsSuccess ∧ (receiverOf response).isSome = true
  · obtain ⟨hsuccess, hreceiver⟩ := huse
    obtain ⟨parameters, hparameters⟩ := Option.isSome_iff_exists.mp hreceiver
    have hcreates := createsSession_of_isRequest hq hmethod
    have hlookup : (methods env draws).lookup request.methodOrExtension =
        some (setup env draws) := by
      rw [hcreates.2.1]
      rfl
    rw [ServerState.destination, if_pos hcreates]
    rw [handleIncomingRequest_of_createsSession env s draws requester hcreates,
      ServerState.handleSetup, hlookup] at h ⊢
    obtain ⟨sender, clientPort, hsender, hdestination, hconnects⟩ := setup_connects h hsuccess
    have hsession := ((setup_correlated hq.cseq h).2 hsuccess).1
    rw [emplaceSession_identifier hid] at hsession
    obtain rfl := hconnects parameters hparameters
    right
    intro _
    have hsettled : settleEnds held (q, response) =
        (⟨draws.identifier, .ready⟩, some ⟨clientPort, sender.ssrc⟩) := by
      simp [settleEnds, settle, hmethod, hsession, hparameters]
    rw [hsettled, hdestination]
    exact ⟨_, sender, clientPort, Finmap.lookup_insert _, hsender, rfl, Function.update_self _ _ _⟩
  · exact Or.inl ⟨hmethod, huse⟩

/-- PLAY and PAUSE keep the sender of the session that they name. -/
lemma serve_keeps_sender {method : SessionMethod} (hmethod : method ≠ .teardown)
    {identifier : Text} (hnames : request.Names method identifier) {session : ServerSession}
    {sender : Rtp.Sender} (hlookup : s.sessions.lookup identifier = some session)
    (hsender : session.rtpSession = some sender) :
    ∃ session' sender', (s.handleIncomingRequest env draws request requester).1.sessions.lookup
        identifier = some session' ∧ session'.rtpSession = some sender' ∧
      sender'.ssrc = sender.ssrc := by
  have hname : request.methodOrExtension ≠ str "TEARDOWN" := by
    rw [hnames.2.1]
    cases method with
    | play => decide
    | pause => decide
    | teardown => exact absurd rfl hmethod
  obtain ⟨sender', hsender', hextends⟩ := @implementation_extends method
    { session with lastSeenRequestAddress := requester } sender hsender
    (request, normalizeHeaders request.headers)
  rw [handleIncomingRequest_of_names env s draws requester hnames]
  unfold ServerState.handleMethod
  rw [hlookup]
  dsimp only [ServerState.call]
  split
  · exact ⟨_, sender', Finmap.lookup_insert _, hsender', hextends.ssrc⟩
  · rw [if_neg hname]
    exact ⟨_, sender', Finmap.lookup_insert _, hsender', hextends.ssrc⟩

/-- A request in turn keeps both ends together, or the client can not use its response. -/
lemma serve_connects (hid : s.All fun identifier session => session.identifier = identifier)
    (hq : q.IsRequest request)
    (hidentifier : q.method ≠ .setup → q.identifier = held.1.identifier)
    (hsteady : q.method = .play ∨ q.method = .pause →
      held.1.sessionState = .ready ∨ held.1.sessionState = .playing)
    (hconnects : Connects requester destinations s held)
    (h : (s.handleIncomingRequest env draws request requester).2 = .ok response) :
    Unusable (q, response) ∨ Connects requester
      (destinations.add draws.identifier (s.destination env draws request requester))
      (s.handleIncomingRequest env draws request requester).1 (settleEnds held (q, response)) := by
  by_cases hsetup : q.method = .setup
  · exact serve_setup_connects hid hq hsetup h
  right
  have hname : request.methodOrExtension ≠ str "SETUP" := by
    rw [hq.name]
    cases hmethod : q.method with
    | setup => exact absurd hmethod hsetup
    | play => decide
    | pause => decide
    | teardown => decide
  have hnone : s.destination env draws request requester = none :=
    if_neg fun hcreates => hname hcreates.2.1
  have hkeeps : ∀ method : SessionMethod, method ≠ .teardown → q.method.name = method.name →
      (held.1.sessionState = .ready ∨ held.1.sessionState = .playing) →
      (settle held.1 (q, response)).identifier = held.1.identifier →
      Connects requester (destinations.add draws.identifier none)
        (s.handleIncomingRequest env draws request requester).1
        (settleEnds held (q, response)) := by
    intro method hteardown hsame hstate hkept _
    have hnames : request.Names method held.1.identifier := by
      refine ⟨?_, hq.name.trans hsame, ?_⟩
      · rw [hq.cseq]
        exact numeral_ne_nil _ _ _
      · rw [hq.session, if_neg hsetup, hidentifier hsetup]
    have hinit : held.1.sessionState ≠ .init := by
      rcases hstate with hstate | hstate <;> rw [hstate] <;> decide
    obtain ⟨session, sender, port, hlookup, hsender, hreceiver, hdestination⟩ := hconnects hinit
    obtain ⟨session', sender', hlookup', hsender', hssrc⟩ :=
      @serve_keeps_sender env draws requester s request method hteardown held.1.identifier hnames
        session sender hlookup hsender
    refine ⟨session', sender', port, ?_, hsender', ?_, ?_⟩
    · rw [settleEnds, hkept]
      exact hlookup'
    · rw [settleEnds, if_neg hsetup, hssrc]
      exact hreceiver
    · rw [settleEnds, hkept]
      exact hdestination
  rw [hnone]
  cases hmethod : q.method with
  | setup => exact absurd hmethod hsetup
  | play =>
    have hsame : q.method.name = SessionMethod.play.name := by
      rw [hmethod]
      rfl
    exact hkeeps .play (by decide) hsame (hsteady (Or.inl hmethod)) (settle_identifier hsetup)
  | pause =>
    have hsame : q.method.name = SessionMethod.pause.name := by
      rw [hmethod]
      rfl
    exact hkeeps .pause (by decide) hsame (hsteady (Or.inr hmethod)) (settle_identifier hsetup)
  | teardown =>
    intro hstate
    refine absurd ?_ hstate
    rw [settleEnds, settle, hmethod]

end Serve

/-- A handler of a sender keeps both ends together. -/
lemma Connects.sender {env : Environment} {requester : Address} {destinations : Destinations}
    {s s' : ServerState} {held : ClientSession × Option ReceiverParameters} {identifier : Text}
    {event : Rtp.SenderEvent} (h : Connects requester destinations s held)
    (hstep : s.step env (.sender identifier event) = some s') :
    Connects requester destinations s' held := by
  obtain ⟨session, hlookup, hstep⟩ := Option.bind_eq_some_iff.mp hstep
  obtain ⟨session', hsession, rfl⟩ := Option.map_eq_some_iff.mp hstep
  obtain ⟨sender, sender', hsender, hsender', hextends⟩ := stepSender_extends hsession
  intro hstate
  obtain ⟨session₁, sender₁, port, hlookup₁, hsender₁, hreceiver, hdestination⟩ := h hstate
  by_cases hsame : held.1.identifier = identifier
  · obtain rfl : session₁ = session :=
      Option.some.inj (hlookup₁.symm.trans (hsame ▸ hlookup))
    obtain rfl : sender₁ = sender := Option.some.inj (hsender₁.symm.trans hsender)
    refine ⟨session', sender', port, ?_, hsender', ?_, hdestination⟩
    · rw [hsame]
      exact Finmap.lookup_insert _
    · rw [hextends.ssrc]
      exact hreceiver
  · refine ⟨session₁, sender₁, port, ?_, hsender₁, hreceiver, hdestination⟩
    exact (Finmap.lookup_insert_of_ne _ hsame).trans hlookup₁

/-! ### The responses of the client -/

/-- A handler that accepts its response settles both the session and the receiver, and it can use
the response. -/
lemma handleResponse_ends {c : RtspClient} {socketOpens : Bool} {a : Sent × Response}
    (h : a.1.method.handler.Accepts socketOpens a.2) :
    ((c.handleResponse socketOpens a.2 a.1.method.handler).1.session,
        (c.handleResponse socketOpens a.2 a.1.method.handler).1.rtpReceiver) =
      settleEnds (c.session, c.rtpReceiver) a ∧ ¬Unusable a := by
  have hsession := @handleResponse_session c socketOpens a h
  rw [settleEnds, Prod.mk.injEq, hsession]
  cases hmethod : a.1.method with
  | setup =>
    rw [hmethod] at h
    obtain ⟨⟨hle, hlt⟩, hsome, ⟨transport, htransport, husable⟩, hopens⟩ := h
    obtain ⟨identifier, hidentifier⟩ := Option.ne_none_iff_exists'.mp hsome
    have htransport : (normalizeHeaders a.2.headers).lookup (str "transport") = some transport :=
      htransport
    have hok := (processServerTransportHeader_isOk_iff transport).mpr husable
    cases hprocess : processServerTransportHeader transport with
    | error fault =>
      rw [hprocess] at hok
      cases hok
    | ok parameters =>
      have hreceiver : receiverOf a.2 = some parameters := by
        rw [receiverOf, htransport, Option.bind_some, hprocess]
        rfl
      have hstatus : ¬(a.2.statusCode < 200 ∨ 300 ≤ a.2.statusCode) :=
        not_or.mpr ⟨not_lt.mpr hle, not_le.mpr hlt⟩
      refine ⟨⟨rfl, ?_⟩, fun hunusable => hunusable.2 ⟨⟨hle, hlt⟩, by rw [hreceiver]; rfl⟩⟩
      rw [if_pos rfl, hreceiver]
      simp only [ClientMethod.handler, RtspClient.handleResponse, RtspClient.setupHandler, hstatus,
        if_false, hidentifier, htransport, hprocess, hopens]
      rfl
  | play =>
    refine ⟨⟨rfl, rfl⟩, fun hunusable => ?_⟩
    exact absurd (hmethod.symm.trans hunusable.1) (by decide)
  | pause =>
    refine ⟨⟨rfl, rfl⟩, fun hunusable => ?_⟩
    exact absurd (hmethod.symm.trans hunusable.1) (by decide)
  | teardown =>
    refine ⟨⟨rfl, rfl⟩, fun hunusable => ?_⟩
    exact absurd (hmethod.symm.trans hunusable.1) (by decide)

/-- A response whose handler returns does what its handler does to the receiver. -/
lemma processResponse_rtpReceiver {c : RtspClient} {socketOpens : Bool} {response : Response}
    {cseq : Text} (h : response.Answers cseq)
    (hreturns : (c.processResponse socketOpens response).2 = none) :
    ∀ handler ∈ c.outstandingRequests.lookup (readCseq cseq),
      (c.processResponse socketOpens response).1.rtpReceiver =
        (c.handleResponse socketOpens response handler).1.rtpReceiver := by
  intro handler hmem
  have hhandler : c.outstandingRequests.lookup (readCseq cseq) = some handler := hmem
  have hcseq : cseqHeader response = some cseq := h.cseq
  have hfinal : ¬response.statusCode < 200 := not_lt.mpr h.final
  have hcaught := handleResponse_ne_outOfRange c socketOpens response handler
  simp only [RtspClient.processResponse, hcseq, hfinal, if_false, hhandler] at hreturns ⊢
  rcases hresult : c.handleResponse socketOpens response handler with ⟨c', fault | returned⟩
    <;> rw [hresult] at hcaught hreturns
  · cases fault with
    | outOfRange => exact absurd rfl hcaught
    | runtimeError what => cases hreturns
    | systemError => cases hreturns
  · rfl

/-! ### The invariant -/

/-- Once the responses on the way are read, sender and receiver will be the ends of one path, unless
something goes wrong before. -/
def WillConnect (requester : Address) (d : Dialog) (destinations : Destinations)
    (answered : List (Sent × Response)) (asked : List (Sent × Request)) : Prop :=
  Stranded d.client.outstandingRequests (sentOf answered asked) ∨
    Awaited d.client.outstandingRequests (sentOf answered asked) ∧
      ((∃ a ∈ answered, Unusable a) ∨ InSequence d.client.session (sentOf answered asked) ∧
        Connects requester destinations d.server
          (answered.foldl settleEnds (d.client.session, d.client.rtpReceiver)))

/-- A dialog in which every step was in turn, with the endpoints of its senders. -/
def Linked (requester : Address) (d : Dialog) (destinations : Destinations) : Prop :=
  ∃ answered asked, OnTheWay d answered asked ∧
    WillConnect requester d destinations answered asked

lemma foldl_settleEnds (answered : List (Sent × Response))
    (held : ClientSession × Option ReceiverParameters) :
    (answered.foldl settleEnds held).1 = answered.foldl settle held.1 := by
  induction answered generalizing held with
  | nil => rfl
  | cons a answered ih => exact ih (settleEnds held a)

/-- The next request, for the session as the client has it. -/
lemma InSequence.concat {session : ClientSession} {sent : List Sent} {q : Sent}
    (h : InSequence session sent) (hfollows : ∀ p ∈ sent, q.method.MayFollow p.method.handler)
    (hidentifier : q.identifier = session.identifier)
    (hstate : q.method.refusal session.sessionState = none) :
    InSequence session (sent ++ [q]) := by
  refine ⟨?_, ?_, ?_⟩
  · rw [List.pairwise_append]
    refine ⟨h.follows, List.pairwise_singleton _ _, fun p hmem q' hq => ?_⟩
    rw [List.mem_singleton.mp hq]
    exact hfollows p hmem
  · exact List.forall_mem_append.mpr
      ⟨h.identifier, List.forall_mem_singleton.mpr fun _ => hidentifier⟩
  · exact List.forall_mem_append.mpr
      ⟨h.steady, List.forall_mem_singleton.mpr (refusal_steady hstate)⟩

section Linked

variable {env : Environment} {requester : Address} {d d' : Dialog} {destinations : Destinations}

lemma Linked.frame (h : Linked requester d destinations) (hrequests : d'.requests = d.requests)
    (hresponses : d'.responses = d.responses)
    (houtstanding : d'.client.outstandingRequests = d.client.outstandingRequests)
    (hsession : d'.client.session = d.client.session)
    (hreceiver : d'.client.rtpReceiver = d.client.rtpReceiver)
    (hserver : ∀ held, Connects requester destinations d.server held →
      Connects requester destinations d'.server held) : Linked requester d' destinations := by
  obtain ⟨answered, asked, hway, hwill⟩ := h
  refine ⟨answered, asked, ⟨?_, ?_, hway.isRequest, hway.answers⟩, ?_⟩
  · rw [hrequests, hway.requests]
  · rw [hresponses, hway.responses]
  · rw [WillConnect, houtstanding, hsession, hreceiver]
    rcases hwill with hstranded | ⟨hawaited, hunusable | ⟨hsequence, hconnects⟩⟩
    · exact Or.inl hstranded
    · exact Or.inr ⟨hawaited, Or.inl hunusable⟩
    · exact Or.inr ⟨hawaited, Or.inr ⟨hsequence, hserver _ hconnects⟩⟩

/-- A request that is sent in turn. -/
lemma Linked.send (h : Linked requester d destinations) (originalUrl : Text)
    (choices : SetupChoices) {method : ClientMethod}
    (hstate : method.refusal d.client.session.sessionState = none) (hmay : d.MaySend method) :
    Linked requester (d.send originalUrl choices method) destinations := by
  obtain ⟨answered, asked, hway, hwill⟩ := h
  obtain ⟨hfree, hfollows⟩ := hmay
  obtain ⟨request, hrequests, hrequest⟩ := send_isRequest d originalUrl choices method
  have hsent : sentOf answered (asked ++ [(d.sent method, request)]) =
      sentOf answered asked ++ [d.sent method] := by
    simp [sentOf]
  refine ⟨answered, asked ++ [(d.sent method, request)], ⟨?_, hway.responses, ?_, hway.answers⟩, ?_⟩
  · rw [hrequests, hway.requests, List.map_append]
    rfl
  · exact List.forall_mem_append.mpr ⟨hway.isRequest, List.forall_mem_singleton.mpr hrequest⟩
  · rw [WillConnect, hsent, send_outstandingRequests]
    rcases hwill with hstranded | ⟨hawaited, hunusable | ⟨hsequence, hconnects⟩⟩
    · exact Or.inl (hstranded.insert hfree)
    · exact Or.inr ⟨hawaited.insert hfree, Or.inl hunusable⟩
    · refine Or.inr ⟨hawaited.insert hfree, Or.inr ⟨hsequence.concat ?_ rfl hstate, hconnects⟩⟩
      intro p hmem
      have hhandler := hawaited.handler p hmem
      refine hfollows p.key ?_ p.method.handler hhandler
      rw [Finmap.mem_keys, ← Finmap.lookup_isSome, hhandler]
      rfl

lemma Linked.serve (h : Linked requester d destinations)
    (hserver : (serverSystem env).Reachable Always d.server) (draws : Draws) {request : Request}
    {requests : List Request} (hrequests : d.requests = request :: requests)
    (hthrown : (d.serve env draws requester request requests).thrown = false) :
    Linked requester (d.serve env draws requester request requests)
      (destinations.add draws.identifier (d.server.destination env draws request requester)) := by
  have hid := (identifier_invariant env).reachable hserver
  obtain ⟨answered, asked, hway, hwill⟩ := h
  have hmap := hway.requests
  rw [hrequests] at hmap
  obtain ⟨⟨q, request'⟩, asked, rfl, heq, rfl⟩ := List.map_eq_cons_iff.mp hmap.symm
  obtain rfl : request' = request := heq
  have hq := hway.isRequest _ List.mem_cons_self
  obtain ⟨response, hresult, hserve⟩ := serve_cases hthrown
  rw [hserve]
  have hanswers := handleIncomingRequest_answers hq.cseq (numeral_ne_nil _ _ _) hresult
  have hsent : sentOf (answered ++ [(q, response)]) asked =
      sentOf answered ((q, request') :: asked) := by
    simp [sentOf]
  refine ⟨answered ++ [(q, response)], asked, ⟨rfl, ?_, ?_, ?_⟩, ?_⟩
  · rw [List.map_append, ← hway.responses]
    rfl
  · exact fun a hmem => hway.isRequest a (List.mem_cons_of_mem _ hmem)
  · exact List.forall_mem_append.mpr ⟨hway.answers, List.forall_mem_singleton.mpr hanswers⟩
  · rw [WillConnect, hsent]
    rcases hwill with hstranded | ⟨hawaited, ⟨a, hmem, hunusable⟩ | ⟨hsequence, hconnects⟩⟩
    · exact Or.inl hstranded
    · exact Or.inr ⟨hawaited, Or.inl ⟨a, List.mem_append_left _ hmem, hunusable⟩⟩
    · -- the session of the client when it comes to this response
      have hsettled := hsequence.foldl
      rw [← foldl_settleEnds answered (d.client.session, d.client.rtpReceiver)] at hsettled
      have hfirst : (q, request') ∈ (q, request') :: asked := List.mem_cons_self
      have hmem : q ∈ ((q, request') :: asked).map (·.1) := List.mem_map_of_mem hfirst
      rcases serve_connects hid hq (hsettled.identifier q hmem) (hsettled.steady q hmem) hconnects
        hresult with hunusable | hconnects
      · exact Or.inr ⟨hawaited, Or.inl ⟨(q, response), List.mem_append_right _
          (List.mem_singleton_self _), hunusable⟩⟩
      · refine Or.inr ⟨hawaited, Or.inr ⟨hsequence, ?_⟩⟩
        rw [List.foldl_append]
        exact hconnects

lemma Linked.deliver (h : Linked requester d destinations) {socketOpens : Bool}
    {response : Response} {responses : List Response}
    (hresponses : d.responses = response :: responses)
    (hthrown : (d.deliver socketOpens response responses).thrown = false) :
    Linked requester (d.deliver socketOpens response responses) destinations := by
  obtain ⟨answered, asked, hway, hwill⟩ := h
  have hmap := hway.responses
  rw [hresponses] at hmap
  obtain ⟨⟨q, response'⟩, answered, rfl, heq, rfl⟩ := List.map_eq_cons_iff.mp hmap.symm
  obtain rfl : response' = response := heq
  have hanswers := hway.answers _ List.mem_cons_self
  have hreturns : (RtspClient.processResponse { d.client with reading := false } socketOpens
      response').2 = none := by
    have hor := (Bool.or_eq_false_iff.mp hthrown).2
    rwa [Option.isSome_eq_false_iff, Option.isNone_iff_eq_none] at hor
  obtain ⟨houtstanding, hhandler⟩ := processResponse_cases hanswers hreturns
  have hreceiver := processResponse_rtpReceiver hanswers hreturns
  refine ⟨answered, asked, ⟨hway.requests, rfl, hway.isRequest, fun a hmem =>
    hway.answers a (List.mem_cons_of_mem _ hmem)⟩, ?_⟩
  have hafter : (d.deliver socketOpens response' (answered.map (·.2))).client.outstandingRequests =
      d.client.outstandingRequests.erase q.answerKey := houtstanding
  rw [WillConnect, hafter]
  rcases hwill with hstranded | ⟨hawaited, hwill⟩
  · exact Or.inl hstranded.tail
  by_cases hkey : q.answerKey = q.key
  · have hfirst : d.client.outstandingRequests.lookup q.answerKey = some q.method.handler := by
      rw [hkey]
      exact hawaited.handler q List.mem_cons_self
    obtain ⟨haccepts, hsession⟩ := hhandler q.method.handler hfirst
    obtain ⟨hends, husable⟩ := @handleResponse_ends { d.client with reading := false } socketOpens
      (q, response') haccepts
    have hsettled : ((d.deliver socketOpens response' (answered.map (·.2))).client.session,
        (d.deliver socketOpens response' (answered.map (·.2))).client.rtpReceiver) =
        settleEnds (d.client.session, d.client.rtpReceiver) (q, response') := by
      rw [← hends]
      exact Prod.ext hsession (hreceiver q.method.handler hfirst)
    refine Or.inr ⟨hkey ▸ hawaited.tail, ?_⟩
    rw [hsettled]
    rcases hwill with ⟨a, hmem, hunusable⟩ | ⟨hsequence, hconnects⟩
    · rcases List.mem_cons.mp hmem with rfl | hmem
      · exact absurd hunusable husable
      · exact Or.inl ⟨a, hmem, hunusable⟩
    · refine Or.inr ⟨?_, hconnects⟩
      have hsame := congrArg Prod.fst hsettled
      dsimp only at hsame
      rw [hsame]
      exact hsequence.settle
  · exact Or.inl (hawaited.stranded hkey)

end Linked

/-! ### Runs -/

/-- The dialogs of a client and a server with the endpoints of the senders. -/
def mediaSystem (env : Environment) (requester : Address) (originalUrl : Text) :
    System (Dialog × Destinations) DialogEvent :=
  (dialogSystem env requester originalUrl).recording (fun _ => none)
    (recordDestination env requester)

section Run

variable {env : Environment} {requester : Address} {originalUrl : Text} {d d' : Dialog}
  {destinations : Destinations}

lemma linked_init (h : (dialogSystem env requester originalUrl).init d) :
    Linked requester d fun _ => none := by
  obtain ⟨-, -, hinit⟩ := h
  rw [hinit]
  have hway : OnTheWay { server := d.server } [] [] :=
    ⟨rfl, rfl, List.forall_mem_nil _, List.forall_mem_nil _⟩
  refine ⟨[], [], hway, Or.inr ⟨⟨.nil, List.forall_mem_nil _⟩, Or.inr ?_⟩⟩
  exact ⟨⟨.nil, List.forall_mem_nil _, List.forall_mem_nil _⟩, fun hstate => absurd rfl hstate⟩

/-- A step in turn keeps sender and receiver linked. -/
lemma Linked.step (hd : Concordant env d)
    (h : d.thrown = false → Linked requester d destinations) {event : DialogEvent}
    (hturn : d.InTurn event)
    (hstep : (dialogSystem env requester originalUrl).step d event = some d')
    (hthrown : d'.thrown = false) :
    Linked requester d' (recordDestination env requester d destinations event) := by
  cases event with
  | call method choices =>
    cases hstep
    unfold Dialog.call at hthrown ⊢
    cases hrefusal : method.refusal d.client.session.sessionState with
    | some fault =>
      rw [hrefusal] at hthrown
      exact h hthrown
    | none =>
      rw [hrefusal] at hthrown
      dsimp only at hthrown ⊢
      split_ifs at hthrown ⊢ with hclosed
      · exact (h hthrown).frame rfl rfl rfl rfl rfl fun _ hheld => hheld
      · exact (h hthrown).send originalUrl choices hrefusal (hturn hrefusal hclosed)
  | resolved callback =>
    simp only [dialogSystem, Dialog.step] at hstep
    split_ifs at hstep
    cases hstep
    simp only [Dialog.resolved] at hthrown ⊢
    split_ifs at hthrown ⊢
    exact (h hthrown).frame rfl rfl rfl rfl rfl fun _ hheld => hheld
  | connected choices =>
    obtain ⟨callback, hcallback, rfl⟩ := Option.map_eq_some_iff.mp hstep
    have hinit : d.client.session.sessionState = .init := by
      refine (hd.opening.unread fun hconnected => ?_).2
      rw [hconnected] at hcallback
      cases hcallback
    have hopen : Linked requester { d with socket := .connected, client := d.client.asyncReadUntil }
        destinations := (h hthrown).frame rfl rfl rfl rfl rfl fun _ hheld => hheld
    refine hopen.send originalUrl choices ?_ (hturn callback hcallback)
    change callback.refusal d.client.session.sessionState = none
    rw [hinit]
    exact hd.opening.callback callback hcallback
  | serve draws =>
    cases hrequests : d.requests with
    | nil => simp [dialogSystem, Dialog.step, hrequests] at hstep
    | cons request requests =>
      simp only [dialogSystem, Dialog.step, hrequests, Option.some.injEq] at hstep
      subst hstep
      have hbefore : d.thrown = false := by
        obtain ⟨response, -, hserve⟩ := serve_cases hthrown
        rw [hserve] at hthrown
        exact hthrown
      have hserve := (h hbefore).serve hd.server draws hrequests hthrown
      simpa only [recordDestination, hrequests] using hserve
  | deliver socketOpens =>
    cases hresponses : d.responses with
    | nil => simp [dialogSystem, Dialog.step, hresponses] at hstep
    | cons response responses =>
      simp only [dialogSystem, Dialog.step, hresponses] at hstep
      split_ifs at hstep
      cases hstep
      exact (h (Bool.or_eq_false_iff.mp hthrown).1).deliver hresponses hthrown
  | sender identifier event =>
    obtain ⟨server, hserver, rfl⟩ := Option.map_eq_some_iff.mp hstep
    exact (h hthrown).frame rfl rfl rfl rfl rfl fun _ hheld => hheld.sender hserver

/-- With nothing outstanding, sender and receiver are the ends of one path. -/
lemma Linked.connects (h : Linked requester d destinations) (hquiet : d.Quiet) :
    Connects requester destinations d.server (d.client.session, d.client.rtpReceiver) := by
  obtain ⟨answered, asked, -, hwill⟩ := h
  obtain ⟨rfl, rfl, ⟨a, hmem, -⟩ | ⟨-, hconnects⟩⟩ := nothing_awaited hquiet hwill
  · cases hmem
  · exact hconnects

/-- In every run in which requests are sent in turn, whenever no request is outstanding, no handler
has thrown and the client is not in state init, the server has a sender for its session in the same
state, which sends to the port of the client's receiver, and all that it has sent is of the source
that the receiver waits for, which never refuses it. -/
theorem media_path {s : Dialog × Destinations}
    (hs : (mediaSystem env requester originalUrl).Reachable (fun s e => s.1.InTurn e) s)
    (hquiet : s.1.Quiet) (hthrown : s.1.thrown = false)
    (hstate : s.1.client.session.sessionState ≠ .init) :
    ∃ session sender port,
      s.1.server.sessions.lookup s.1.client.session.identifier = some session ∧
      session.sessionState = s.1.client.session.sessionState ∧
      session.rtpSession = some sender ∧
      s.1.client.rtpReceiver = some ⟨port, sender.ssrc⟩ ∧
      s.2 s.1.client.session.identifier = some (requester, port) ∧
      ∀ datagram ∈ sender.sent, Rtp.Recognised sender.ssrc datagram := by
  have hlinked : Concordant env s.1 ∧ (s.1.thrown = false → Linked requester s.1 s.2) := by
    apply hs.recording_invariant
      (I := fun d destinations => Concordant env d ∧
        (d.thrown = false → Linked requester d destinations))
    · exact fun d hinit => ⟨concordant_init hinit, fun _ => linked_init hinit⟩
    · exact fun d destinations event d' h hturn hstep =>
        ⟨h.1.step hturn hstep, fun hthrown => Linked.step h.1 h.2 hturn hstep hthrown⟩
  obtain ⟨hd, hlinked⟩ := hlinked
  obtain ⟨session, sender, port, hlookup, hsender, hreceiver, hdestination⟩ :=
    (hlinked hthrown).connects hquiet hstate
  have hagrees := (hd.tracked hthrown).agrees hquiet
  rw [Dialog.Agrees, AgreesOn, ServerState.stateOf, hlookup] at hagrees
  exact ⟨session, sender, port, hlookup, hagrees.symm, hsender, hreceiver, hdestination,
    (marks_invariant env).reachable hd.server _ session hlookup sender hsender⟩

end Run

/-- A root whose files hold one frame. -/
def frameRoot : Environment :=
  { emptyRoot with openFile := fun _ => { chars := str "00002" ++ [0xFF, 0xD9] } }

/-- A session is set up with FEC behind every packet and played, and its sender sends a packet. -/
def playingEvents : List DialogEvent :=
  [.call .setup {}, .resolved .setup,
    .connected { mknOption := some (str "bernoulli_p=0.5;fec_k=1;fec_p=0") },
    .serve { identifier := str "a", ssrc := 0x12345678 }, .deliver true, .call .play {}, .serve {},
    .deliver true, .sender (str "a") .strand, .sender (str "a") .expire,
    .sender (str "a") (.handler false false)]

/-- How many datagrams the sender of a session has sent. -/
def ServerState.sentCount (s : ServerState) (identifier : Text) : Option ℕ :=
  ((s.sessions.lookup identifier).bind (·.rtpSession)).map (·.sent.length)

theorem media_path_play :
    ∃ s ∈ (mediaSystem frameRoot default (str "rtsp://localhost/movie")).run ({}, fun _ => none)
        playingEvents, ∃ session sender port,
      s.1.server.sessions.lookup (str "a") = some session ∧ session.sessionState = .playing ∧
      session.rtpSession = some sender ∧ s.1.client.rtpReceiver = some ⟨port, sender.ssrc⟩ ∧
      s.2 (str "a") = some (default, port) ∧ sender.sent.length = 2 ∧
      ∀ datagram ∈ sender.sent, Rtp.Recognised sender.ssrc datagram := by
  obtain ⟨s, hrun, hquiet, hthrown, hidentifier, hstate, hcount⟩ :
      ∃ s ∈ (mediaSystem frameRoot default (str "rtsp://localhost/movie")).run ({}, fun _ => none)
        playingEvents, s.1.Quiet ∧ s.1.thrown = false ∧
        s.1.client.session.identifier = str "a" ∧ s.1.client.session.sessionState = .playing ∧
        s.1.server.sentCount (str "a") = some 2 := by
    decide
  have hmeets : (mediaSystem frameRoot default (str "rtsp://localhost/movie")).Meets
      (fun s e => s.1.InTurn e) ({}, fun _ => none) playingEvents := by
    decide
  have hinit : (mediaSystem frameRoot default (str "rtsp://localhost/movie")).Reachable
      (fun s e => s.1.InTurn e) ({}, fun _ => none) := .init ⟨⟨.init rfl, rfl, rfl⟩, rfl⟩
  have hplaying : s.1.client.session.sessionState ≠ .init := by
    rw [hstate]
    decide
  obtain ⟨session, sender, port, hlookup, hsame, hsender, hreceiver, hdestination, hrecognised⟩ :=
    media_path (hinit.run hmeets hrun) hquiet hthrown hplaying
  rw [hidentifier] at hlookup hdestination
  rw [ServerState.sentCount, hlookup, Option.bind_some, hsender] at hcount
  exact ⟨s, hrun, session, sender, port, hlookup, hsame.trans hstate, hsender, hreceiver,
    hdestination, Option.some.inj hcount, hrecognised⟩

end Rtsp
