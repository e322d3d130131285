import StreamingLib.Rtsp.Headers.Normalize
import StreamingLib.Rtsp.Headers.Options
import StreamingLib.Rtsp.Headers.Transport
import StreamingLib.Rtsp.Session

/-!
# The methods of the server

`rtsp_methods.cpp`. A method updates its session and gives a response, or it ends by an exception
with the session as it was left. What the code reads from its surroundings is given: the file
system, and for each request the values drawn at random and whether the socket of a new sender
can be set up.
-/

namespace Rtsp

open Peg

/-- What a method reads besides its request. -/
structure Environment where
  ressourceRoot : Text
  /-- `fileapi::canonical` of a path and a base, `none` where it throws `filesystem_error`. -/
  canonical : Text → Text → Option Text
  /-- `std::fstream` of a path; a file that can not be opened gives a stream without good bit. -/
  openFile : Text → Rtp.IStream
  /-- `double_` with the check that its value is a probability. -/
  probability : Parser UInt8 Unit

/-- A root whose files are all empty. -/
def emptyRoot : Environment where
  ressourceRoot := str "/srv"
  canonical path base := some (base ++ str "/" ++ path)
  openFile _ := { chars := [] }
  probability := lit (str "0.5")

/-- What is drawn for one request. -/
structure Draws where
  /-- `make_new_session_identifier_`. -/
  identifier : Text := []
  clientPort : UInt16 := 49152
  ssrc : UInt32 := 0
  sequenceNumber : UInt16 := 0
  fecSequenceNumber : UInt16 := 0
  /-- Whether the socket is bound to the server port and takes its options. -/
  socketOpens : Bool := true
deriving DecidableEq

/-- How a method ends without a response. -/
inductive MethodFault
  /-- `boost::bad_get`. -/
  | badGet
  /-- `boost::system::system_error` of the constructor of the sender. -/
  | systemError
  /-- `std::out_of_range` of an `at`. -/
  | outOfRange
  /-- The dereferenced pointer to the sender is null. -/
  | nullSender
deriving DecidableEq

abbrev MethodResult := ServerSession × Except MethodFault Response

def commonRtspMajorVersion : ℕ := 1
def commonRtspMinorVersion : ℕ := 0

/-- `common_response_sekeleton`. -/
def commonResponseSkeleton (session : ServerSession) (request : InternalRequest) :
    Except MethodFault Response :=
  match request.2.lookup (str "cseq") with
  | none => .error .outOfRange
  | some cseq => .ok {
      rtspVersionMajor := commonRtspMajorVersion
      rtspVersionMinor := commonRtspMinorVersion
      statusCode := 200
      reasonPhrase := str "OK"
      headers := [(str "CSeq", cseq), (str "Session", session.identifier)] }

/-! ### SETUP -/

/-- The specifications that the server supports. -/
def TransportSpec.isAcceptable (value : TransportSpec) : Bool :=
  value.transportProtocol = str "RTP" && value.profile = str "AVP" &&
    value.lowerTransport.getD (str "UDP") = str "UDP" &&
    value.parameters.head? = some (.string (str "unicast"))

def Parameter.isPort (type : PortType) : Parameter → Bool
  | .port p => p.type = type
  | _ => false

def Parameter.isSsrc : Parameter → Bool
  | .ssrc value => value ≠ 0
  | _ => false

/-- The single number that is taken for a client port. -/
def Port.firstNumber (p : Port) : UInt16 :=
  match p.portNumbers with
  | .number n => n
  | .range first _ => first

/-- The client port that is answered. -/
def chosenClientPort (parameters : List Parameter) (draws : Draws) : UInt16 :=
  match parameters.find? (·.isPort .client) with
  | some (.port p) => p.firstNumber
  | _ => draws.clientPort

def getAcceptableTransport (requested : Transport) (draws : Draws) : Option TransportSpec :=
  (requested.specifications.find? (·.isAcceptable)).map fun spec =>
    let clientPort := chosenClientPort spec.parameters draws
    { transportProtocol := str "RTP"
      profile := str "AVP"
      lowerTransport := some (str "UDP")
      parameters := [
        .string (str "unicast"),
        .port ⟨.client, .number clientPort⟩,
        (spec.parameters.find? (·.isSsrc)).getD (.ssrc draws.ssrc),
        (spec.parameters.find? (·.isPort .server)).getD
          (.port ⟨.server, .number (clientPort + 2)⟩)] }

/-- The name of the file in a URI. -/
def fileNameRule : Parser UInt8 Text :=
  (lit (str "rtsp:") <|> lit (str "rtspu:")) >> lit (str "//") >>
    omits (star (char_ - (lit (str "/") : Parser UInt8 Text))) >> lit (str "/") >>
    sat isAlnum >> star (sat isPrint)

def getJpegStream (env : Environment) (uri : Text) : Option Rtp.IStream :=
  let parsed := fileNameRule.run uri []
  if !parsed.ok then none
  else (env.canonical parsed.attr env.ressourceRoot).map env.openFile

/-- `boost::get<port_number>` of a port parameter. -/
def Parameter.getPortNumber : Parameter → Except MethodFault UInt16
  | .port ⟨_, .number n⟩ => .ok n
  | _ => .error .badGet

/-- `boost::get<ssrc>`. -/
def Parameter.getSsrc : Parameter → Except MethodFault UInt32
  | .ssrc value => .ok value
  | _ => .error .badGet

/-- `std::vector::at`. -/
def parameterAt (spec : TransportSpec) (n : ℕ) : Except MethodFault Parameter :=
  match spec.parameters[n]? with
  | none => .error .outOfRange
  | some p => .ok p

/-- The client port, the server port and the source that the sender is built with. -/
def senderParameters (spec : TransportSpec) : Except MethodFault (UInt16 × UInt16 × UInt32) := do
  let clientPort ← (← parameterAt spec 1).getPortNumber
  let serverPort ← (← parameterAt spec 3).getPortNumber
  let ssrc ← (← parameterAt spec 2).getSsrc
  return (clientPort, serverPort, ssrc)

/-- The reading of the Require header: the options, or the response that refuses it. -/
def setupOptions (env : Environment) (headers : NormalizedHeaders) (response : Response) :
    Except Response (Option MknOptionParameters) :=
  match headers.lookup (str "require") with
  | none => .ok none
  | some value =>
    let required := (phraseParse require_).run value []
    if required.rest ≠ [] then
      .error { response with
        statusCode := 400
        reasonPhrase := str "Bad Request: Could not read transport header after" ++ required.rest }
    else
      let unsupported := required.attr.filter (· ≠ mknOptionTag)
      if unsupported ≠ [] then
        .error { response with
          statusCode := 551
          reasonPhrase := str "Option not supported"
          headers := response.headers ++ unsupported.map fun tag => (str "Unsupported", tag) }
      else
        match headers.lookup mknOptionHeader with
        | none => .error { response with
            statusCode := 400
            reasonPhrase := mknOptionHeader ++ str " header missing" }
        | some value =>
          let options :=
            (mknBernoulliChannelParameterGrammar env.probability).run value default
          if options.rest ≠ [] then
            .error { response with
              statusCode := 400
              reasonPhrase := str "Bad Request: Could not read " ++ mknOptionHeader ++
                str " header after " ++ options.rest }
          else .ok (some options.attr)

/-- The reading of the Transport header: its value, or the response that refuses it. -/
def setupTransport (headers : NormalizedHeaders) (response : Response) :
    Except Response Transport :=
  match headers.lookup (str "transport") with
  | none => .ok default
  | some value =>
    let transport := (phraseParse transportGrammar).run value default
    if transport.rest ≠ [] then
      .error { response with
        statusCode := 400
        reasonPhrase := str "Bad Request: Could not read transport header after" ++
          transport.rest }
    else .ok transport.attr

/-- What SETUP checks before it builds a sender: the options, the transport it chooses and the
source, or the response that refuses the request. -/
def setupChecks (env : Environment) (draws : Draws) (session : ServerSession)
    (request : InternalRequest) (response : Response) :
    Except Response (Option MknOptionParameters × TransportSpec × Rtp.IStream) := do
  let options ← setupOptions env request.2 response
  let requestTransport ← setupTransport request.2 response
  match getAcceptableTransport requestTransport draws with
  | none => .error { response with
      statusCode := 461
      reasonPhrase := str ("Unsupported Transport: The Transport field did not contain a " ++
        "supported transport specification.") }
  | some chosenTransport =>
    if session.sessionState ≠ .init then
      .error { response with
        statusCode := 455
        reasonPhrase := str "Method Not Valid In This State" }
    else
      match getJpegStream env request.1.uri with
      | none => .error { response with
          statusCode := 404
          reasonPhrase := str "Ressource \"" ++ request.1.uri ++ str "\" Not Found" }
      | some source => .ok (options, chosenTransport, source)

def setup (env : Environment) (draws : Draws) (session : ServerSession)
    (request : InternalRequest) : MethodResult :=
  match commonResponseSkeleton session request with
  | .error fault => (session, .error fault)
  | .ok response =>
    match setupChecks env draws session request response with
    | .error response => (session, .ok response)
    | .ok (options, chosenTransport, source) =>
      match senderParameters chosenTransport with
      | .error fault => (session, .error fault)
      | .ok (_, _, ssrc) =>
        if !draws.socketOpens then (session, .error .systemError)
        else
          let sender := Rtp.Sender.new ssrc source (options.map (·.fecK)) draws.sequenceNumber
            draws.fecSequenceNumber
          ({ session with rtpSession := some sender, sessionState := .ready },
            .ok { response with
              headers := response.headers ++
                [(str "Transport", generateTransportHeader ⟨[chosenTransport]⟩)] })

/-! ### The other methods -/

def teardown (session : ServerSession) (request : InternalRequest) : MethodResult :=
  (session, commonResponseSkeleton session request)

/-- The response of PLAY and PAUSE in a wrong state. -/
def notValidInThisState (response : Response) : Response :=
  { response with statusCode := 455, reasonPhrase := str "Method Not Valid in This State" }

def play (session : ServerSession) (request : InternalRequest) : MethodResult :=
  match commonResponseSkeleton session request with
  | .error fault => (session, .error fault)
  | .ok response =>
    if session.sessionState = .playing then (session, .ok response)
    else if session.sessionState ≠ .ready then (session, .ok (notValidInThisState response))
    else
      match session.rtpSession with
      | none => (session, .error .nullSender)
      | some sender =>
        ({ session with rtpSession := some sender.start, sessionState := .playing }, .ok response)

def pause (session : ServerSession) (request : InternalRequest) : MethodResult :=
  match commonResponseSkeleton session request with
  | .error fault => (session, .error fault)
  | .ok response =>
    if session.sessionState ≠ .playing then (session, .ok (notValidInThisState response))
    else
      match session.rtpSession with
      | none => (session, .error .nullSender)
      | some sender =>
        ({ session with rtpSession := some sender.stop, sessionState := .ready }, .ok response)

/-! ### What a method can do -/

/-- A 2xx response. -/
def Response.IsSuccess (r : Response) : Prop := 200 ≤ r.statusCode ∧ r.statusCode < 300

instance (r : Response) : Decidable r.IsSuccess := inferInstanceAs (Decidable (_ ∧ _))

lemma not_isSuccess {r : Response} (h : 300 ≤ r.statusCode) : ¬r.IsSuccess :=
  fun hsuccess => absurd hsuccess.2 (not_lt.mpr h)

/-- Another response than 2xx, or an exception. -/
def Failed (result : Except MethodFault Response) : Prop :=
  ∀ response, result = .ok response → ¬response.IsSuccess

lemma failed_error (fault : MethodFault) : Failed (.error fault) := nofun

lemma failed_ok {response : Response} (h : ¬response.IsSuccess) : Failed (.ok response) := by
  rintro _ ⟨rfl⟩
  exact h

lemma not_failed_ok {response : Response} (h : response.IsSuccess) : ¬Failed (.ok response) :=
  fun hfail => hfail response rfl h

instance : (result : Except MethodFault Response) → Decidable (Failed result)
  | .error fault => isTrue (failed_error fault)
  | .ok response => decidable_of_iff (¬response.IsSuccess) ⟨failed_ok, fun h => h response rfl⟩

lemma commonResponseSkeleton_isSuccess {session : ServerSession} {request : InternalRequest}
    {response : Response} (h : commonResponseSkeleton session request = .ok response) :
    response.IsSuccess := by
  unfold commonResponseSkeleton at h
  split at h
  · cases h
  · cases h
    exact ⟨le_refl 200, by norm_num⟩

lemma setupOptions_error {env : Environment} {headers : NormalizedHeaders}
    {response refusal : Response} (h : setupOptions env headers response = .error refusal) :
    300 ≤ refusal.statusCode ∧ refusal.statusCode ≠ 500 := by
  unfold setupOptions at h
  split at h
  · cases h
  dsimp only at h
  split_ifs at h
  · cases h
    simp
  · cases h
    simp
  split at h
  · cases h
    simp
  split_ifs at h
  cases h
  simp

lemma setupTransport_error {headers : NormalizedHeaders} {response refusal : Response}
    (h : setupTransport headers response = .error refusal) :
    300 ≤ refusal.statusCode ∧ refusal.statusCode ≠ 500 := by
  unfold setupTransport at h
  split at h
  · cases h
  dsimp only at h
  split_ifs at h
  cases h
  simp

/-- A refused SETUP is decided and does not succeed, and only a session in state init is set up. -/
lemma setupChecks_cases (env : Environment) (draws : Draws) (session : ServerSession)
    (request : InternalRequest) (response : Response) :
    (∃ refusal, setupChecks env draws session request response = .error refusal ∧
      300 ≤ refusal.statusCode ∧ refusal.statusCode ≠ 500) ∨
    ∃ checks, setupChecks env draws session request response = .ok checks ∧
      session.sessionState = .init := by
  simp only [setupChecks]
  cases hoptions : setupOptions env request.2 response with
  | error refusal => exact Or.inl ⟨refusal, rfl, setupOptions_error hoptions⟩
  | ok options =>
    cases htransport : setupTransport request.2 response with
    | error refusal => exact Or.inl ⟨refusal, rfl, setupTransport_error htransport⟩
    | ok transport =>
      simp only [bind, Except.bind]
      cases getAcceptableTransport transport draws with
      | none => exact Or.inl ⟨_, rfl, by simp⟩
      | some chosen =>
        dsimp only
        split_ifs with hstate
        · exact Or.inl ⟨_, rfl, by simp⟩
        · cases getJpegStream env request.1.uri with
          | none => exact Or.inl ⟨_, rfl, by simp⟩
          | some source => exact Or.inr ⟨_, rfl, not_not.mp hstate⟩

lemma setupChecks_error {env : Environment} {draws : Draws} {session : ServerSession}
    {request : InternalRequest} {response refusal : Response}
    (h : setupChecks env draws session request response = .error refusal) :
    300 ≤ refusal.statusCode ∧ refusal.statusCode ≠ 500 := by
  rcases setupChecks_cases env draws session request response with
    ⟨refusal', hrefusal, hstatus⟩ | ⟨checks, hok, -⟩
  · cases h.symm.trans hrefusal
    exact hstatus
  · cases h.symm.trans hok

/-- SETUP fails and leaves its session alone, or gives a session in state init a sender. -/
lemma setup_cases (env : Environment) (draws : Draws) (session : ServerSession)
    (request : InternalRequest) :
    ((setup env draws session request).1 = session ∧
      Failed (setup env draws session request).2) ∨
    ∃ ssrc source fecK response, session.sessionState = .init ∧ response.IsSuccess ∧
      setup env draws session request =
        ({ session with
            rtpSession := some (.new ssrc source fecK draws.sequenceNumber draws.fecSequenceNumber)
            sessionState := .ready }, .ok response) := by
  unfold setup
  cases hskeleton : commonResponseSkeleton session request with
  | error fault => exact Or.inl ⟨rfl, failed_error fault⟩
  | ok response =>
    dsimp only
    rcases setupChecks_cases env draws session request response with
      ⟨refusal, hchecks, hrefusal⟩ | ⟨⟨options, chosen, source⟩, hchecks, hinit⟩ <;> rw [hchecks]
    · exact Or.inl ⟨rfl, failed_ok (not_isSuccess hrefusal.1)⟩
    · dsimp only
      cases senderParameters chosen with
      | error fault => exact Or.inl ⟨rfl, failed_error fault⟩
      | ok parameters =>
        obtain ⟨-, -, ssrc⟩ := parameters
        cases hopens : draws.socketOpens with
        | false => exact Or.inl ⟨rfl, failed_error .systemError⟩
        | true =>
          have hsuccess := commonResponseSkeleton_isSuccess hskeleton
          refine Or.inr ⟨ssrc, source, options.map (·.fecK), _, hinit, ?_, rfl⟩
          exact hsuccess

/-- PLAY leaves its session alone, or it succeeds and starts the sender of a session in state
ready. -/
lemma play_cases (session : ServerSession) (request : InternalRequest) :
    (play session request).1 = session ∨
    ∃ sender response, session.sessionState = .ready ∧ session.rtpSession = some sender ∧
      response.IsSuccess ∧ play session request =
        ({ session with rtpSession := some sender.start, sessionState := .playing },
          .ok response) := by
  unfold play
  cases hskeleton : commonResponseSkeleton session request with
  | error fault => exact Or.inl rfl
  | ok response =>
    dsimp only
    split_ifs with hplaying hready
    · exact Or.inl rfl
    · exact Or.inl rfl
    · cases hsender : session.rtpSession with
      | none => exact Or.inl rfl
      | some sender => exact Or.inr ⟨sender, response, not_not.mp hready, rfl,
          commonResponseSkeleton_isSuccess hskeleton, rfl⟩

/-- PAUSE leaves its session alone, or it succeeds and stops the sender of a session in state
playing. -/
lemma pause_cases (session : ServerSession) (request : InternalRequest) :
    (pause session request).1 = session ∨
    ∃ sender response, session.sessionState = .playing ∧ session.rtpSession = some sender ∧
      response.IsSuccess ∧ pause session request =
        ({ session with rtpSession := some sender.stop, sessionState := .ready },
          .ok response) := by
  unfold pause
  cases hskeleton : commonResponseSkeleton session request with
  | error fault => exact Or.inl rfl
  | ok response =>
    dsimp only
    split_ifs with hplaying
    · exact Or.inl rfl
    · cases hsender : session.rtpSession with
      | none => exact Or.inl rfl
      | some sender => exact Or.inr ⟨sender, response, not_not.mp hplaying, rfl,
          commonResponseSkeleton_isSuccess hskeleton, rfl⟩

/-- The responses of SETUP: a refusal of its checks, or the skeleton with the transport it has
chosen. -/
lemma setup_response {env : Environment} {draws : Draws} {session : ServerSession}
    {request : InternalRequest} {response : Response}
    (h : (setup env draws session request).2 = .ok response) :
    ∃ skeleton, commonResponseSkeleton session request = .ok skeleton ∧
      (setupChecks env draws session request skeleton = .error response ∨
        ∃ options chosen source clientPort serverPort ssrc,
          setupChecks env draws session request skeleton = .ok (options, chosen, source) ∧
          senderParameters chosen = .ok (clientPort, serverPort, ssrc) ∧
          (setup env draws session request).1 = { session with
            rtpSession := some (.new ssrc source (options.map (·.fecK)) draws.sequenceNumber
              draws.fecSequenceNumber)
            sessionState := .ready } ∧
          response = { skeleton with
            headers := skeleton.headers ++
              [(str "Transport", generateTransportHeader ⟨[chosen]⟩)] }) := by
  unfold setup at h ⊢
  cases hskeleton : commonResponseSkeleton session request with
  | error fault =>
    rw [hskeleton] at h
    cases h
  | ok skeleton =>
    refine ⟨skeleton, rfl, ?_⟩
    rw [hskeleton] at h
    dsimp only at h ⊢
    cases hchecks : setupChecks env draws session request skeleton with
    | error refusal =>
      rw [hchecks] at h
      cases h
      exact Or.inl rfl
    | ok checks =>
      obtain ⟨options, chosen, source⟩ := checks
      rw [hchecks] at h
      dsimp only at h ⊢
      cases hparameters : senderParameters chosen with
      | error fault =>
        rw [hparameters] at h
        cases h
      | ok parameters =>
        obtain ⟨clientPort, serverPort, ssrc⟩ := parameters
        rw [hparameters] at h
        cases hopens : draws.socketOpens with
        | false =>
          rw [hopens] at h
          cases h
        | true =>
          rw [hopens] at h
          cases h
          exact Or.inr ⟨options, chosen, source, clientPort, serverPort, ssrc, rfl, hparameters,
            rfl, rfl⟩

/-- The responses of PLAY. -/
lemma play_response {session : ServerSession} {request : InternalRequest} {response : Response}
    (h : (play session request).2 = .ok response) :
    ∃ skeleton, commonResponseSkeleton session request = .ok skeleton ∧
      (response = skeleton ∨ response = notValidInThisState skeleton) := by
  unfold play at h
  cases hskeleton : commonResponseSkeleton session request with
  | error fault =>
    rw [hskeleton] at h
    cases h
  | ok skeleton =>
    refine ⟨skeleton, rfl, ?_⟩
    rw [hskeleton] at h
    dsimp only at h
    split_ifs at h
    · exact Or.inl (Except.ok.inj h).symm
    · exact Or.inr (Except.ok.inj h).symm
    · split at h
      · cases h
      · exact Or.inl (Except.ok.inj h).symm

/-- The responses of PAUSE. -/
lemma pause_response {session : ServerSession} {request : InternalRequest} {response : Response}
    (h : (pause session request).2 = .ok response) :
    ∃ skeleton, commonResponseSkeleton session request = .ok skeleton ∧
      (response = skeleton ∨ response = notValidInThisState skeleton) := by
  unfold pause at h
  cases hskeleton : commonResponseSkeleton session request with
  | error fault =>
    rw [hskeleton] at h
    cases h
  | ok skeleton =>
    refine ⟨skeleton, rfl, ?_⟩
    rw [hskeleton] at h
    dsimp only at h
    split_ifs at h
    · exact Or.inr (Except.ok.inj h).symm
    · split at h
      · cases h
      · exact Or.inl (Except.ok.inj h).symm

lemma teardown_not_failed {session : ServerSession} {request : InternalRequest}
    (h : request.2.lookup (str "cseq") ≠ none) : ¬Failed (teardown session request).2 := by
  obtain ⟨cseq, hcseq⟩ := Option.ne_none_iff_exists'.mp h
  simp only [teardown, commonResponseSkeleton, hcseq]
  exact not_failed_ok ⟨le_refl 200, by norm_num⟩

end Rtsp
