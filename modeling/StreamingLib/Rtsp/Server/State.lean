import StreamingLib.Rtsp.Methods

/-!
# The state of the server

`rtsp_server_state` of `rtsp_server_internals.cpp`. Requests and timeouts hold the mutex of the
session tables; the senders of the sessions run their handlers in between.
-/

namespace Rtsp

structure ServerState where
  sessions : Finmap fun _ : Text => ServerSession := ∅
  /-- `sessions__by_host_`, a multimap that keeps the order of equal keys. -/
  sessionsByHost : List (Address × Text) := []

/-- `std::pair<response, body>(rtsp_server_session &, const internal_request &)`. -/
abbrev MethodImplementation := ServerSession → InternalRequest → MethodResult

def options (request : InternalRequest) : Except MethodFault Response :=
  match request.2.lookup (str "cseq") with
  | none => .error .outOfRange
  | some cseq => .ok {
      rtspVersionMajor := commonRtspMajorVersion
      rtspVersionMinor := commonRtspMinorVersion
      statusCode := 200
      reasonPhrase := str "OK"
      headers := [(str "CSeq", cseq), (str "Public", str "SETUP, TEARDOWN, PLAY, PAUSE")] }

/-- `methods_`. -/
def methods (env : Environment) (draws : Draws) : List (Text × MethodImplementation) := [
  (str "OPTIONS", fun session request => (session, options request)),
  (str "SETUP", setup env draws),
  (str "TEARDOWN", teardown),
  (str "PLAY", play),
  (str "PAUSE", pause)]

/-- The response before anything is decided. -/
def unchangedResponse : Response where
  rtspVersionMajor := commonRtspMajorVersion
  rtspVersionMinor := commonRtspMinorVersion
  statusCode := 500
  reasonPhrase := str "Internal error: Response unchanged"
  headers := []

/-- A refusal that answers the CSeq header. -/
def refusal (cseq : Text) (statusCode : ℕ) (reasonPhrase : Text) : Response :=
  { unchangedResponse with
    statusCode := statusCode
    reasonPhrase := reasonPhrase
    headers := [(str "CSeq", cseq)] }

def notImplemented (cseq method : Text) : Response :=
  refusal cseq 501 (str "\"" ++ method ++ str "\" not implemented")

namespace ServerState

/-- A method on a session, which is written back. -/
def call (s : ServerState) (identifier : Text) (session : ServerSession)
    (method : MethodImplementation) (request : InternalRequest) :
    ServerState × Except MethodFault Response :=
  ({ s with sessions := s.sessions.insert identifier (method session request).1 },
    (method session request).2)

/-- `emplace` in both tables: the new session and its host. A session of the same identifier
stays. -/
def emplaceSession (s : ServerState) (identifier : Text) (requester : Address) :
    ServerState × ServerSession :=
  let session : ServerSession :=
    { (s.sessions.lookup identifier).getD { identifier := identifier } with
      lastSeenRequestAddress := requester }
  ({ sessions := s.sessions.insert identifier session
     sessionsByHost := s.sessionsByHost ++ [(requester, session.identifier)] }, session)

/-- The SETUP branch of `handle_incoming_request`. -/
def handleSetup (s : ServerState) (env : Environment) (draws : Draws)
    (request : InternalRequest) (requester : Address) :
    ServerState × Except MethodFault Response :=
  let inserted := s.emplaceSession draws.identifier requester
  match (methods env draws).lookup request.1.methodOrExtension with
  | none => (inserted.1, .error .outOfRange)
  | some method => inserted.1.call draws.identifier inserted.2 method request

def deleteSession (s : ServerState) (identifier : Text) : ServerState :=
  { s with sessions := s.sessions.erase identifier }

/-- The branch of `handle_incoming_request` for a method on the session `identifier`. -/
def handleMethod (s : ServerState) (method : MethodImplementation) (identifier cseq : Text)
    (request : InternalRequest) (requester : Address) :
    ServerState × Except MethodFault Response :=
  match s.sessions.lookup identifier with
  | none => (s, .ok (refusal cseq 454 (str "Session not found")))
  | some session =>
    let r := s.call identifier { session with lastSeenRequestAddress := requester } method request
    match r.2 with
    | .error _ => r
    | .ok _ =>
      if request.1.methodOrExtension = str "TEARDOWN" then (r.1.deleteSession identifier, r.2)
      else r

def handleIncomingRequest (s : ServerState) (env : Environment) (draws : Draws)
    (request : Request) (requester : Address) : ServerState × Except MethodFault Response :=
  let headers := normalizeHeaders request.headers
  let cseq := (headers.lookup (str "cseq")).getD []
  if cseq = [] then
    (s, .ok { unchangedResponse with
      statusCode := 400
      reasonPhrase := str "Bad Request: CSeq missing" })
  else if request.methodOrExtension = str "OPTIONS" then (s, options (request, headers))
  else if request.methodOrExtension = str "DESCRIBE" then
    (s, .ok (notImplemented cseq request.methodOrExtension))
  else if request.methodOrExtension = str "SETUP" ∧ (headers.lookup (str "session")).isSome then
    (s, .ok (refusal cseq 459 (str "Aggregate Operation Not Allowed")))
  else if request.methodOrExtension = str "SETUP" then
    s.handleSetup env draws (request, headers) requester
  else
    match headers.lookup (str "session") with
    | none => (s, .ok (refusal cseq 400 (str "Session header not found")))
    | some identifier =>
      match (methods env draws).lookup request.methodOrExtension with
      | some method => s.handleMethod method identifier cseq (request, headers) requester
      | none => (s, .ok (notImplemented cseq request.methodOrExtension))

/-- The loop of `handle_timeout_of_host`, at most `n` turns. -/
def timeoutLoop (host : Address) : ℕ → ServerState → ServerState
  | 0, s => s
  | n + 1, s =>
    match s.sessionsByHost.find? (·.1 = host) with
    | none => s
    | some entry =>
      timeoutLoop host n
        { s.deleteSession entry.2 with sessionsByHost := s.sessionsByHost.erase entry }

/-- Every turn of the loop removes an entry, so their number is enough. -/
def handleTimeoutOfHost (s : ServerState) (host : Address) : ServerState :=
  timeoutLoop host s.sessionsByHost.length s

end ServerState

/-- A SETUP that gets as far as creating a session. -/
def CreatesSession (request : Request) : Prop :=
  ((normalizeHeaders request.headers).lookup (str "cseq")).getD [] ≠ [] ∧
    request.methodOrExtension = str "SETUP" ∧
    (normalizeHeaders request.headers).lookup (str "session") = none

instance (request : Request) : Decidable (CreatesSession request) :=
  inferInstanceAs (Decidable (_ ∧ _ ∧ _))

/-! ### Runs -/

/-- Whether an event of a sender is a queued handler, and not a call of `start` or `stop`. -/
def isQueued : Rtp.SenderEvent → Bool
  | .start | .stop => false
  | _ => true

inductive ServerEvent
  | request (draws : Draws) (request : Request) (requester : Address)
  | timeout (host : Address)
  | sender (identifier : Text) (event : Rtp.SenderEvent)

/-- A queued handler of the sender of a session. -/
def ServerSession.stepSender (session : ServerSession) (event : Rtp.SenderEvent) :
    Option ServerSession :=
  if isQueued event then
    session.rtpSession.bind fun sender =>
      (sender.step event).map fun sender => { session with rtpSession := some sender }
  else none

def ServerState.step (env : Environment) (s : ServerState) : ServerEvent → Option ServerState
  | .request draws request requester =>
    some (s.handleIncomingRequest env draws request requester).1
  | .timeout host => some (s.handleTimeoutOfHost host)
  | .sender identifier event =>
    (s.sessions.lookup identifier).bind fun session =>
      (session.stepSender event).map fun session =>
        { s with sessions := s.sessions.insert identifier session }

/-- The server from its start. -/
def serverSystem (env : Environment) : Transition.System ServerState ServerEvent where
  init s := s = {}
  step := ServerState.step env

/-! ### The requests of one session -/

/-- A request for the movie. -/
def movieRequest (method : Text) (headers : RawHeaders) : Request where
  methodOrExtension := method
  uri := str "rtsp://localhost/movie"
  rtspVersionMajor := 1
  rtspVersionMinor := 0
  headers := (str "CSeq", str "1") :: headers

def setupMovie : Request :=
  movieRequest (str "SETUP") [(str "Transport", str "RTP/AVP;unicast")]

def playMovie : Request := movieRequest (str "PLAY") [(str "Session", str "a")]

def teardownMovie : Request := movieRequest (str "TEARDOWN") [(str "Session", str "a")]

end Rtsp
