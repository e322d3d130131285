import StreamingLib.Rtsp.Client.State
import StreamingLib.Rtsp.Server.Refinement

/-!
# The dialog of a client and the server

The requests of `rtsp_client.cpp` and their way: `setup`, `play`, `pause` and `teardown` send them
over a socket that the first of them opens, the server handles them in order, and its responses
come back in order. Calls need not wait for responses.
-/

namespace Rtsp

open Peg Transition

/-! ### Requests of the client -/

/-- The methods of the client that change its session. -/
inductive ClientMethod
  | setup
  | play
  | pause
  | teardown
deriving DecidableEq

/-- What is put into a SETUP request. -/
structure SetupChoices where
  /-- `chosen_rtp_port_by_me`. -/
  clientPort : UInt16 := 49152
  /-- `mkn_option_` as it is generated. -/
  mknOption : Option Text := none

def setupTransportSpec (clientPort : UInt16) : TransportSpec where
  transportProtocol := str "RTP"
  profile := str "AVP"
  lowerTransport := some (str "UDP")
  parameters := [.string (str "unicast"), .port ⟨.client, .number clientPort⟩]

def SetupChoices.headers (choices : SetupChoices) : RawHeaders :=
  (str "Transport", generateTransportHeader ⟨[setupTransportSpec choices.clientPort]⟩) ::
    match choices.mknOption with
    | none => []
    | some mknOption => [(str "Require", mknOptionTag), (mknOptionHeader, mknOption)]

namespace ClientMethod

def name : ClientMethod → Text
  | .setup => str "SETUP"
  | .play => str "PLAY"
  | .pause => str "PAUSE"
  | .teardown => str "TEARDOWN"

/-- The headers of a request that is sent while the client holds `identifier`. -/
def headers (identifier : Text) (choices : SetupChoices) : ClientMethod → RawHeaders
  | .setup => choices.headers
  | .play | .pause | .teardown => [(str "session", identifier)]

def handler : ClientMethod → ResponseHandler
  | .setup => .setup
  | .play => .play
  | .pause => .pause
  | .teardown => .teardown

/-- What the method throws in a wrong state. -/
def refusal (sessionState : SessionState) : ClientMethod → Option ClientFault
  | .setup =>
    if sessionState ≠ .init then
      some (.runtimeError (str ("This rtsp client does not like to change transport while " ++
        "playing, which is also optional by rfc")))
    else none
  | .play =>
    if sessionState ≠ .ready ∧ sessionState ≠ .playing then
      some (.runtimeError (str "Can request play, not in rtsp ready or playing state"))
    else none
  | .pause =>
    if sessionState ≠ .playing then
      some (.runtimeError (str "Can request pause, not in rtsp playing state"))
    else none
  | .teardown => none

end ClientMethod

/-- `rtsp_socket_`. It is open as soon as it is connecting. -/
inductive RtspSocket
  | closed
  /-- An `async_connect` is outstanding, which calls the callback. -/
  | connecting (callback : ClientMethod)
  | connected
deriving DecidableEq

/-- The callback of an outstanding `async_connect`. -/
def RtspSocket.callback : RtspSocket → Option ClientMethod
  | .connecting callback => some callback
  | .closed | .connected => none

/-- A client, the server, and what is on the way between them. -/
structure Dialog where
  client : RtspClient := {}
  /-- `next_cseq`, a `uint_fast32_t`. -/
  nextCseq : UInt64 := 0
  socket : RtspSocket := .closed
  /-- The callbacks of the calls of `open_socket` that wait for the resolver. -/
  resolving : List ClientMethod := []
  /-- The requests that the server has not handled, the oldest first. -/
  requests : List Request := []
  server : ServerState := {}
  /-- The responses that the client has not read, the oldest first. -/
  responses : List Response := []
  /-- Whether a handler has thrown, on either side. -/
  thrown : Bool := false

namespace Dialog

/-- `send_request`. -/
def sendRequest (d : Dialog) (request : Request) (responseHandler : ResponseHandler) : Dialog :=
  let cseq := d.nextCseq
  { d with
    nextCseq := cseq + 1
    requests := d.requests ++ [{ request with
      headers := (str "CSeq", numeral digitChar 10 cseq.toNat) :: request.headers }]
    client.outstandingRequests :=
      d.client.outstandingRequests.insert cseq.toUInt32 responseHandler }

/-- The callback of a method, which sends its request. -/
def send (d : Dialog) (originalUrl : Text) (choices : SetupChoices) (method : ClientMethod) :
    Dialog :=
  d.sendRequest
    { methodOrExtension := method.name
      uri := originalUrl
      rtspVersionMajor := 1
      rtspVersionMinor := 0
      headers := method.headers d.client.session.identifier choices }
    method.handler

/-- `open_socket`. -/
def openSocket (d : Dialog) (callback : ClientMethod) : Dialog :=
  { d with resolving := d.resolving ++ [callback] }

/-- `setup`, `play`, `pause` and `teardown`. An exception goes to the error handler. -/
def call (d : Dialog) (originalUrl : Text) (choices : SetupChoices) (method : ClientMethod) :
    Dialog :=
  match method.refusal d.client.session.sessionState with
  | some _ => d
  | none =>
    if d.socket = .closed then d.openSocket method else d.send originalUrl choices method

/-- The resolver has answered. A socket that is open already can not be connected again. -/
def resolved (d : Dialog) (callback : ClientMethod) : Dialog :=
  let d := { d with resolving := d.resolving.erase callback }
  if d.socket = .closed then { d with socket := .connecting callback }
  else { d with thrown := true }

/-- The socket is connected: the first read is started, then the callback is called. -/
def connected (d : Dialog) (originalUrl : Text) (choices : SetupChoices)
    (callback : ClientMethod) : Dialog :=
  send { d with socket := .connected, client := d.client.asyncReadUntil } originalUrl choices
    callback

/-- The server handles a request. -/
def serve (d : Dialog) (env : Environment) (draws : Draws) (requester : Address)
    (request : Request) (requests : List Request) : Dialog :=
  let r := d.server.handleIncomingRequest env draws request requester
  match r.2 with
  | .error _ => { d with requests := requests, server := r.1, thrown := true }
  | .ok response =>
    { d with requests := requests, server := r.1, responses := d.responses ++ [response] }

/-- The client reads a response. -/
def deliver (d : Dialog) (socketOpens : Bool) (response : Response) (responses : List Response) :
    Dialog :=
  let r := RtspClient.processResponse { d.client with reading := false } socketOpens response
  { d with client := r.1, responses := responses, thrown := d.thrown || r.2.isSome }

end Dialog

/-! ### Runs -/

inductive DialogEvent
  | call (method : ClientMethod) (choices : SetupChoices)
  | resolved (callback : ClientMethod)
  | connected (choices : SetupChoices)
  | serve (draws : Draws)
  | deliver (socketOpens : Bool)
  /-- A handler of the sender of a session. -/
  | sender (identifier : Text) (event : Rtp.SenderEvent)

def Dialog.step (env : Environment) (requester : Address) (originalUrl : Text) (d : Dialog) :
    DialogEvent → Option Dialog
  | .call method choices => some (d.call originalUrl choices method)
  | .resolved callback => if callback ∈ d.resolving then some (d.resolved callback) else none
  | .connected choices => d.socket.callback.map (d.connected originalUrl choices)
  | .serve draws =>
    match d.requests with
    | [] => none
    | request :: requests => some (d.serve env draws requester request requests)
  | .deliver socketOpens =>
    match d.responses with
    | [] => none
    | response :: responses =>
      if d.client.reading then some (d.deliver socketOpens response responses) else none
  | .sender identifier event =>
    (d.server.step env (.sender identifier event)).map fun server => { d with server := server }

/-- A new client of a server in any state that it can be in. No identifier of a session is
empty. -/
def dialogSystem (env : Environment) (requester : Address) (originalUrl : Text) :
    System Dialog DialogEvent where
  init d := (serverSystem env).Reachable Always d.server ∧ d.server.stateOf [] = none ∧
    d = { server := d.server }
  step := Dialog.step env requester originalUrl

/-- Every request has been answered. -/
def Dialog.Quiet (d : Dialog) : Prop := d.client.outstandingRequests = ∅

instance Dialog.decidableQuiet (d : Dialog) : Decidable d.Quiet :=
  inferInstanceAs (Decidable (_ = _))

/-- The state of the client is that of a session on the server. -/
def AgreesOn (session : ClientSession) (s : ServerState) : Prop :=
  session.sessionState = (s.stateOf session.identifier).getD .init

instance (session : ClientSession) (s : ServerState) : Decidable (AgreesOn session s) :=
  inferInstanceAs (Decidable (_ = _))

/-- Client and server agree on the session that the client holds. -/
def Dialog.Agrees (d : Dialog) : Prop := AgreesOn d.client.session d.server

instance (d : Dialog) : Decidable d.Agrees := inferInstanceAs (Decidable (AgreesOn _ _))

/-! ### Pipelining -/

/-- The method may be called while a response to the handler is outstanding: no method but SETUP
while a SETUP is, and neither PLAY nor PAUSE while a TEARDOWN is. -/
def ClientMethod.MayFollow (outstanding : ResponseHandler) : ClientMethod → Prop
  | .setup => True
  | .play | .pause => outstanding ≠ .setup ∧ outstanding ≠ .teardown
  | .teardown => outstanding ≠ .setup

instance (outstanding : ResponseHandler) : (method : ClientMethod) →
    Decidable (method.MayFollow outstanding)
  | .setup => isTrue trivial
  | .play | .pause => inferInstanceAs (Decidable (_ ∧ _))
  | .teardown => inferInstanceAs (Decidable (_ ≠ _))

/-- The method may follow every outstanding request, and no handler is outstanding under its
CSeq. -/
def Dialog.MaySend (d : Dialog) (method : ClientMethod) : Prop :=
  d.nextCseq.toUInt32 ∉ d.client.outstandingRequests ∧
    ∀ cseq ∈ d.client.outstandingRequests.keys,
      ∀ handler ∈ d.client.outstandingRequests.lookup cseq, method.MayFollow handler

-- by the outstanding requests, not by all numbers of 32 bits
instance (d : Dialog) (method : ClientMethod) : Decidable (d.MaySend method) :=
  @instDecidableAnd _ _ inferInstance Finset.decidableDforallFinset

/-- A request is only sent if it may be. -/
def Dialog.InTurn (d : Dialog) : DialogEvent → Prop
  | .call method _ => method.refusal d.client.session.sessionState = none →
      d.socket ≠ .closed → d.MaySend method
  | .connected _ => ∀ callback ∈ d.socket.callback, d.MaySend callback
  | .resolved _ | .serve _ | .deliver _ | .sender _ _ => True

instance (d : Dialog) : (event : DialogEvent) → Decidable (d.InTurn event)
  | .call _ _ => inferInstanceAs (Decidable (_ → _ → _))
  | .connected _ => inferInstanceAs (Decidable (∀ _ ∈ _, _))
  | .resolved _ | .serve _ | .deliver _ | .sender _ _ => isTrue trivial

end Rtsp
