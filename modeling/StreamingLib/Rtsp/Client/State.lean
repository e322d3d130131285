import StreamingLib.Rtsp.Methods

/-!
# The state of the client

`rtsp_client` of `rtsp_client.cpp`: the handlers that wait for the responses to its requests, and
`header_read`, which reads a response and gives it to the handler of its CSeq.
-/

namespace Rtsp

open Peg

/-- How `header_read` or a response handler ends without returning. -/
inductive ClientFault
  /-- `std::out_of_range` of an `at`. -/
  | outOfRange
  | runtimeError (what : Text)
  /-- `boost::system::system_error` of the constructor of the receiver. -/
  | systemError
deriving DecidableEq

/-- `rtsp_client_session`. -/
structure ClientSession where
  identifier : Text := []
  sessionState : SessionState := .init
deriving DecidableEq

/-- What a `unicast_jpeg_rtp_receiver` is constructed with. -/
structure ReceiverParameters where
  sinkPort : UInt16
  ssrc : UInt32
deriving DecidableEq

/-! ### The Transport header of the server -/

/-- The number of a client or general port. -/
def Parameter.sinkPort : Parameter → Option UInt16
  | .port p => if p.type = .client ∨ p.type = .general then some p.firstNumber else none
  | _ => none

def Parameter.ssrcValue : Parameter → Option UInt32
  | .ssrc value => some value
  | _ => none

/-- The first specification of a Transport header that the client supports. -/
def offeredTransport (transport : Transport) : Option TransportSpec :=
  transport.specifications.find? (·.isAcceptable)

def processServerTransportHeader (transportHeader : Text) :
    Except ClientFault ReceiverParameters :=
  let parsed := transportGrammar.run transportHeader default
  if !parsed.ok then
    .error (.runtimeError
      (str "Could not parse transport from server: \"" ++ transportHeader ++ str "\""))
  else
    match offeredTransport parsed.attr with
    | none => .error (.runtimeError
        (str "No RTP/AVP/UDP unicast transport option offered by server"))
    | some transportSpec =>
      match transportSpec.parameters.findSome? (·.sinkPort) with
      | none => .error (.runtimeError
          (str "No client or general port parameter found in server transport specification"))
      | some sinkPort =>
        match transportSpec.parameters.findSome? (·.ssrcValue) with
        | none => .error (.runtimeError
            (str "No ssrc parameter found in server transport specification"))
        | some ssrc => .ok ⟨sinkPort, ssrc⟩

/-! ### Response handlers -/

/-- The handlers that the methods of the client pass to `send_request`. -/
inductive ResponseHandler
  | setup
  | play
  | pause
  | teardown
  | option
  | describe
deriving DecidableEq

structure RtspClient where
  session : ClientSession := {}
  outstandingRequests : Finmap fun _ : UInt32 => ResponseHandler := ∅
  inStreambuf : Text := []
  parserBuffer : Text := []
  rtpReceiver : Option ReceiverParameters := none
  /-- Whether an `async_read_until` is outstanding. -/
  reading : Bool := false

namespace RtspClient

def setIdentifier (c : RtspClient) (newIdentifier : Text) : RtspClient :=
  { c with session.identifier := newIdentifier }

def setSessionState (c : RtspClient) (newState : SessionState) : RtspClient :=
  { c with session.sessionState := newState }

/-- The handler of the response to SETUP. Whether the socket of a receiver can be bound is
given. -/
def setupHandler (c : RtspClient) (socketOpens : Bool) (response : Response) :
    RtspClient × Except ClientFault Unit :=
  if response.statusCode < 200 ∨ 300 ≤ response.statusCode then
    (c, .error (.runtimeError
      (str "Got non ok status code: " ++ numeral digitChar 10 response.statusCode)))
  else
    let normalizedHeaders := normalizeHeaders response.headers
    match normalizedHeaders.lookup (str "session"),
      normalizedHeaders.lookup (str "transport") with
    | some identifier, some transport =>
      let c := c.setIdentifier identifier
      match processServerTransportHeader transport with
      | .error fault => (c, .error fault)
      | .ok parameters =>
        if !socketOpens then (c, .error .systemError)
        else ({ c with rtpReceiver := some parameters }.setSessionState .ready, .ok ())
    | _, _ => (c, .error (.runtimeError
        (str "Missing session or transport header in setup response")))

/-- A call of a response handler. -/
def handleResponse (c : RtspClient) (socketOpens : Bool) (response : Response) :
    ResponseHandler → RtspClient × Except ClientFault Unit
  | .setup => c.setupHandler socketOpens response
  | .play => (c.setSessionState .playing, .ok ())
  | .pause => (c.setSessionState .ready, .ok ())
  | .teardown => (c.setSessionState .init, .ok ())
  | .option | .describe => (c, .ok ())

/-! ### Reading responses -/

end RtspClient

/-- How `header_read` reads a block. The attribute keeps what was read before a mismatch, and a
status code has been read before any header. -/
def parseResponse (block : Text) : Reply UInt8 Response := rtspResponseGrammar.run block default

/-- `qi::uint_parser<rtsp::cseq, 10>`. -/
def cseqParser : Parser UInt8 ℕ := uint digitValue 10 (2 ^ 32 - 1) 1 none

/-- The number that a CSeq header is taken for, zero if it can not be read. -/
def readCseq (value : Text) : UInt32 := .ofNat (cseqParser.run value 0).attr

/-- The CSeq header of a response. -/
def cseqHeader (response : Response) : Option Text :=
  (normalizeHeaders response.headers).lookup (str "cseq")

namespace RtspClient

/-- The block moves from the stream buffer to the parser buffer. -/
def copyBlock (c : RtspClient) (bytesTransferred : ℕ) : RtspClient :=
  { c with
    inStreambuf := c.inStreambuf.drop bytesTransferred
    parserBuffer := c.inStreambuf.take bytesTransferred
    reading := false }

def asyncReadUntil (c : RtspClient) : RtspClient := { c with reading := true }

/-- What `header_read` does with a response, and the exception it exits by, if any. -/
def processResponse (c : RtspClient) (socketOpens : Bool) (response : Response) :
    RtspClient × Option ClientFault :=
  match cseqHeader response with
  | none => (c, some .outOfRange)
  | some value =>
    if response.statusCode < 200 then (c.asyncReadUntil, none)
    else
      match c.outstandingRequests.lookup (readCseq value) with
      -- the `out_of_range` of this `at` is caught
      | none => (c.asyncReadUntil, none)
      | some handler =>
        match c.handleResponse socketOpens response handler with
        | (c, .ok ()) =>
          ({ c with
            outstandingRequests := c.outstandingRequests.erase (readCseq value) }.asyncReadUntil,
            none)
        | (c, .error .outOfRange) => (c.asyncReadUntil, none)
        | (c, .error fault) => (c, some fault)

/-- The response that `header_read` makes of the next block. -/
def nextResponse (c : RtspClient) (bytesTransferred : ℕ) : Response :=
  (parseResponse (c.copyBlock bytesTransferred).parserBuffer).attr

/-- `header_read` without an error of the socket. -/
def headerRead (c : RtspClient) (socketOpens : Bool) (bytesTransferred : ℕ) :
    RtspClient × Option ClientFault :=
  (c.copyBlock bytesTransferred).processResponse socketOpens (c.nextResponse bytesTransferred)

end RtspClient

end Rtsp
