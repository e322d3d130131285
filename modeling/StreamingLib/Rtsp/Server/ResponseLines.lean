import StreamingLib.Rtsp.Server.Connection
import StreamingLib.Rtsp.Server.ResponseParts

/-!
# The lines of a response

What a response repeats of a request comes from the grammar, which lets no line end through. The
response to a datagram that does not parse repeats what the parse has left, as it came.
-/

namespace Rtsp

open Peg Transition

/-- The response to a datagram that does not parse. -/
def badDatagram (rest : Text) : Response :=
  { badRequest with
    reasonPhrase := str "Bad Request, could not parse after \"" ++ rest ++ str "\"" }

/-- `handle_new_incoming_message`: the server after a datagram, and the response to it unless an
exception escapes. -/
def handleNewIncomingMessage (env : Environment) (draws : Draws) (requester : Address)
    (server : ServerState) (message : Text) : ServerState × Except MethodFault Response :=
  if (parseRequest message).ok then
    server.handleIncomingRequest env draws (parseRequest message).attr requester
  else (server, .ok (badDatagram (parseRequest message).rest))

/-- The parts of a response have no line end, and what is generated has a line for the status, one
for each header and the blank one. -/
structure Response.Unsplit (r : Response) : Prop where
  reason : Rtsp.OneLine r.reasonPhrase
  values : ∀ h ∈ r.headers, Header.OneLine h
  lines : ∀ c, isLineEnd c = true → (generateResponse r).count c = r.headers.length + 2

lemma Response.OneLine.unsplit {r : Response} (h : r.OneLine) : r.Unsplit :=
  ⟨h.reason, h.values, fun _ hc => count_generateResponse hc h⟩

/-- A character of `boost::uuids::to_string`. -/
def isUuidChar (c : UInt8) : Bool := (hexDigitValue c).isSome || c == 45

lemma isLineEnd_of_isUuidChar {c : UInt8} (h : isUuidChar c = true) : isLineEnd c = false := by
  rw [isLineEnd_eq_false_iff]
  constructor <;> rintro rfl <;> cases h

/-! ### Responses -/

/-- A response with another status and reason. -/
lemma Response.OneLine.refuse {response : Response} {w : Text} (h : response.OneLine)
    (statusCode : ℕ) (hw : Rtsp.OneLine w) :
    Response.OneLine { response with statusCode := statusCode, reasonPhrase := w } :=
  ⟨hw, h.names, h.values⟩

lemma Response.Composed.oneLine {response : Response} (h : response.Composed Rtsp.OneLine) :
    response.OneLine :=
  ⟨h.reason.oneLine, fun header hmem => (h.names header hmem).oneLine, h.values⟩

/-- What is answered to a request without line ends has none. -/
lemma handleIncomingRequest_oneLine {env : Environment} {draws : Draws} {s : ServerState}
    {requester : Address} {response : Response}
    (hs : s.All fun identifier session => session.identifier = identifier)
    {request : Request} (hrequest : request.OneLine) (hdrawn : OneLine draws.identifier)
    (h : (s.handleIncomingRequest env draws request requester).2 = .ok response) :
    response.OneLine := by
  have hgives : InternalRequest.Gives OneLine (request, normalizeHeaders request.headers) :=
    ⟨hrequest.method, hrequest.uri, normalizeHeaders_oneLine hrequest.values⟩
  exact (handleIncomingRequest_composed oneLine_valueProperty hs hgives hdrawn h).oneLine

/-! ### Datagrams and blocks -/

/-- What is left of a text that is no request. -/
lemma parseRequest_rest_of_fails {text : Text} (h : (parseRequest text).ok = false) :
    (parseRequest text).rest = text.dropWhile isSpace := by
  unfold parseRequest phraseParse at h ⊢
  rw [phrase_rest_of_fails h]
  exact (star_sat_matches isSpace text default).run_ok.2.1

lemma badRequest_oneLine : badRequest.OneLine :=
  ⟨(by decide : OneLine (str "Bad Request")), List.forall_mem_nil _, List.forall_mem_nil _⟩

/-- The response to a datagram that does not parse is unsplit if what it repeats is. -/
lemma badDatagram_unsplit_iff (rest : Text) : (badDatagram rest).Unsplit ↔ OneLine rest := by
  constructor
  · intro h
    exact (oneLine_append.mp (oneLine_append.mp h.reason).1).2
  · intro hrest
    exact (badRequest_oneLine.refuse 400
      ((OneLine.append (by decide) hrest).append (by decide))).unsplit

/-- The response to a block on a TCP connection is never split. The response to a datagram is not
exactly if the datagram is a request, or has no line end after its leading whitespace. -/
theorem responses_unsplit_iff (env : Environment) {server : ServerState}
    (hserver : (serverSystem env).Reachable Always server) {draws : Draws}
    (hdrawn : ∀ c ∈ draws.identifier, isUuidChar c = true) (requester : Address) (text : Text) :
    (∀ response, (answer env draws requester server text).2 = .ok response →
      response.Unsplit) ∧
    ((∀ response, (handleNewIncomingMessage env draws requester server text).2 = .ok response →
      response.Unsplit) ↔
        (parseRequest text).ok = true ∨ OneLine (text.dropWhile isSpace)) := by
  have hidentifiers := (identifier_invariant env).reachable hserver
  have hidentifier : OneLine draws.identifier := fun c hc =>
    isLineEnd_of_isUuidChar (hdrawn c hc)
  have hrequest : ∀ response, (server.handleIncomingRequest env draws (parseRequest text).attr
      requester).2 = .ok response → response.Unsplit := fun response h =>
    (handleIncomingRequest_oneLine hidentifiers (phraseParse_oneLine text) hidentifier h).unsplit
  unfold answer handleNewIncomingMessage
  cases hok : (parseRequest text).ok with
  | true => exact ⟨hrequest, iff_of_true hrequest (Or.inl rfl)⟩
  | false =>
    rw [if_neg Bool.false_ne_true, if_neg Bool.false_ne_true, parseRequest_rest_of_fails hok]
    simp only [Except.ok.injEq, forall_eq', Bool.false_eq_true, false_or]
    exact ⟨badRequest_oneLine.unsplit, badDatagram_unsplit_iff _⟩

def setupDatagram : Text :=
  str ("SETUP rtsp://localhost/movie RTSP/1.0\r\nCSeq: 1\r\n" ++
    "Transport: RTP/AVP;unicast\r\n\r\n")

/-- A SETUP of the movie is answered with its transport. -/
theorem responses_unsplit_setup :
    ∃ response, (handleNewIncomingMessage emptyRoot
        { identifier := str "0b5c4a60-91f1-4b3e-8d0f-5c2d3b1a7e42" } default {}
        setupDatagram).2 = .ok response ∧ response.Unsplit := by
  have hparse : (parseRequest setupDatagram).ok = true := by decide
  have hok : (handleNewIncomingMessage emptyRoot
      { identifier := str "0b5c4a60-91f1-4b3e-8d0f-5c2d3b1a7e42" } default {}
      setupDatagram).2.toOption.isSome = true := by
    decide
  cases h : (handleNewIncomingMessage emptyRoot
      { identifier := str "0b5c4a60-91f1-4b3e-8d0f-5c2d3b1a7e42" } default {} setupDatagram).2 with
  | error fault =>
    rw [h] at hok
    cases hok
  | ok response =>
    exact ⟨response, rfl, (responses_unsplit_iff emptyRoot (.init rfl) (by decide +kernel) default
      setupDatagram).2.mpr (Or.inl hparse) response h⟩

/-- No request, with a line that is to be taken for a header of the response. -/
def splittingDatagram : Text := str "X\r\nLocation: rtsp://other/\r\n\r\n"

/-- The response has no headers, and this line in its bytes. -/
theorem responses_split :
    ∃ response, (handleNewIncomingMessage emptyRoot {} default {} splittingDatagram).2 =
        .ok response ∧ response.headers = [] ∧
      str "\r\nLocation: rtsp://other/\r\n" <:+: generateResponse response ∧
        ¬response.Unsplit := by
  have hfails : (parseRequest splittingDatagram).ok = false := by decide
  have hrest : (parseRequest splittingDatagram).rest = splittingDatagram := by decide
  refine ⟨badDatagram splittingDatagram, ?_, rfl, by decide, ?_⟩
  · rw [handleNewIncomingMessage, hfails, if_neg Bool.false_ne_true, hrest]
  · rw [badDatagram_unsplit_iff]
    decide

end Rtsp
