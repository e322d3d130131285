import StreamingLib.Rtsp.Server.Connection
import StreamingLib.Rtsp.Server.Refinement
import StreamingLib.Rtsp.Server.ResponseParts

/-!
# Answers can be read back

Whatever the server answers to a well-formed request, the grammar of responses reads it back from
the bytes that the generator writes. The texts that a response repeats (values of headers,
the URI, the method, what is left of a value) are joined to texts of the server, which come first.
-/

namespace Rtsp

open Peg Transition

/-! ### Requests -/

/-- Joined values are a value. -/
lemma normalizeHeaders_isFieldValue {rawHeaders : RawHeaders}
    (h : ∀ header ∈ rawHeaders, IsFieldValue header.2) {key value : Text}
    (hlookup : (normalizeHeaders rawHeaders).lookup key = some value) : IsFieldValue value := by
  have hcomma : ∀ c ∈ str ",", isCntrl c = false := by decide +kernel
  exact normalizeHeaders_keeps (fun hv hw => (hv.append hcomma).append hw.chars) h hlookup

lemma Request.WellFormed.gives {request : Request} (h : request.WellFormed) :
    InternalRequest.Gives IsFieldValue (request, normalizeHeaders request.headers) :=
  ⟨h.method.oneLine, h.uri.oneLine,
    normalizeHeaders_isFieldValue fun header hmem => (h.headers header hmem).value⟩

/-! ### Responses -/

/-- A response that the grammar can give back, with its version numbers. -/
structure Response.Readable (r : Response) : Prop extends r.WellFormed where
  major : r.rtspVersionMajor ≤ 65535
  minor : r.rtspVersionMinor ≤ 65535

lemma commonVersion_le : commonRtspMajorVersion ≤ 65535 ∧ commonRtspMinorVersion ≤ 65535 := by
  decide

/-- A readable response is read back from its bytes. -/
lemma Response.Readable.matches {r : Response} (h : r.Readable) :
    rtspResponseGrammar.Matches (generateResponse r) default [] r := by
  have hmatches := rtspResponseGrammar_matches h.toWellFormed (t := []) (Or.inr rfl)
  rwa [List.append_nil, Response.written_of_le h.major h.minor] at hmatches

lemma Response.Composed.readable {r : Response} (h : r.Composed IsFieldValue) : r.Readable :=
  ⟨⟨h.status, h.reason, fun header hmem => ⟨h.names header hmem, h.values header hmem⟩⟩,
    h.major ▸ commonVersion_le.1, h.minor ▸ commonVersion_le.2⟩

/-- What is answered to a well-formed request can be read back. -/
lemma handleIncomingRequest_readable {env : Environment} {draws : Draws} {s : ServerState}
    {requester : Address} {response : Response}
    (hs : s.All fun identifier session => session.identifier = identifier)
    {request : Request} (hrequest : request.WellFormed) (hdrawn : IsFieldValue draws.identifier)
    (h : (s.handleIncomingRequest env draws request requester).2 = .ok response) :
    response.Readable :=
  (handleIncomingRequest_composed isFieldValue_valueProperty hs hrequest.gives hdrawn h).readable

/-! ### Over the wire -/

/-- A request whose parts and version numbers the grammar can give back. -/
structure Request.Readable (m : Request) : Prop extends m.WellFormed where
  major : m.rtspVersionMajor ≤ 65535
  minor : m.rtspVersionMinor ≤ 65535

/-- The server reads a readable request back from its bytes. -/
lemma Request.Readable.parseRequest {m : Request} (h : m.Readable) :
    (Rtsp.parseRequest (generateRequest m)).ok = true ∧
      (Rtsp.parseRequest (generateRequest m)).attr = m := by
  have hmatches := rtspRequestGrammar_matches h.toWellFormed (t := []) (Or.inr rfl)
  have hdrop := generateRequest_dropWhile h.toWellFormed []
  rw [List.append_nil] at hmatches hdrop
  rw [Request.written_of_le h.major h.minor] at hmatches
  have hphrase := phraseParse_matches (a := default) (by rwa [hdrop])
  exact ⟨hphrase.run_ok.1, hphrase.run_ok.2.2⟩

/-- Whatever state the server is in, it handles the bytes of a well-formed request as the request
itself, and the client reads its answer back from the bytes that are sent. -/
theorem answers_read_back (env : Environment) {server : ServerState}
    (hserver : (serverSystem env).Reachable Always server) {draws : Draws}
    (hdrawn : IsFieldValue draws.identifier) (requester : Address) {request : Request}
    (hrequest : request.Readable) :
    answer env draws requester server (generateRequest request) =
        server.handleIncomingRequest env draws request requester ∧
      ∀ response, (server.handleIncomingRequest env draws request requester).2 = .ok response →
        rtspResponseGrammar.Matches (generateResponse response) default [] response := by
  obtain ⟨hok, hattr⟩ := hrequest.parseRequest
  refine ⟨?_, fun response h => ?_⟩
  · rw [answer, if_pos hok, hattr]
  · exact (handleIncomingRequest_readable ((identifier_invariant env).reachable hserver)
      hrequest.toWellFormed hdrawn h).matches

/-- A SETUP of the movie. -/
theorem answers_read_back_setup :
    ∃ response, (answer emptyRoot { identifier := str "0b5c4a60" } default {}
        (generateRequest setupMovie)).2 = .ok response ∧
      response.statusCode = 200 ∧
      rtspResponseGrammar.Matches (generateResponse response) default [] response := by
  have hrequest : setupMovie.Readable :=
    ⟨⟨by decide, by decide, by decide⟩, by decide, by decide⟩
  obtain ⟨hanswer, hread⟩ := answers_read_back emptyRoot (.init rfl)
    (by decide : IsFieldValue (Draws.identifier { identifier := str "0b5c4a60" })) default hrequest
  rw [hanswer]
  have hstatus : statusOf (ServerState.handleIncomingRequest {} emptyRoot
      { identifier := str "0b5c4a60" } setupMovie default).2 = some 200 := by
    decide
  cases h : (ServerState.handleIncomingRequest {} emptyRoot { identifier := str "0b5c4a60" }
      setupMovie default).2 with
  | error fault =>
    rw [h] at hstatus
    cases hstatus
  | ok response =>
    rw [h] at hstatus
    exact ⟨response, rfl, Option.some.inj hstatus, hread response h⟩

end Rtsp
