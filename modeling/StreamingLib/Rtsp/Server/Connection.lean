import StreamingLib.Rtsp.Message.Generator
import StreamingLib.Rtsp.Server.Faults

/-!
# TCP connections

`rtsp_server::tcp_connection` of `rtsp_server.cpp`. `async_read_until` calls `header_read` once
the delimiter is buffered, but `header_read` does not look at the number of bytes it is told: it
parses the stream buffer, and what the grammar has moved past is gone from it, whether the parse
succeeds or not.
-/

namespace Rtsp

open Peg Transition

/-- The delimiter of `async_read_until`. -/
def blankLine : Text := crlf ++ crlf

structure TcpConnection where
  inStreambuf : Text := []
  lastResponseString : Text := []
  /-- Whether an `async_read_until` is outstanding. -/
  reading : Bool := true
  /-- Sizes of the buffers whose `async_send` has not completed. -/
  sending : List ℕ := []
  /-- The buffers given to `async_send`, one for each response. -/
  sends : List Text := []
  /-- What the peer has sent. -/
  received : List Text := []
  /-- What each call of `header_read` has removed from the stream buffer. -/
  removed : List Text := []
deriving DecidableEq

/-- The response to a block that does not parse. -/
def badRequest : Response where
  rtspVersionMajor := commonRtspMajorVersion
  rtspVersionMinor := commonRtspMinorVersion
  statusCode := 400
  reasonPhrase := str "Bad Request"
  headers := []

/-- How `header_read` reads the stream buffer. -/
def parseRequest (text : Text) : Reply UInt8 Request :=
  (phraseParse rtspRequestGrammar).run text default

/-- The server after a block, and the response to it unless an exception escapes. -/
def answer (env : Environment) (draws : Draws) (requester : Address) (server : ServerState)
    (text : Text) : ServerState × Except MethodFault Response :=
  if (parseRequest text).ok then
    server.handleIncomingRequest env draws (parseRequest text).attr requester
  else (server, .ok badRequest)

/-- `header_read` without an error of the socket. -/
def headerRead (env : Environment) (draws : Draws) (requester : Address) (server : ServerState)
    (c : TcpConnection) : ServerState × TcpConnection :=
  let far := (parseRequest c.inStreambuf).far
  let c' : TcpConnection := { c with
    inStreambuf := c.inStreambuf.drop far
    removed := c.removed ++ [c.inStreambuf.take far] }
  match answer env draws requester server c.inStreambuf with
  | (server, .error _) => (server, { c' with reading := false })
  | (server, .ok response) =>
    let lastResponseString := c.lastResponseString ++ generateResponse response
    (server, { c' with
      lastResponseString := lastResponseString
      sending := c.sending ++ [lastResponseString.length]
      sends := c.sends ++ [lastResponseString] })

/-- `response_sent` for a send that transferred its whole buffer; the string stays where it
throws. -/
def responseSent (c : TcpConnection) (bytesTransferred : ℕ) : TcpConnection :=
  if bytesTransferred ≠ c.lastResponseString.length then c else { c with lastResponseString := [] }

/-! ### Runs -/

/-- A text that ends with its first blank line. -/
def IsBlock (b : Text) : Prop := blankLine <:+ b ∧ ¬blankLine <:+: b.dropLast

instance (b : Text) : Decidable (IsBlock b) := inferInstanceAs (Decidable (_ ∧ ¬_))

/-- Whether `header_read` is called next. -/
def TcpConnection.Readable (c : TcpConnection) : Prop :=
  c.reading = true ∧ blankLine <:+: c.inStreambuf

instance (c : TcpConnection) : Decidable c.Readable := inferInstanceAs (Decidable (_ ∧ _))

inductive ConnectionEvent
  /-- The peer sends a block. -/
  | block (b : Text)
  | headerRead (draws : Draws)
  | responseSent
  /-- Something else happens to the state of the server. -/
  | server (event : ServerEvent)

/-- The peer sends a block once all blocks before have been answered. -/
def connectionStep (env : Environment) (requester : Address) :
    ServerState × TcpConnection → ConnectionEvent → Option (ServerState × TcpConnection)
  | (server, c), .block b =>
    if IsBlock b ∧ c.received.length ≤ c.sends.length then
      some (server, { c with inStreambuf := c.inStreambuf ++ b, received := c.received ++ [b] })
    else none
  | (server, c), .headerRead draws =>
    if c.Readable then some (headerRead env draws requester server c) else none
  | (server, c), .responseSent =>
    match c.sending with
    | [] => none
    | n :: sending => some (server, responseSent { c with sending := sending } n)
  | (server, c), .server event => (server.step env event).map fun server => (server, c)

/-- A new connection to a server in any state that it can be in. -/
def connectionSystem (env : Environment) (requester : Address) :
    System (ServerState × TcpConnection) ConnectionEvent where
  init s := (serverSystem env).Reachable Always s.1 ∧ s.2 = {}
  step := connectionStep env requester

/-- Every call of `header_read` has removed exactly one block and answered it, in the order of the
blocks, and once no call is to come all blocks have been. -/
def TcpConnection.Framed (c : TcpConnection) : Prop :=
  c.removed <+: c.received ∧ c.sends.length = c.removed.length ∧
    (¬c.Readable → c.removed = c.received)

instance (c : TcpConnection) : Decidable c.Framed :=
  inferInstanceAs (Decidable (_ ∧ _ ∧ (_ → _)))

/-- A block is the beginning of a request, and no exception ends the SETUP that it holds. -/
def Answerable (env : Environment) (requester : Address) :
    ServerState × TcpConnection → ConnectionEvent → Prop
  | _, .block b => ∃ text, b <+: text ∧ (parseRequest text).ok = true
  | (server, c), .headerRead draws => (parseRequest c.inStreambuf).ok = true →
    ¬RequestThrows env draws requester server (parseRequest c.inStreambuf).attr
  | _, _ => True

/-! ### What a request ends in -/

lemma requestLine_endsIn : requestLine.EndsIn crlf := by
  unfold requestLine
  iterate 8 apply Parser.EndsIn.seq
  exact lit_endsIn crlf

lemma header_endsIn : header_.EndsIn crlf := by
  unfold header_
  iterate 4 apply Parser.EndsIn.seq
  exact lit_endsIn crlf

lemma rtspRequestGrammar_endsIn : rtspRequestGrammar.EndsIn blankLine := by
  intro s a hok
  obtain ⟨s₁, a₁, hline, hrest⟩ := matches_seq_iff.mp (Parser.matches_of_ok hok)
  obtain ⟨s₂, a₂, hheaders, hblank⟩ := matches_seq_iff.mp hrest
  obtain ⟨hs₂, -⟩ := lit_matches_iff.mp hblank
  obtain ⟨u, hu⟩ := requestLine_endsIn s a hline.run_ok.1
  rw [hline.run_ok.2.1] at hu
  obtain ⟨v, hv⟩ := (header_endsIn.pushBack).star_rest s₁ s a₁.headers ⟨u, hu⟩
  have hrest₂ : ((star (pushBack header_)).run s₁ a₁.headers).rest = s₂ := hheaders.run_ok.2.1
  rw [hrest₂, hs₂] at hv
  refine ⟨v, hv.trans ?_⟩
  rw [blankLine, List.append_assoc crlf crlf]
  rfl

/-- A request that the grammar accepts at the beginning of a block is the whole block. -/
lemma parseRequest_rest {b : Text} (hb : IsBlock b) (hok : (parseRequest b).ok = true) :
    (parseRequest b).rest = [] := by
  have hmatches : (phraseParse rtspRequestGrammar).Matches b default (parseRequest b).rest
      (parseRequest b).attr := Parser.matches_of_ok hok
  generalize (parseRequest b).rest = rest at hmatches ⊢
  obtain ⟨r, hm, rfl⟩ := phrase_matches_iff.mp hmatches
  obtain ⟨u, hu⟩ := rtspRequestGrammar_endsIn _ _ hm.run_ok.1
  rw [hm.run_ok.2.1] at hu
  rcases r.eq_nil_or_concat with rfl | ⟨r, c, rfl⟩
  · rfl
  · refine absurd ⟨b.takeWhile isSpace ++ u, r, ?_⟩ hb.2
    have hsplit : b = (b.takeWhile isSpace ++ u ++ blankLine ++ r) ++ [c] := by
      conv_lhs => rw [← List.takeWhile_append_dropWhile (p := isSpace) (l := b), hu]
      simp only [List.append_assoc, List.concat_eq_append]
    conv_rhs => rw [hsplit, List.dropLast_concat]

/-- The grammar moves to the end of every block that begins a request. -/
lemma parseRequest_far {b text : Text} (hb : IsBlock b) (hpre : b <+: text)
    (hok : (parseRequest text).ok = true) : (parseRequest b).far = b.length := by
  obtain ⟨t, rfl⟩ := hpre
  exact Parser.far_eq_length (parseRequest_rest hb) hok

/-! ### Runs whose blocks can be answered -/

/-- Either nothing is buffered, or the block that was received last, which `header_read` is about
to remove. -/
structure Waiting (c : TcpConnection) : Prop where
  reading : c.reading = true
  responses : c.sends.length = c.removed.length
  buffered : (c.inStreambuf = [] ∧ c.removed = c.received) ∨
    IsBlock c.inStreambuf ∧ c.received = c.removed ++ [c.inStreambuf] ∧
      ∃ text, c.inStreambuf <+: text ∧ (parseRequest text).ok = true

lemma IsBlock.infix {b : Text} (hb : IsBlock b) : blankLine <:+: b := hb.1.isInfix

lemma Waiting.framed {c : TcpConnection} (h : Waiting c) : c.Framed := by
  rcases h.buffered with ⟨-, heq⟩ | ⟨hblock, heq, -⟩
  · exact ⟨heq ▸ List.prefix_rfl, h.responses, fun _ => heq⟩
  · refine ⟨heq ▸ List.prefix_append _ _, h.responses, fun hread => ?_⟩
    exact absurd ⟨h.reading, hblock.infix⟩ hread

lemma Waiting.block {c : TcpConnection} (h : Waiting c) {b : Text} (hb : IsBlock b)
    (hanswered : c.received.length ≤ c.sends.length)
    (hrequest : ∃ text, b <+: text ∧ (parseRequest text).ok = true) :
    Waiting { c with inStreambuf := c.inStreambuf ++ b, received := c.received ++ [b] } := by
  refine ⟨h.reading, h.responses, Or.inr ?_⟩
  rcases h.buffered with ⟨hempty, heq⟩ | ⟨-, heq, -⟩
  · simp only [hempty, List.nil_append]
    exact ⟨hb, by rw [heq], hrequest⟩
  · have hlength := congrArg List.length heq
    rw [List.length_append, ← h.responses, List.length_singleton] at hlength
    omega

/-- `header_read` removes the block and answers it. -/
lemma Waiting.headerRead {c : TcpConnection} (h : Waiting c) (hread : c.Readable)
    {env : Environment} {draws : Draws} {requester : Address} {server : ServerState}
    (hok : (answer env draws requester server c.inStreambuf).2.isOk = true) :
    Waiting (Rtsp.headerRead env draws requester server c).2 := by
  rcases h.buffered with ⟨hempty, -⟩ | ⟨hblock, heq, text, hpre, htext⟩
  · have hinfix := hread.2
    rw [hempty, List.infix_nil] at hinfix
    exact absurd hinfix (by decide)
  · have hfar := parseRequest_far hblock hpre htext
    unfold Rtsp.headerRead
    dsimp only
    rw [hfar, List.drop_length, List.take_length]
    rcases hanswer : answer env draws requester server c.inStreambuf with
      ⟨server', fault | response⟩
    · rw [hanswer] at hok
      cases hok
    · refine ⟨h.reading, ?_, Or.inl ⟨rfl, heq.symm⟩⟩
      simp only [List.length_append, List.length_singleton, h.responses]

lemma answer_isOk {env : Environment} {draws : Draws} {requester : Address} {server : ServerState}
    (hserver : (serverSystem env).Reachable Always server) {text : Text}
    (hok : (parseRequest text).ok = true →
      ¬RequestThrows env draws requester server (parseRequest text).attr) :
    (answer env draws requester server text).2.isOk = true := by
  unfold answer
  split_ifs with hparse
  · exact (handleIncomingRequest_isOk env hserver draws _ requester).mpr (hok hparse)
  · rfl

lemma answer_reachable {env : Environment} {draws : Draws} {requester : Address}
    {server : ServerState} (hserver : (serverSystem env).Reachable Always server) (text : Text) :
    (serverSystem env).Reachable Always (answer env draws requester server text).1 := by
  unfold answer
  split_ifs
  · exact hserver.step (e := .request draws _ requester) trivial rfl
  · exact hserver

lemma headerRead_server (env : Environment) (draws : Draws) (requester : Address)
    (server : ServerState) (c : TcpConnection) :
    (headerRead env draws requester server c).1 =
      (answer env draws requester server c.inStreambuf).1 := by
  unfold headerRead
  rcases answer env draws requester server c.inStreambuf with ⟨server', fault | response⟩ <;> rfl

lemma waiting_of_reachable {env : Environment} {requester : Address}
    {s : ServerState × TcpConnection}
    (hs : (connectionSystem env requester).Reachable (Answerable env requester) s) :
    (serverSystem env).Reachable Always s.1 ∧ Waiting s.2 := by
  apply hs.invariant
  · rintro ⟨server, c⟩ ⟨hserver, rfl⟩
    exact ⟨hserver, rfl, rfl, Or.inl ⟨rfl, rfl⟩⟩
  · rintro ⟨server, c⟩ event s' ⟨hserver, h⟩ hok hstep
    cases event with
    | block b =>
      simp only [connectionSystem, connectionStep] at hstep
      split_ifs at hstep with hb
      cases hstep
      exact ⟨hserver, h.block hb.1 hb.2 hok⟩
    | headerRead draws =>
      simp only [connectionSystem, connectionStep] at hstep
      split_ifs at hstep with hread
      cases hstep
      refine ⟨?_, h.headerRead hread (answer_isOk hserver hok)⟩
      rw [headerRead_server]
      exact answer_reachable hserver c.inStreambuf
    | responseSent =>
      simp only [connectionSystem, connectionStep] at hstep
      split at hstep
      · cases hstep
      · cases hstep
        refine ⟨hserver, ?_⟩
        unfold responseSent
        split_ifs <;> exact ⟨h.reading, h.responses, h.buffered⟩
    | server event =>
      obtain ⟨server', hserver', rfl⟩ := Option.map_eq_some_iff.mp hstep
      exact ⟨hserver.step trivial hserver', h⟩

/-- In every run in which each block begins a request and no SETUP ends by an exception, each call
of `header_read` removes exactly one block and sends one response. -/
theorem tcp_framing {env : Environment} {requester : Address} {s : ServerState × TcpConnection}
    (hs : (connectionSystem env requester).Reachable (Answerable env requester) s) : s.2.Framed :=
  (waiting_of_reachable hs).2.framed

def optionsBlock : Text := str "OPTIONS * RTSP/1.0\r\nCSeq: 1\r\n\r\n"

def setupBlock : Text :=
  str "SETUP rtsp://localhost/movie RTSP/1.0\r\nCSeq: 1\r\nTransport: RTP/AVP;unicast\r\n\r\n"

/-- Every block is a request, and no exception ends a SETUP. -/
def AllRequests (env : Environment) (requester : Address) :
    ServerState × TcpConnection → ConnectionEvent → Prop
  | _, .block b => (parseRequest b).ok = true
  | (server, c), .headerRead draws =>
    ¬RequestThrows env draws requester server (parseRequest c.inStreambuf).attr
  | _, _ => True

instance (env : Environment) (requester : Address) :
    (s : ServerState × TcpConnection) → (event : ConnectionEvent) →
      Decidable (AllRequests env requester s event)
  | _, .block _ => inferInstanceAs (Decidable (_ = _))
  | _, .headerRead _ => inferInstanceAs (Decidable (¬_))
  | _, .responseSent | _, .server _ => isTrue trivial

lemma AllRequests.answerable {env : Environment} {requester : Address}
    {s : ServerState × TcpConnection} {event : ConnectionEvent}
    (h : AllRequests env requester s event) : Answerable env requester s event := by
  cases event with
  | block b => exact ⟨b, List.prefix_rfl, h⟩
  | headerRead draws => exact fun _ => h
  | responseSent => trivial
  | server event => trivial

/-- A SETUP, and an OPTIONS behind it. -/
theorem tcp_framing_options :
    ∃ s ∈ (connectionSystem emptyRoot default).run ({}, {})
        [.block setupBlock, .headerRead { identifier := str "a" }, .responseSent,
          .block optionsBlock, .headerRead {}],
      s.2.received = [setupBlock, optionsBlock] ∧ s.2.Framed := by
  obtain ⟨s, hrun, hreceived⟩ : ∃ s ∈ (connectionSystem emptyRoot default).run ({}, {})
      [.block setupBlock, .headerRead { identifier := str "a" }, .responseSent,
        .block optionsBlock, .headerRead {}], s.2.received = [setupBlock, optionsBlock] := by
    decide +kernel
  have hmeets : (connectionSystem emptyRoot default).Meets (AllRequests emptyRoot default) ({}, {})
      [.block setupBlock, .headerRead { identifier := str "a" }, .responseSent,
        .block optionsBlock, .headerRead {}] := by
    decide +kernel
  have hinit : (connectionSystem emptyRoot default).Reachable (AllRequests emptyRoot default)
      ({}, {}) := .init ⟨.init rfl, rfl⟩
  exact ⟨s, hrun, hreceived,
    tcp_framing ((hinit.run hmeets hrun).mono fun _ _ => AllRequests.answerable)⟩

/-- The grammar stops after the first character of a block that begins with a separator. -/
theorem tcp_framing_lost :
    ¬∀ (env : Environment) (requester : Address) (s : ServerState × TcpConnection),
      (connectionSystem env requester).Reachable Always s → s.2.Framed := by
  intro h
  obtain ⟨s, hrun, hlost⟩ : ∃ s ∈ (connectionSystem emptyRoot default).run ({}, {})
      [.block (str "/\r\n\r\n"), .headerRead {}], ¬s.2.Framed := by
    decide
  have hinit : (connectionSystem emptyRoot default).Reachable Always ({}, {}) :=
    .init ⟨.init rfl, rfl⟩
  exact hlost (h _ _ s (hinit.run (System.meets_always _ _ _) hrun))

end Rtsp
