import StreamingLib.Rtsp.Client.Agreement
import StreamingLib.Rtsp.Client.Urls
import StreamingLib.Rtsp.Server.ReadableAnswers

/-!
# The dialog over the wire

Client and server exchange bytes, in pieces of any size, and each of them reads a message once its
blank line has arrived. If the client sends a request only when nothing is outstanding, this is the
dialog in which whole messages are exchanged.
-/

namespace Rtsp

open Peg Transition

/-! ### Blocks -/

/-- A blank line does not begin in a line. -/
lemma blankLine_infix_of_oneLine {w t : Text} (hw : OneLine w) (h : blankLine <:+: w ++ t) :
    blankLine <:+: t := by
  induction w with
  | nil => exact h
  | cons c w ih =>
    obtain ⟨hc, hw⟩ := List.forall_mem_cons.mp hw
    rw [List.cons_append, List.infix_cons_iff] at h
    rcases h with h | h
    · have hcr : (13 : UInt8) = c := (List.cons_prefix_cons.mp h).1
      rw [← hcr] at hc
      cases hc
    · exact ih hw h

/-- There is no blank line before the end of the last of some lines. -/
lemma not_blankLine_infix_lines {lines : List Text}
    (hlines : ∀ line ∈ lines, line ≠ [] ∧ OneLine line) :
    ¬blankLine <:+: lines.flatMap (· ++ crlf) ++ [13] := by
  induction lines with
  | nil => decide
  | cons line lines ih =>
    obtain ⟨⟨-, hline⟩, hlines⟩ := List.forall_mem_cons.mp hlines
    intro h
    rw [List.flatMap_cons, List.append_assoc, List.append_assoc] at h
    have hend := blankLine_infix_of_oneLine hline h
    rw [crlf_eq, List.cons_append, List.cons_append, List.nil_append, List.infix_cons_iff,
      List.infix_cons_iff] at hend
    rcases hend with hend | hend | hend
    · have hnext : [13, 10] <+: lines.flatMap (· ++ crlf) ++ [13] :=
        (List.cons_prefix_cons.mp (List.cons_prefix_cons.mp hend).2).2
      cases lines with
      | nil => exact absurd hnext (by decide)
      | cons next lines =>
        obtain ⟨⟨hne, hnextLine⟩, -⟩ := List.forall_mem_cons.mp hlines
        obtain ⟨c, w, rfl⟩ := List.exists_cons_of_ne_nil hne
        rw [List.flatMap_cons, List.cons_append, List.cons_append, List.cons_append] at hnext
        have hcr : (13 : UInt8) = c := (List.cons_prefix_cons.mp hnext).1
        have hc := hnextLine c List.mem_cons_self
        rw [← hcr] at hc
        cases hc
    · exact absurd (List.cons_prefix_cons.mp hend).1 (by decide)
    · exact ih hlines hend

/-- Lines and a blank one are a block. -/
lemma isBlock_lines {lines : List Text} (hne : lines ≠ [])
    (hlines : ∀ line ∈ lines, line ≠ [] ∧ OneLine line) :
    IsBlock (lines.flatMap (· ++ crlf) ++ crlf) := by
  constructor
  · rcases lines.eq_nil_or_concat with rfl | ⟨before, last, rfl⟩
    · exact absurd rfl hne
    · refine ⟨before.flatMap (· ++ crlf) ++ last, ?_⟩
      simp [blankLine, List.flatMap_append]
  · have hdrop : (lines.flatMap (· ++ crlf) ++ crlf).dropLast =
        lines.flatMap (· ++ crlf) ++ [13] := by
      rw [List.dropLast_append_of_ne_nil (by decide)]
      rfl
    rw [hdrop]
    exact not_blankLine_infix_lines hlines

lemma header_lines {hs : RawHeaders} (hhs : ∀ h ∈ hs, IsHeader h) :
    generateHeaders hs = (hs.map headerGenerator).flatMap (· ++ crlf) ∧
      ∀ line ∈ hs.map headerGenerator, line ≠ [] ∧ OneLine line := by
  refine ⟨by rw [List.flatMap_map]; rfl, fun line hmem => ?_⟩
  obtain ⟨h, hh, rfl⟩ := List.mem_map.mp hmem
  have hheader := hhs h hh
  refine ⟨by simp [headerGenerator, str], ?_⟩
  exact ((hheader.name.oneLine.append (by decide)).append (by decide)).append hheader.value.oneLine

lemma isBlock_generateRequest {m : Request} (hm : m.WellFormed) :
    IsBlock (generateRequest m) := by
  obtain ⟨hheaders, hlines⟩ := header_lines hm.headers
  have hfirst : OneLine (m.methodOrExtension ++ str " " ++ m.uri ++ str " " ++ str "RTSP/" ++
      uint_ m.rtspVersionMajor ++ str "." ++ uint_ m.rtspVersionMinor) := by
    simp only [oneLine_append, uint_oneLine, hm.method.oneLine, hm.uri.oneLine, true_and, and_true]
    decide
  have htext : generateRequest m = ((m.methodOrExtension ++ str " " ++ m.uri ++ str " " ++
      str "RTSP/" ++ uint_ m.rtspVersionMajor ++ str "." ++ uint_ m.rtspVersionMinor) ::
        m.headers.map headerGenerator).flatMap (· ++ crlf) ++ crlf := by
    rw [List.flatMap_cons, ← hheaders]
    rfl
  rw [htext]
  exact isBlock_lines (List.cons_ne_nil _ _)
    (List.forall_mem_cons.mpr ⟨⟨by simp [str], hfirst⟩, hlines⟩)

lemma isBlock_generateResponse {m : Response} (hm : m.WellFormed) :
    IsBlock (generateResponse m) := by
  obtain ⟨hheaders, hlines⟩ := header_lines hm.headers
  have hfirst : OneLine (str "RTSP/" ++ uint_ m.rtspVersionMajor ++ str "." ++
      uint_ m.rtspVersionMinor ++ str " " ++ uint_ m.statusCode ++ str " " ++ m.reasonPhrase) := by
    simp only [oneLine_append, uint_oneLine, hm.reason.oneLine, and_true]
    decide
  have htext : generateResponse m = ((str "RTSP/" ++ uint_ m.rtspVersionMajor ++ str "." ++
      uint_ m.rtspVersionMinor ++ str " " ++ uint_ m.statusCode ++ str " " ++ m.reasonPhrase) ::
        m.headers.map headerGenerator).flatMap (· ++ crlf) ++ crlf := by
    rw [List.flatMap_cons, ← hheaders]
    rfl
  rw [htext]
  exact isBlock_lines (List.cons_ne_nil _ _)
    (List.forall_mem_cons.mpr ⟨⟨by simp [str], hfirst⟩, hlines⟩)

/-- The blank line of a block is its end. -/
lemma IsBlock.eq_of_blankLine {b p : Text} (hb : IsBlock b) (hp : p <+: b)
    (h : blankLine <:+: p) : p = b := by
  obtain ⟨r, rfl⟩ := hp
  rcases r.eq_nil_or_concat with rfl | ⟨r, c, rfl⟩
  · exact (List.append_nil p).symm
  · refine absurd (h.trans ⟨[], r, ?_⟩) hb.2
    rw [List.concat_eq_append, ← List.append_assoc, List.dropLast_concat, List.nil_append]

/-! ### Dialogs of bytes -/

/-- A dialog over a TCP connection. Its queues of whole messages stay empty. -/
structure WireDialog where
  dialog : Dialog := {}
  connection : TcpConnection := {}
  /-- The bytes that the server has not received. -/
  uplink : Text := []
  /-- The bytes that the client has not received. -/
  downlink : Text := []

inductive WireEvent
  | call (method : ClientMethod) (choices : SetupChoices)
  | resolved (callback : ClientMethod)
  | connected (choices : SetupChoices)
  /-- Bytes arrive at the server. -/
  | receiveRequest (n : ℕ)
  /-- `header_read` of the server. -/
  | serve (draws : Draws)
  | responseSent
  /-- Bytes arrive at the client. -/
  | receiveResponse (n : ℕ)
  /-- `header_read` of the client. -/
  | headerRead (socketOpens : Bool) (bytesTransferred : ℕ)
  | sender (identifier : Text) (event : Rtp.SenderEvent)

namespace WireDialog

/-- What a callback has sent is generated and goes on the way. -/
def flush (w : WireDialog) (d : Dialog) : WireDialog :=
  { w with
    dialog := { d with requests := [] }
    uplink := w.uplink ++ d.requests.flatMap generateRequest }

def receiveRequest (w : WireDialog) (n : ℕ) : WireDialog :=
  { w with
    connection.inStreambuf := w.connection.inStreambuf ++ w.uplink.take n
    uplink := w.uplink.drop n }

def serve (w : WireDialog) (env : Environment) (draws : Draws) (requester : Address) :
    WireDialog :=
  let r := Rtsp.headerRead env draws requester w.dialog.server w.connection
  { w with
    dialog := { w.dialog with server := r.1, thrown := w.dialog.thrown || !r.2.reading }
    connection := r.2
    downlink := w.downlink ++ (r.2.sends.drop w.connection.sends.length).flatten }

def responseSent (w : WireDialog) (n : ℕ) (sending : List ℕ) : WireDialog :=
  { w with
    dialog.thrown := w.dialog.thrown || n != w.connection.lastResponseString.length
    connection := Rtsp.responseSent { w.connection with sending := sending } n }

def receiveResponse (w : WireDialog) (n : ℕ) : WireDialog :=
  { w with
    dialog.client.inStreambuf := w.dialog.client.inStreambuf ++ w.downlink.take n
    downlink := w.downlink.drop n }

def headerRead (w : WireDialog) (socketOpens : Bool) (bytesTransferred : ℕ) : WireDialog :=
  let r := w.dialog.client.headerRead socketOpens bytesTransferred
  { w with dialog := { w.dialog with client := r.1, thrown := w.dialog.thrown || r.2.isSome } }

/-- The client reads `bytes_transferred` bytes, the first block of its stream buffer. -/
def Transferred (w : WireDialog) (bytesTransferred : ℕ) : Prop :=
  w.dialog.client.reading = true ∧ bytesTransferred ≤ w.dialog.client.inStreambuf.length ∧
    IsBlock (w.dialog.client.inStreambuf.take bytesTransferred)

instance (w : WireDialog) (bytesTransferred : ℕ) : Decidable (w.Transferred bytesTransferred) :=
  inferInstanceAs (Decidable (_ ∧ _ ∧ _))

def step (env : Environment) (requester : Address) (originalUrl : Text) (w : WireDialog) :
    WireEvent → Option WireDialog
  | .call method choices => some (w.flush (w.dialog.call originalUrl choices method))
  | .resolved callback =>
    if callback ∈ w.dialog.resolving then some { w with dialog := w.dialog.resolved callback }
    else none
  | .connected choices => w.dialog.socket.callback.map fun callback =>
      w.flush (w.dialog.connected originalUrl choices callback)
  | .receiveRequest n => some (w.receiveRequest n)
  | .serve draws => if w.connection.Readable then some (w.serve env draws requester) else none
  | .responseSent =>
    match w.connection.sending with
    | [] => none
    | n :: sending => some (w.responseSent n sending)
  | .receiveResponse n => some (w.receiveResponse n)
  | .headerRead socketOpens bytesTransferred =>
    if w.Transferred bytesTransferred then some (w.headerRead socketOpens bytesTransferred)
    else none
  | .sender identifier event => (w.dialog.server.step env (.sender identifier event)).map
      fun server => { w with dialog := { w.dialog with server := server } }

end WireDialog

/-- A new client of a server in any state that it can be in. No identifier of a session is
empty. -/
def wireSystem (env : Environment) (requester : Address) (originalUrl : Text) :
    System WireDialog WireEvent where
  init w := (serverSystem env).Reachable Always w.dialog.server ∧
    w.dialog.server.stateOf [] = none ∧ w = { dialog := { server := w.dialog.server } }
  step := WireDialog.step env requester originalUrl

namespace WireDialog

/-- Nothing is outstanding, and what is put into the request is the value of a header. -/
structure MaySend (w : WireDialog) (method : ClientMethod) (choices : SetupChoices) : Prop where
  quiet : w.dialog.Quiet
  identifier : method ≠ .setup → w.dialog.client.session.identifier ≠ []
  mknOption : ∀ mknOption ∈ choices.mknOption, IsFieldValue mknOption

instance (w : WireDialog) (method : ClientMethod) (choices : SetupChoices) :
    Decidable (w.MaySend method choices) :=
  decidable_of_iff (w.dialog.Quiet ∧ (method ≠ .setup → w.dialog.client.session.identifier ≠ []) ∧
      ∀ mknOption ∈ choices.mknOption, IsFieldValue mknOption)
    ⟨fun h => ⟨h.1, h.2.1, h.2.2⟩, fun h => ⟨h.quiet, h.identifier, h.mknOption⟩⟩

/-- The client sends one request at a time, and the server reads once it has sent what it
answered before. -/
def Orderly (w : WireDialog) : WireEvent → Prop
  | .call method choices => method.refusal w.dialog.client.session.sessionState = none →
      w.dialog.socket ≠ .closed → w.MaySend method choices
  | .connected choices => ∀ callback ∈ w.dialog.socket.callback, w.MaySend callback choices
  | .serve draws => w.connection.sending = [] ∧ IsFieldValue draws.identifier
  | .resolved _ | .receiveRequest _ | .responseSent | .receiveResponse _ | .headerRead _ _
  | .sender _ _ => True

instance (w : WireDialog) : (event : WireEvent) → Decidable (w.Orderly event)
  | .call _ _ => inferInstanceAs (Decidable (_ → _ → _))
  | .connected _ => inferInstanceAs (Decidable (∀ _ ∈ _, _))
  | .serve _ => inferInstanceAs (Decidable (_ ∧ _))
  | .resolved _ | .receiveRequest _ | .responseSent | .receiveResponse _ | .headerRead _ _
  | .sender _ _ => isTrue trivial

end WireDialog

/-- The client without what it has buffered. -/
def RtspClient.forget (c : RtspClient) : RtspClient :=
  { c with inStreambuf := [], parserBuffer := [] }

namespace WireDialog

/-- The dialog in which some messages are on the way. -/
def whole (w : WireDialog) (requests : List Request) (responses : List Response) : Dialog :=
  { w.dialog with
    client := w.dialog.client.forget
    requests := requests
    responses := responses }

/-- At most one message is on the way, and its bytes are those that are buffered or have not
arrived. -/
structure InFlight (w : WireDialog) (requests : List Request) (responses : List Response) :
    Prop where
  one : requests.length + responses.length ≤ 1
  readableRequests : ∀ m ∈ requests, m.Readable
  readableResponses : ∀ m ∈ responses, m.Readable
  uplink : w.connection.inStreambuf ++ w.uplink = requests.flatMap generateRequest
  downlink : w.dialog.client.inStreambuf ++ w.downlink = responses.flatMap generateResponse

end WireDialog

/-! ### Sending -/

/-- With nothing outstanding every method may be called. -/
lemma Dialog.Quiet.maySend {d : Dialog} (h : d.Quiet) (method : ClientMethod) :
    d.MaySend method := by
  have hquiet : d.client.outstandingRequests = ∅ := h
  constructor
  · rw [hquiet]
    exact Finmap.notMem_empty
  · intro cseq hmem
    rw [hquiet, Finmap.keys_empty] at hmem
    exact absurd hmem (Finset.notMem_empty cseq)

lemma Tracked.idle {d : Dialog} (h : Tracked d) (hquiet : d.Quiet) :
    d.requests = [] ∧ d.responses = [] := by
  obtain ⟨answered, asked, hway, hwill⟩ := h
  obtain ⟨rfl, rfl, -⟩ := nothing_awaited hquiet hwill
  exact ⟨hway.requests, hway.responses⟩

lemma ClientMethod.isToken_name (method : ClientMethod) : IsToken method.name := by
  cases method <;> decide

lemma SetupChoices.isHeader {choices : SetupChoices}
    (h : ∀ mknOption ∈ choices.mknOption, IsFieldValue mknOption) :
    ∀ header ∈ choices.headers, IsHeader header := by
  have htransport : IsHeader (str "Transport",
      generateTransportHeader ⟨[setupTransportSpec choices.clientPort]⟩) :=
    ⟨show IsToken (str "Transport") by decide, isFieldValue_transport choices.clientPort⟩
  unfold SetupChoices.headers
  cases hoption : choices.mknOption with
  | none => exact List.forall_mem_singleton.mpr htransport
  | some mknOption =>
    have hvalue : IsHeader (mknOptionHeader, mknOption) :=
      ⟨show IsToken mknOptionHeader by decide, h mknOption hoption⟩
    have hrequire : IsHeader (str "Require", mknOptionTag) := by decide
    exact List.forall_mem_cons.mpr ⟨htransport, List.forall_mem_cons.mpr
      ⟨hrequire, List.forall_mem_singleton.mpr hvalue⟩⟩

lemma ClientMethod.isHeader {identifier : Text} {choices : SetupChoices}
    (hoption : ∀ mknOption ∈ choices.mknOption, IsFieldValue mknOption) (method : ClientMethod)
    (hidentifier : method ≠ .setup → IsFieldValue identifier) :
    ∀ header ∈ method.headers identifier choices, IsHeader header := by
  have hsession : IsToken (str "session") := by decide
  cases method with
  | setup => exact SetupChoices.isHeader hoption
  | play => exact List.forall_mem_singleton.mpr ⟨hsession, hidentifier (by decide)⟩
  | pause => exact List.forall_mem_singleton.mpr ⟨hsession, hidentifier (by decide)⟩
  | teardown => exact List.forall_mem_singleton.mpr ⟨hsession, hidentifier (by decide)⟩

/-- What `send` puts on the way. -/
def Dialog.sentRequest (d : Dialog) (originalUrl : Text) (choices : SetupChoices)
    (method : ClientMethod) : Request where
  methodOrExtension := method.name
  uri := originalUrl
  rtspVersionMajor := 1
  rtspVersionMinor := 0
  headers := (str "CSeq", numeral digitChar 10 d.nextCseq.toNat) ::
    method.headers d.client.session.identifier choices

section Send

variable {d : Dialog} {originalUrl : Text} {choices : SetupChoices} {method : ClientMethod}

lemma sentRequest_readable (hurl : IsUri originalUrl)
    (hoption : ∀ mknOption ∈ choices.mknOption, IsFieldValue mknOption)
    (hidentifier : method ≠ .setup → IsFieldValue d.client.session.identifier) :
    (d.sentRequest originalUrl choices method).Readable where
  method := method.isToken_name
  uri := hurl
  headers := List.forall_mem_cons.mpr
    ⟨isHeader_cseq d.nextCseq, method.isHeader hoption hidentifier⟩
  major := show 1 ≤ 65535 by norm_num
  minor := Nat.zero_le _

lemma requests_send : (d.send originalUrl choices method).requests =
    d.requests ++ [d.sentRequest originalUrl choices method] := rfl

/-- A call sends its request, or nothing. -/
lemma call_requests (hrequests : d.requests = []) :
    (d.call originalUrl choices method).requests = [] ∨
      (method.refusal d.client.session.sessionState = none ∧ d.socket ≠ .closed ∧
        (d.call originalUrl choices method).requests =
          [d.sentRequest originalUrl choices method]) := by
  unfold Dialog.call
  cases hrefusal : method.refusal d.client.session.sessionState with
  | some fault => exact Or.inl hrequests
  | none =>
    dsimp only
    split_ifs with hclosed
    · exact Or.inl hrequests
    · refine Or.inr ⟨rfl, hclosed, ?_⟩
      rw [requests_send, hrequests, List.nil_append]

lemma call_frame : (d.call originalUrl choices method).thrown = d.thrown ∧
    (d.call originalUrl choices method).client.session = d.client.session ∧
    (d.call originalUrl choices method).client.inStreambuf = d.client.inStreambuf := by
  unfold Dialog.call
  cases method.refusal d.client.session.sessionState with
  | some fault => exact ⟨rfl, rfl, rfl⟩
  | none =>
    dsimp only
    split_ifs <;> exact ⟨rfl, rfl, rfl⟩

end Send

namespace WireDialog

/-! ### The dialog of whole messages -/

section Whole

variable (w : WireDialog) (requests : List Request) (responses : List Response)

@[simp] lemma whole_session :
    (w.whole requests responses).client.session = w.dialog.client.session := rfl

@[simp] lemma whole_socket : (w.whole requests responses).socket = w.dialog.socket := rfl

end Whole

variable {env : Environment} {requester : Address} {originalUrl : Text} {w : WireDialog}
  {requests : List Request} {responses : List Response}

lemma whole_call (hrequests : w.dialog.requests = []) (choices : SetupChoices)
    (method : ClientMethod) :
    (w.flush (w.dialog.call originalUrl choices method)).whole
        (requests ++ (w.dialog.call originalUrl choices method).requests) responses =
      (w.whole requests responses).call originalUrl choices method := by
  unfold Dialog.call
  rw [whole_session, whole_socket]
  cases method.refusal w.dialog.client.session.sessionState with
  | some fault =>
    dsimp only
    rw [hrequests, List.append_nil]
    rfl
  | none =>
    dsimp only
    split_ifs with hclosed
    · rw [show (w.dialog.openSocket method).requests = [] from hrequests, List.append_nil]
      rfl
    · rw [requests_send, hrequests, List.nil_append]
      rfl

/-- The invariant of orderly runs in which nothing has thrown. -/
structure Wired (env : Environment) (requester : Address) (originalUrl : Text) (w : WireDialog)
    (requests : List Request) (responses : List Response) : Prop where
  inFlight : w.InFlight requests responses
  reachable : (dialogSystem env requester originalUrl).Reachable Dialog.InTurn
    (w.whole requests responses)
  unthrown : w.dialog.thrown = false
  generated : w.dialog.requests = []
  reading : w.connection.reading = true
  settled : (w.connection.sending = [] ∧ w.connection.lastResponseString = []) ∨
    w.connection.sending = [w.connection.lastResponseString.length]
  identifier : w.dialog.client.session.identifier = [] ∨
    IsFieldValue w.dialog.client.session.identifier

lemma Wired.concordant (h : w.Wired env requester originalUrl requests responses) :
    Concordant env (w.whole requests responses) :=
  h.reachable.invariant (fun _ hinit => concordant_init hinit)
    fun _ _ _ hd hturn hstep => hd.step hturn hstep

lemma Wired.idle (h : w.Wired env requester originalUrl requests responses)
    (hquiet : w.dialog.Quiet) : requests = [] ∧ responses = [] :=
  (h.concordant.tracked h.unthrown).idle hquiet

lemma InFlight.congr {w' : WireDialog} (h : w.InFlight requests responses)
    (huplink : w'.connection.inStreambuf ++ w'.uplink = w.connection.inStreambuf ++ w.uplink)
    (hdownlink : w'.dialog.client.inStreambuf ++ w'.downlink =
      w.dialog.client.inStreambuf ++ w.downlink) : w'.InFlight requests responses :=
  ⟨h.one, h.readableRequests, h.readableResponses, huplink.trans h.uplink,
    hdownlink.trans h.downlink⟩

/-- A request is sent when nothing is on the way. -/
lemma Wired.flush (h : w.Wired env requester originalUrl requests responses)
    (hurl : IsUri originalUrl) {method : ClientMethod} {choices : SetupChoices}
    (hmay : w.MaySend method choices) {d : Dialog}
    (hrequests : d.requests = [w.dialog.sentRequest originalUrl choices method])
    (hbuffer : d.client.inStreambuf = w.dialog.client.inStreambuf) :
    (w.flush d).InFlight (requests ++ d.requests) responses := by
  obtain ⟨rfl, rfl⟩ := h.idle hmay.quiet
  have hreadable : (w.dialog.sentRequest originalUrl choices method).Readable :=
    sentRequest_readable hurl hmay.mknOption fun hsetup =>
      h.identifier.resolve_left (hmay.identifier hsetup)
  rw [hrequests, List.nil_append]
  refine ⟨le_rfl, List.forall_mem_singleton.mpr hreadable, List.forall_mem_nil _, ?_, ?_⟩
  · have hup := h.inFlight.uplink
    change w.connection.inStreambuf ++ (w.uplink ++ d.requests.flatMap generateRequest) = _
    rw [← List.append_assoc, hup, hrequests, List.flatMap_nil, List.nil_append]
  · change d.client.inStreambuf ++ w.downlink = _
    rw [hbuffer]
    exact h.inFlight.downlink

lemma Wired.call (h : w.Wired env requester originalUrl requests responses)
    (hurl : IsUri originalUrl) {method : ClientMethod} {choices : SetupChoices}
    (horderly : w.Orderly (.call method choices)) :
    (w.flush (w.dialog.call originalUrl choices method)).Wired env requester originalUrl
      (requests ++ (w.dialog.call originalUrl choices method).requests) responses := by
  obtain ⟨hthrown, hsession, hbuffer⟩ := @call_frame w.dialog originalUrl choices method
  have hturn : (w.whole requests responses).InTurn (.call method choices) :=
    fun hrefusal hopen => Dialog.Quiet.maySend (d := w.whole requests responses)
      (horderly hrefusal hopen).quiet method
  have hstep := h.reachable.step hturn (congrArg some (whole_call h.generated choices method).symm)
  refine ⟨?_, hstep, hthrown.trans h.unthrown, rfl, h.reading, h.settled, ?_⟩
  · rcases @call_requests w.dialog originalUrl choices method h.generated with
      hnone | ⟨hrefusal, hopen, hone⟩
    · rw [hnone, List.append_nil]
      refine h.inFlight.congr ?_ (congrArg (· ++ w.downlink) hbuffer)
      change w.connection.inStreambuf ++ (w.uplink ++ _) = _
      rw [hnone, List.flatMap_nil, List.append_nil]
    · exact h.flush hurl (horderly hrefusal hopen) hone hbuffer
  · change (w.dialog.call originalUrl choices method).client.session.identifier = [] ∨
      IsFieldValue (w.dialog.call originalUrl choices method).client.session.identifier
    rw [hsession]
    exact h.identifier

lemma Wired.resolved (h : w.Wired env requester originalUrl requests responses)
    {callback : ClientMethod} (hmem : callback ∈ w.dialog.resolving)
    (hthrown : (w.dialog.resolved callback).thrown = false) :
    Wired env requester originalUrl { w with dialog := w.dialog.resolved callback } requests
      responses := by
  have hclosed : w.dialog.socket = .closed := by
    by_contra hopen
    rw [Dialog.resolved] at hthrown
    simp only [hopen, if_false] at hthrown
    cases hthrown
  have hresolved : w.dialog.resolved callback = { w.dialog with
      resolving := w.dialog.resolving.erase callback
      socket := .connecting callback } := by
    rw [Dialog.resolved]
    simp only [hclosed, if_true]
  have hstep : (dialogSystem env requester originalUrl).step (w.whole requests responses)
      (.resolved callback) = some ((w.whole requests responses).resolved callback) := if_pos hmem
  have hwhole : (w.whole requests responses).resolved callback =
      { w.whole requests responses with
        resolving := w.dialog.resolving.erase callback
        socket := .connecting callback } := by
    rw [Dialog.resolved]
    simp only [whole_socket, hclosed, if_true]
    rfl
  rw [hwhole] at hstep
  rw [hresolved]
  exact ⟨h.inFlight.congr rfl rfl, h.reachable.step (e := .resolved callback) trivial hstep,
    h.unthrown, h.generated, h.reading, h.settled, h.identifier⟩

/-- The socket is connected, and the first request is sent. -/
lemma Wired.connected (h : w.Wired env requester originalUrl requests responses)
    (hurl : IsUri originalUrl) {callback : ClientMethod} {choices : SetupChoices}
    (hcallback : w.dialog.socket.callback = some callback)
    (horderly : w.Orderly (.connected choices)) :
    (w.flush (w.dialog.connected originalUrl choices callback)).Wired env requester originalUrl
      (requests ++ (w.dialog.connected originalUrl choices callback).requests) responses := by
  have hmay := horderly callback hcallback
  have hturn : (w.whole requests responses).InTurn (.connected choices) := fun callback _ =>
    Dialog.Quiet.maySend (d := w.whole requests responses) hmay.quiet callback
  have hsent : (w.dialog.connected originalUrl choices callback).requests =
      [w.dialog.sentRequest originalUrl choices callback] := by
    change w.dialog.requests ++ [w.dialog.sentRequest originalUrl choices callback] = _
    rw [h.generated, List.nil_append]
  have hwhole : (w.flush (w.dialog.connected originalUrl choices callback)).whole
      (requests ++ (w.dialog.connected originalUrl choices callback).requests) responses =
      (w.whole requests responses).connected originalUrl choices callback := by
    rw [hsent]
    rfl
  have hstep : (dialogSystem env requester originalUrl).step (w.whole requests responses)
      (.connected choices) =
      some ((w.whole requests responses).connected originalUrl choices callback) := by
    change w.dialog.socket.callback.map _ = _
    rw [hcallback]
    rfl
  rw [← hwhole] at hstep
  exact ⟨h.flush hurl hmay hsent rfl, h.reachable.step hturn hstep, h.unthrown, rfl, h.reading,
    h.settled, h.identifier⟩

/-! ### Bytes arrive -/

lemma Wired.receiveRequest (h : w.Wired env requester originalUrl requests responses) (n : ℕ) :
    (w.receiveRequest n).Wired env requester originalUrl requests responses := by
  refine ⟨h.inFlight.congr ?_ rfl, h.reachable, h.unthrown, h.generated, h.reading, h.settled,
    h.identifier⟩
  change w.connection.inStreambuf ++ w.uplink.take n ++ w.uplink.drop n = _
  rw [List.append_assoc, List.take_append_drop]

lemma Wired.receiveResponse (h : w.Wired env requester originalUrl requests responses) (n : ℕ) :
    (w.receiveResponse n).Wired env requester originalUrl requests responses := by
  refine ⟨h.inFlight.congr rfl ?_, h.reachable, h.unthrown, h.generated, h.reading, h.settled,
    h.identifier⟩
  change w.dialog.client.inStreambuf ++ w.downlink.take n ++ w.downlink.drop n = _
  rw [List.append_assoc, List.take_append_drop]

/-- The outstanding send completes. -/
lemma Wired.responseSent (h : w.Wired env requester originalUrl requests responses) {n : ℕ}
    {sending : List ℕ} (hsending : w.connection.sending = n :: sending) :
    (w.responseSent n sending).Wired env requester originalUrl requests responses := by
  have hone : w.connection.sending = [w.connection.lastResponseString.length] := by
    rcases h.settled with ⟨hnone, -⟩ | hone
    · rw [hnone] at hsending
      cases hsending
    · exact hone
  obtain ⟨rfl, rfl⟩ := List.cons.inj (hsending.symm.trans hone)
  have hsent : w.responseSent w.connection.lastResponseString.length [] =
      { w with connection := { w.connection with sending := [], lastResponseString := [] } } := by
    simp [WireDialog.responseSent, Rtsp.responseSent]
  rw [hsent]
  exact ⟨h.inFlight.congr rfl rfl, h.reachable, h.unthrown, h.generated, h.reading,
    Or.inl ⟨rfl, rfl⟩, h.identifier⟩

lemma Wired.sender (h : w.Wired env requester originalUrl requests responses) {identifier : Text}
    {event : Rtp.SenderEvent} {server : ServerState}
    (hserver : w.dialog.server.step env (.sender identifier event) = some server) :
    Wired env requester originalUrl { w with dialog := { w.dialog with server := server } }
      requests responses := by
  have hstep : (dialogSystem env requester originalUrl).step (w.whole requests responses)
      (.sender identifier event) =
      some { w.whole requests responses with server := server } := by
    change (w.dialog.server.step env (.sender identifier event)).map _ = _
    rw [hserver]
    rfl
  exact ⟨h.inFlight.congr rfl rfl,
    h.reachable.step (e := .sender identifier event) trivial hstep, h.unthrown, h.generated,
    h.reading, h.settled, h.identifier⟩

/-! ### The server reads -/

/-- A blank line that has arrived at the server ends the request on the way. -/
lemma InFlight.request (h : w.InFlight requests responses) (hread : w.connection.Readable) :
    ∃ request : Request, requests = [request] ∧ responses = [] ∧ request.Readable ∧
      w.connection.inStreambuf = generateRequest request ∧ w.uplink = [] := by
  have hone := h.one
  have hup := h.uplink
  rcases requests with - | ⟨request, - | ⟨request', requests⟩⟩
  · have hblank := hread.2
    rw [List.flatMap_nil, List.append_eq_nil_iff] at hup
    rw [hup.1, List.infix_nil] at hblank
    exact absurd hblank (by decide)
  · have hnone : responses = [] := by
      rw [List.length_singleton] at hone
      exact List.length_eq_zero_iff.mp (by omega)
    have hreadable := h.readableRequests request List.mem_cons_self
    rw [List.flatMap_singleton] at hup
    have hall := (isBlock_generateRequest hreadable.toWellFormed).eq_of_blankLine ⟨_, hup⟩ hread.2
    rw [hall, List.append_right_eq_self] at hup
    exact ⟨request, rfl, hnone, hreadable, hall, hup⟩
  · simp only [List.length_cons] at hone
    omega

/-- A block that the client has received is the response on the way. -/
lemma InFlight.response (h : w.InFlight requests responses) {bytesTransferred : ℕ}
    (hread : w.Transferred bytesTransferred) :
    ∃ response : Response, requests = [] ∧ responses = [response] ∧ response.Readable ∧
      w.dialog.client.inStreambuf = generateResponse response ∧
      w.dialog.client.inStreambuf.length = bytesTransferred ∧ w.downlink = [] := by
  obtain ⟨-, hle, hblock⟩ := hread
  have hone := h.one
  have hdown := h.downlink
  rcases responses with - | ⟨response, - | ⟨response', responses⟩⟩
  · rw [List.flatMap_nil, List.append_eq_nil_iff] at hdown
    have hblank := hblock.infix
    rw [hdown.1, List.take_nil, List.infix_nil] at hblank
    exact absurd hblank (by decide)
  · have hnone : requests = [] := by
      rw [List.length_singleton] at hone
      exact List.length_eq_zero_iff.mp (by omega)
    have hreadable := h.readableResponses response List.mem_cons_self
    rw [List.flatMap_singleton] at hdown
    have hprefix : w.dialog.client.inStreambuf.take bytesTransferred <+:
        generateResponse response :=
      (List.take_prefix _ _).trans ⟨_, hdown⟩
    have hall :=
      (isBlock_generateResponse hreadable.toWellFormed).eq_of_blankLine hprefix hblock.infix
    have hlength : (generateResponse response).length = bytesTransferred := by
      rw [← hall, List.length_take, Nat.min_eq_left hle]
    have hbuffer : w.dialog.client.inStreambuf = generateResponse response := by
      have hlengths := congrArg List.length hdown
      rw [List.length_append] at hlengths
      refine (List.prefix_of_prefix_length_le ⟨_, hdown⟩ List.prefix_rfl ?_).eq_of_length ?_
      · omega
      · omega
    rw [hbuffer, List.append_right_eq_self] at hdown
    exact ⟨response, hnone, rfl, hreadable, hbuffer, hbuffer ▸ hlength, hdown⟩
  · simp only [List.length_cons] at hone
    omega

/-- `header_read` on a request, with nothing to send. -/
lemma headerRead_generateRequest {draws : Draws} {server server' : ServerState} {c : TcpConnection}
    {request : Request} {response : Response} (hrequest : request.Readable)
    (hbuffer : c.inStreambuf = generateRequest request) (hidle : c.sending = [])
    (hlast : c.lastResponseString = [])
    (hresult : server.handleIncomingRequest env draws request requester = (server', .ok response)) :
    Rtsp.headerRead env draws requester server c = (server', { c with
      inStreambuf := []
      removed := c.removed ++ [generateRequest request]
      lastResponseString := generateResponse response
      sending := [(generateResponse response).length]
      sends := c.sends ++ [generateResponse response] }) := by
  obtain ⟨hok, hattr⟩ := hrequest.parseRequest
  have hfar : (parseRequest (generateRequest request)).far = (generateRequest request).length :=
    parseRequest_far (isBlock_generateRequest hrequest.toWellFormed) List.prefix_rfl hok
  have hanswer : answer env draws requester server (generateRequest request) =
      (server', .ok response) := by
    rw [answer, if_pos hok, hattr, hresult]
  unfold Rtsp.headerRead
  rw [hbuffer, hanswer, hfar, hidle, hlast]
  dsimp only
  rw [List.drop_length, List.take_length, List.nil_append, List.nil_append]

/-- An exception that escapes ends the reading. -/
lemma headerRead_reading {draws : Draws} {server : ServerState} {c : TcpConnection}
    {fault : MethodFault} (hresult : (answer env draws requester server c.inStreambuf).2 =
      .error fault) : (Rtsp.headerRead env draws requester server c).2.reading = false := by
  unfold Rtsp.headerRead
  rcases hanswer : answer env draws requester server c.inStreambuf with
    ⟨server', fault' | response⟩
  · rfl
  · rw [hanswer] at hresult
    cases hresult

/-- The server reads the request on the way, and its response is. -/
lemma Wired.serve (h : w.Wired env requester originalUrl requests responses)
    (hread : w.connection.Readable) {draws : Draws} (horderly : w.Orderly (.serve draws))
    (hthrown : (w.serve env draws requester).dialog.thrown = false) :
    ∃ response, (w.serve env draws requester).Wired env requester originalUrl [] [response] := by
  obtain ⟨hidle, hdrawn⟩ := horderly
  obtain ⟨request, rfl, rfl, hrequest, hbuffer, huplink⟩ := h.inFlight.request hread
  have hlast : w.connection.lastResponseString = [] := by
    rcases h.settled with ⟨-, hempty⟩ | hone
    · exact hempty
    · rw [hidle] at hone
      cases hone
  have hserver : (serverSystem env).Reachable Always w.dialog.server := h.concordant.server
  rcases hresult : w.dialog.server.handleIncomingRequest env draws request requester with
    ⟨server, fault | response⟩
  · have hanswer : (answer env draws requester w.dialog.server w.connection.inStreambuf).2 =
        .error fault := by
      obtain ⟨hok, hattr⟩ := hrequest.parseRequest
      rw [hbuffer, answer, if_pos hok, hattr, hresult]
    have hnot : (w.serve env draws requester).dialog.thrown = (w.dialog.thrown || !false) :=
      congrArg (fun reading => w.dialog.thrown || !reading) (headerRead_reading hanswer)
    rw [hnot, Bool.not_false, Bool.or_true] at hthrown
    cases hthrown
  have hreadable : response.Readable :=
    handleIncomingRequest_readable ((identifier_invariant env).reachable hserver)
      hrequest.toWellFormed hdrawn (congrArg Prod.snd hresult)
  have hserve : w.serve env draws requester =
      { w with
        dialog := { w.dialog with server := server }
        connection := { w.connection with
          inStreambuf := []
          removed := w.connection.removed ++ [generateRequest request]
          lastResponseString := generateResponse response
          sending := [(generateResponse response).length]
          sends := w.connection.sends ++ [generateResponse response] }
        downlink := w.downlink ++ generateResponse response } := by
    rw [WireDialog.serve, headerRead_generateRequest hrequest hbuffer hidle hlast hresult]
    simp [h.reading]
  have hstep : (dialogSystem env requester originalUrl).step (w.whole [request] [])
      (.serve draws) = some { w.whole [request] [] with
        requests := []
        server := server
        responses := [response] } := by
    change some ((w.whole [request] []).serve env draws requester request []) = _
    have hsame : (w.whole [request] []).server.handleIncomingRequest env draws request requester =
        (server, .ok response) := hresult
    rw [Dialog.serve, hsame]
    rfl
  refine ⟨response, ?_⟩
  rw [hserve]
  refine ⟨⟨le_rfl, List.forall_mem_nil _, List.forall_mem_singleton.mpr hreadable, ?_, ?_⟩,
    h.reachable.step (e := .serve draws) trivial hstep, h.unthrown, h.generated, h.reading,
    Or.inr rfl, h.identifier⟩
  · exact huplink
  · have hdown := h.inFlight.downlink
    change w.dialog.client.inStreambuf ++ (w.downlink ++ generateResponse response) = _
    rw [← List.append_assoc, hdown, List.flatMap_nil, List.nil_append, List.flatMap_singleton]

/-! ### The client reads -/

end WireDialog

section Forget

variable (c : RtspClient) (socketOpens : Bool) (response : Response)

lemma setupHandler_forget : c.forget.setupHandler socketOpens response =
    ((c.setupHandler socketOpens response).1.forget,
      (c.setupHandler socketOpens response).2) := by
  unfold RtspClient.setupHandler
  dsimp only
  by_cases hstatus : response.statusCode < 200 ∨ 300 ≤ response.statusCode
  · rw [if_pos hstatus, if_pos hstatus]
  rw [if_neg hstatus, if_neg hstatus]
  cases (normalizeHeaders response.headers).lookup (str "session") with
  | none => rfl
  | some identifier =>
    cases (normalizeHeaders response.headers).lookup (str "transport") with
    | none => rfl
    | some transport =>
      dsimp only
      cases processServerTransportHeader transport with
      | error fault => rfl
      | ok parameters => cases socketOpens <;> rfl

/-- A response handler does not look at what is buffered. -/
lemma handleResponse_forget (handler : ResponseHandler) :
    c.forget.handleResponse socketOpens response handler =
      ((c.handleResponse socketOpens response handler).1.forget,
        (c.handleResponse socketOpens response handler).2) := by
  cases handler with
  | setup => exact setupHandler_forget c socketOpens response
  | play => rfl
  | pause => rfl
  | teardown => rfl
  | option => rfl
  | describe => rfl

lemma processResponse_forget : c.forget.processResponse socketOpens response =
    ((c.processResponse socketOpens response).1.forget,
      (c.processResponse socketOpens response).2) := by
  unfold RtspClient.processResponse
  cases cseqHeader response with
  | none => rfl
  | some value =>
    dsimp only
    split_ifs with hfinal
    · rfl
    rw [show c.forget.outstandingRequests = c.outstandingRequests from rfl]
    cases c.outstandingRequests.lookup (readCseq value) with
    | none => rfl
    | some handler =>
      dsimp only
      rw [handleResponse_forget]
      rcases c.handleResponse socketOpens response handler with ⟨c', fault | returned⟩
      · cases fault <;> rfl
      · rfl

/-- A response handler keeps the buffer, and it keeps the identifier or takes it from the
response. -/
lemma handleResponse_identifier (handler : ResponseHandler) :
    (c.handleResponse socketOpens response handler).1.inStreambuf = c.inStreambuf ∧
      ((c.handleResponse socketOpens response handler).1.session.identifier =
          c.session.identifier ∨
        (normalizeHeaders response.headers).lookup (str "session") =
          some (c.handleResponse socketOpens response handler).1.session.identifier) := by
  cases handler with
  | setup =>
    simp only [RtspClient.handleResponse, RtspClient.setupHandler]
    split
    · exact ⟨rfl, Or.inl rfl⟩
    split
    · next hsession _ =>
        split
        · exact ⟨rfl, Or.inr hsession⟩
        · split <;> exact ⟨rfl, Or.inr hsession⟩
    · exact ⟨rfl, Or.inl rfl⟩
  | play => exact ⟨rfl, Or.inl rfl⟩
  | pause => exact ⟨rfl, Or.inl rfl⟩
  | teardown => exact ⟨rfl, Or.inl rfl⟩
  | option => exact ⟨rfl, Or.inl rfl⟩
  | describe => exact ⟨rfl, Or.inl rfl⟩

lemma processResponse_identifier :
    (c.processResponse socketOpens response).1.inStreambuf = c.inStreambuf ∧
      ((c.processResponse socketOpens response).1.session.identifier = c.session.identifier ∨
        (normalizeHeaders response.headers).lookup (str "session") =
          some (c.processResponse socketOpens response).1.session.identifier) := by
  unfold RtspClient.processResponse
  cases cseqHeader response with
  | none => exact ⟨rfl, Or.inl rfl⟩
  | some value =>
    dsimp only
    split_ifs with hfinal
    · exact ⟨rfl, Or.inl rfl⟩
    cases c.outstandingRequests.lookup (readCseq value) with
    | none => exact ⟨rfl, Or.inl rfl⟩
    | some handler =>
      have hhandled := handleResponse_identifier c socketOpens response handler
      dsimp only
      rcases hresult : c.handleResponse socketOpens response handler with ⟨c', fault | returned⟩
        <;> rw [hresult] at hhandled
      · cases fault <;> exact hhandled
      · exact hhandled

end Forget

namespace WireDialog

variable {env : Environment} {requester : Address} {originalUrl : Text} {w : WireDialog}
  {requests : List Request} {responses : List Response}

/-- The client reads the response on the way, and nothing is. -/
lemma Wired.headerRead (h : w.Wired env requester originalUrl requests responses)
    {bytesTransferred : ℕ} (hread : w.Transferred bytesTransferred) {socketOpens : Bool}
    (hthrown : (w.headerRead socketOpens bytesTransferred).dialog.thrown = false) :
    (w.headerRead socketOpens bytesTransferred).Wired env requester originalUrl [] [] := by
  obtain ⟨response, rfl, rfl, hreadable, hbuffer, hlength, hdownlink⟩ := h.inFlight.response hread
  set c : RtspClient := w.dialog.client.copyBlock bytesTransferred with hc
  have hempty : c.inStreambuf = [] := by
    rw [hc, ← hlength]
    exact List.drop_length
  have hnext : w.dialog.client.nextResponse bytesTransferred = response := by
    have hmatches := hreadable.matches
    rw [← hbuffer] at hmatches
    have hblock : (w.dialog.client.copyBlock bytesTransferred).parserBuffer =
        w.dialog.client.inStreambuf := by
      rw [← hlength]
      exact List.take_length
    rw [RtspClient.nextResponse, hblock]
    exact hmatches.run_ok.2.2
  have hresult : w.dialog.client.headerRead socketOpens bytesTransferred =
      c.processResponse socketOpens response := by
    rw [RtspClient.headerRead, hnext]
  obtain ⟨hkept, hidentifier⟩ := processResponse_identifier c socketOpens response
  have hstep : (dialogSystem env requester originalUrl).step (w.whole [] [response])
      (.deliver socketOpens) =
      some ((w.headerRead socketOpens bytesTransferred).whole [] []) := by
    have hdeliver : (w.whole [] [response]).deliver socketOpens response [] =
        (w.headerRead socketOpens bytesTransferred).whole [] [] := by
      have hforget : { (w.whole [] [response]).client with reading := false } = c.forget := rfl
      rw [Dialog.deliver, hforget, processResponse_forget, WireDialog.headerRead, hresult]
      rfl
    rw [← hdeliver]
    exact if_pos hread.1
  refine ⟨⟨Nat.zero_le _, List.forall_mem_nil _, List.forall_mem_nil _, ?_, ?_⟩,
    h.reachable.step (e := .deliver socketOpens) trivial hstep, hthrown, h.generated, h.reading,
    h.settled, ?_⟩
  · exact h.inFlight.uplink
  · change (w.dialog.client.headerRead socketOpens bytesTransferred).1.inStreambuf ++
      w.downlink = _
    rw [hresult, hkept, hempty, hdownlink]
    rfl
  · change (w.dialog.client.headerRead socketOpens bytesTransferred).1.session.identifier = [] ∨
      IsFieldValue (w.dialog.client.headerRead socketOpens bytesTransferred).1.session.identifier
    rw [hresult]
    rcases hidentifier with hsame | htaken
    · rw [hsame]
      exact h.identifier
    · exact Or.inr (normalizeHeaders_isFieldValue
        (fun header hmem => (hreadable.headers header hmem).value) htaken)

/-! ### Runs -/

lemma thrown_of_step {w' : WireDialog} {event : WireEvent}
    (hstep : w.step env requester originalUrl event = some w')
    (hthrown : w'.dialog.thrown = false) :
    w.dialog.thrown = false := by
  cases event with
  | call method choices =>
    cases hstep
    rw [← hthrown]
    exact call_frame.1.symm
  | resolved callback =>
    simp only [step] at hstep
    split_ifs at hstep
    cases hstep
    simp only [Dialog.resolved] at hthrown
    split_ifs at hthrown
    exact hthrown
  | connected choices =>
    obtain ⟨callback, -, rfl⟩ := Option.map_eq_some_iff.mp hstep
    exact hthrown
  | receiveRequest n =>
    cases hstep
    exact hthrown
  | serve draws =>
    simp only [step] at hstep
    split_ifs at hstep
    cases hstep
    exact (Bool.or_eq_false_iff.mp hthrown).1
  | responseSent =>
    cases hsending : w.connection.sending with
    | nil => simp [step, hsending] at hstep
    | cons n sending =>
      simp only [step, hsending, Option.some.injEq] at hstep
      subst hstep
      exact (Bool.or_eq_false_iff.mp hthrown).1
  | receiveResponse n =>
    cases hstep
    exact hthrown
  | headerRead socketOpens bytesTransferred =>
    simp only [step] at hstep
    split_ifs at hstep
    cases hstep
    exact (Bool.or_eq_false_iff.mp hthrown).1
  | sender identifier event =>
    obtain ⟨server, -, rfl⟩ := Option.map_eq_some_iff.mp hstep
    exact hthrown

/-- An orderly step is one of the dialog of whole messages, or none. -/
lemma Wired.step (h : w.Wired env requester originalUrl requests responses)
    (hurl : IsUri originalUrl) {event : WireEvent} (horderly : w.Orderly event) {w' : WireDialog}
    (hstep : w.step env requester originalUrl event = some w')
    (hthrown : w'.dialog.thrown = false) :
    ∃ requests' responses', w'.Wired env requester originalUrl requests' responses' := by
  cases event with
  | call method choices =>
    cases hstep
    exact ⟨_, _, h.call hurl horderly⟩
  | resolved callback =>
    simp only [WireDialog.step] at hstep
    split_ifs at hstep with hmem
    cases hstep
    exact ⟨_, _, h.resolved hmem hthrown⟩
  | connected choices =>
    obtain ⟨callback, hcallback, rfl⟩ := Option.map_eq_some_iff.mp hstep
    exact ⟨_, _, h.connected hurl hcallback horderly⟩
  | receiveRequest n =>
    cases hstep
    exact ⟨_, _, h.receiveRequest n⟩
  | serve draws =>
    simp only [WireDialog.step] at hstep
    split_ifs at hstep with hread
    cases hstep
    obtain ⟨response, hserve⟩ := h.serve hread horderly hthrown
    exact ⟨_, _, hserve⟩
  | responseSent =>
    cases hsending : w.connection.sending with
    | nil => simp [WireDialog.step, hsending] at hstep
    | cons n sending =>
      simp only [WireDialog.step, hsending, Option.some.injEq] at hstep
      exact ⟨_, _, hstep ▸ h.responseSent hsending⟩
  | receiveResponse n =>
    cases hstep
    exact ⟨_, _, h.receiveResponse n⟩
  | headerRead socketOpens bytesTransferred =>
    simp only [WireDialog.step] at hstep
    split_ifs at hstep with hread
    cases hstep
    exact ⟨_, _, h.headerRead hread hthrown⟩
  | sender identifier event =>
    obtain ⟨server, hserver, rfl⟩ := Option.map_eq_some_iff.mp hstep
    exact ⟨_, _, h.sender hserver⟩

lemma wired_init (hw : (wireSystem env requester originalUrl).init w) :
    w.Wired env requester originalUrl [] [] := by
  obtain ⟨hserver, hnone, hinit⟩ := hw
  rw [hinit]
  have hdialog : (dialogSystem env requester originalUrl).Reachable Dialog.InTurn
      { server := w.dialog.server } := .init ⟨hserver, hnone, rfl⟩
  exact ⟨⟨Nat.zero_le _, List.forall_mem_nil _, List.forall_mem_nil _, rfl, rfl⟩, hdialog, rfl, rfl,
    rfl, Or.inl ⟨rfl, rfl⟩, Or.inl rfl⟩

end WireDialog

open WireDialog

/-- In every orderly run in which no handler has thrown, what client and server have exchanged in
pieces of any size is a dialog of whole messages, and whenever no request is outstanding, nothing
is on the way and they agree on the session. -/
theorem wire_dialog_refines {env : Environment} {requester : Address} {originalUrl : Text}
    (hurl : IsUri originalUrl) {w : WireDialog}
    (hw : (wireSystem env requester originalUrl).Reachable WireDialog.Orderly w)
    (hthrown : w.dialog.thrown = false) :
    (∃ requests responses, w.InFlight requests responses ∧
      (dialogSystem env requester originalUrl).Reachable Dialog.InTurn
        (w.whole requests responses)) ∧
      (w.dialog.Quiet → w.InFlight [] [] ∧ w.dialog.Agrees) := by
  have hwired : w.dialog.thrown = false →
      ∃ requests responses, w.Wired env requester originalUrl requests responses := by
    apply hw.invariant
    · exact fun w hinit _ => ⟨_, _, wired_init hinit⟩
    · intro w event w' h horderly hstep hthrown
      obtain ⟨requests, responses, hwired⟩ := h (thrown_of_step hstep hthrown)
      exact hwired.step hurl horderly hstep hthrown
  obtain ⟨requests, responses, h⟩ := hwired hthrown
  refine ⟨⟨requests, responses, h.inFlight, h.reachable⟩, fun hquiet => ?_⟩
  obtain ⟨rfl, rfl⟩ := h.idle hquiet
  exact ⟨h.inFlight, (h.concordant.tracked hthrown).agrees hquiet⟩

/-- A session is set up, with both messages in two pieces. -/
def wireSetupEvents : List WireEvent :=
  [.call .setup {}, .resolved .setup, .connected {}, .receiveRequest 20, .receiveRequest 200,
    .serve { identifier := str "a", ssrc := 0x12345678 }, .receiveResponse 30, .responseSent,
    .receiveResponse 200, .headerRead true 122]

theorem wire_dialog_refines_setup :
    ∃ w ∈ (wireSystem emptyRoot default (str "rtsp://localhost/movie")).run {} wireSetupEvents,
      w.dialog.client.session = ⟨str "a", .ready⟩ ∧ w.InFlight [] [] ∧ w.dialog.Agrees := by
  obtain ⟨w, hrun, hsession, hquiet, hthrown⟩ :
      ∃ w ∈ (wireSystem emptyRoot default (str "rtsp://localhost/movie")).run {} wireSetupEvents,
        w.dialog.client.session = ⟨str "a", .ready⟩ ∧ w.dialog.Quiet ∧
          w.dialog.thrown = false := by
    decide +kernel
  have hmeets : (wireSystem emptyRoot default (str "rtsp://localhost/movie")).Meets
      WireDialog.Orderly {} wireSetupEvents := by
    decide +kernel
  have hurl : IsUri (str "rtsp://localhost/movie") := by decide
  have hinit : (wireSystem emptyRoot default (str "rtsp://localhost/movie")).Reachable
      WireDialog.Orderly {} := .init ⟨.init rfl, rfl, rfl⟩
  exact ⟨w, hrun, hsession,
    (wire_dialog_refines hurl (hinit.run hmeets hrun) hthrown).2 hquiet⟩

end Rtsp
