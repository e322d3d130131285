import StreamingLib.Rtsp.Client.Dialog
import StreamingLib.Rtsp.Client.Listening
import StreamingLib.Rtsp.Server.Answers

/-!
# Client and server agree on the session

The response handlers of PLAY, PAUSE and TEARDOWN set the state of the client whatever the status
of the response, and SETUP replaces the identifier that later requests carry only when it is
answered. Here the requests on the way are followed together with what they will do to the session
of the client.
-/

namespace Rtsp

open Peg Transition

/-! ### CSeq numbers -/

/-- A CSeq is read back if it has 32 bits, and taken for zero if not. -/
lemma readCseq_numeral (n : ℕ) :
    readCseq (numeral digitChar 10 n) = if n < 2 ^ 32 then .ofNat n else 0 := by
  rw [← List.append_nil (numeral digitChar 10 n)]
  split_ifs with hn
  · have hread : cseqParser.Matches (numeral digitChar 10 n ++ []) 0 [] n := by
      apply uint_numeral (by norm_num) digitValue_digitChar (Nat.le_pred_of_lt hn)
      · exact List.length_pos_iff.mpr (numeral_ne_nil digitChar 10 n)
      · exact fun _ h => by cases h
      · rfl
    rw [readCseq, hread.run_ok.2.2]
  · have hfails : cseqParser.Fails (numeral digitChar 10 n ++ []) 0 0 := by
      apply uint_numeral_overflow (by norm_num) digitValue_digitChar
      exact Nat.lt_of_lt_of_le (by norm_num) (not_lt.mp hn)
    rw [readCseq, hfails.2]
    rfl

/-! ### Requests on the way -/

/-- A request that the client has sent, with the identifier that it held. -/
structure Sent where
  cseq : UInt64
  method : ClientMethod
  identifier : Text

namespace Sent

/-- The key of its handler. -/
def key (q : Sent) : UInt32 := q.cseq.toUInt32

/-- Its CSeq header. -/
def number (q : Sent) : Text := numeral digitChar 10 q.cseq.toNat

/-- The key under which the handler of its response is looked for. -/
def answerKey (q : Sent) : UInt32 := readCseq q.number

lemma answerKey_eq (q : Sent) : q.answerKey = q.key ∨ q.answerKey = 0 := by
  rw [answerKey, number, readCseq_numeral]
  split_ifs with hsmall
  · refine Or.inl ?_
    rw [key, ← UInt32.toNat_inj, UInt64.toNat_toUInt32, UInt32.toNat_ofNat']
  · exact Or.inr rfl

/-- The request as the server sees it. -/
structure IsRequest (q : Sent) (request : Request) : Prop where
  name : request.methodOrExtension = q.method.name
  cseq : (normalizeHeaders request.headers).lookup (str "cseq") = some q.number
  session : (normalizeHeaders request.headers).lookup (str "session") =
    if q.method = .setup then none else some q.identifier

end Sent

lemma SetupChoices.headers_other (choices : SetupChoices) :
    ∀ header ∈ choices.headers, toLowerCopy header.1 ≠ str "cseq" ∧
      toLowerCopy header.1 ≠ str "session" := by
  have htransport : toLowerCopy (str "Transport") ≠ str "cseq" ∧
      toLowerCopy (str "Transport") ≠ str "session" := by decide
  have hrequire : toLowerCopy (str "Require") ≠ str "cseq" ∧
      toLowerCopy (str "Require") ≠ str "session" := by decide
  have hoption : toLowerCopy mknOptionHeader ≠ str "cseq" ∧
      toLowerCopy mknOptionHeader ≠ str "session" := by decide
  unfold SetupChoices.headers
  cases choices.mknOption with
  | none => simp [htransport]
  | some mknOption => simp [htransport, hrequire, hoption]

/-- The request that `send` puts on the way. -/
def Dialog.sent (d : Dialog) (method : ClientMethod) : Sent :=
  ⟨d.nextCseq, method, d.client.session.identifier⟩

lemma send_outstandingRequests (d : Dialog) (originalUrl : Text) (choices : SetupChoices)
    (method : ClientMethod) :
    (d.send originalUrl choices method).client.outstandingRequests =
      d.client.outstandingRequests.insert (d.sent method).key (d.sent method).method.handler := rfl

/-- What `send` adds to the requests. -/
lemma send_isRequest (d : Dialog) (originalUrl : Text) (choices : SetupChoices)
    (method : ClientMethod) :
    ∃ request, (d.send originalUrl choices method).requests = d.requests ++ [request] ∧
      (d.sent method).IsRequest request := by
  have hcseq : toLowerCopy (str "CSeq") = str "cseq" := by decide
  have hother : toLowerCopy (str "CSeq") ≠ str "session" := by decide
  have hsession : toLowerCopy (str "session") = str "session" := by decide
  have hsession' : toLowerCopy (str "session") ≠ str "cseq" := by decide
  refine ⟨_, rfl, rfl, ?_, ?_⟩
  · rw [lookup_normalizeHeaders, valuesOf_cons_of_eq hcseq, valuesOf_eq_nil]
    · rfl
    · cases method with
      | setup => exact fun header hmem => (choices.headers_other header hmem).1
      | play => simp [ClientMethod.headers, hsession']
      | pause => simp [ClientMethod.headers, hsession']
      | teardown => simp [ClientMethod.headers, hsession']
  · rw [lookup_normalizeHeaders, valuesOf_cons_of_ne hother]
    cases method with
    | setup =>
      rw [ClientMethod.headers, valuesOf_eq_nil fun header hmem =>
        (choices.headers_other header hmem).2]
      rfl
    | play => simp [Dialog.sent, ClientMethod.headers, valuesOf, hsession, joinValues]
    | pause => simp [Dialog.sent, ClientMethod.headers, valuesOf, hsession, joinValues]
    | teardown => simp [Dialog.sent, ClientMethod.headers, valuesOf, hsession, joinValues]

/-! ### What the responses do -/

/-- The session of the client after the handler of a response has returned. -/
def settle (session : ClientSession) (a : Sent × Response) : ClientSession :=
  match a.1.method with
  | .setup =>
    { identifier :=
        ((normalizeHeaders a.2.headers).lookup (str "session")).getD session.identifier
      sessionState := .ready }
  | .play => { session with sessionState := .playing }
  | .pause => { session with sessionState := .ready }
  | .teardown => { session with sessionState := .init }

/-- A handler that accepts its response settles it. -/
lemma handleResponse_session {c : RtspClient} {socketOpens : Bool} {a : Sent × Response}
    (h : a.1.method.handler.Accepts socketOpens a.2) :
    (c.handleResponse socketOpens a.2 a.1.method.handler).1.session = settle c.session a := by
  unfold settle
  cases hmethod : a.1.method with
  | setup =>
    rw [hmethod] at h
    obtain ⟨⟨hle, hlt⟩, hsession, ⟨transport, htransport, husable⟩, hopens⟩ := h
    obtain ⟨identifier, hidentifier⟩ := Option.ne_none_iff_exists'.mp hsession
    obtain ⟨parameters, hparameters⟩ : ∃ parameters,
        processServerTransportHeader transport = .ok parameters := by
      have hok := (processServerTransportHeader_isOk_iff transport).mpr husable
      cases hprocess : processServerTransportHeader transport with
      | error fault =>
        rw [hprocess] at hok
        cases hok
      | ok parameters => exact ⟨parameters, rfl⟩
    have hstatus : ¬(a.2.statusCode < 200 ∨ 300 ≤ a.2.statusCode) :=
      not_or.mpr ⟨not_lt.mpr hle, not_le.mpr hlt⟩
    have htransport : (normalizeHeaders a.2.headers).lookup (str "transport") = some transport :=
      htransport
    simp only [ClientMethod.handler, RtspClient.handleResponse, RtspClient.setupHandler, hstatus,
      if_false, hidentifier, htransport, hparameters, hopens]
    rfl
  | play => rfl
  | pause => rfl
  | teardown => rfl

section Serve

variable {env : Environment} {draws : Draws} {requester : Address} {s : ServerState}
  {session : ClientSession} {q : Sent} {request : Request} {response : Response}

/-- After a SETUP that succeeds the client will hold the identifier of a session that is ready. -/
lemma serve_setup (hid : s.All fun identifier session => session.identifier = identifier)
    (hq : q.IsRequest request) (hmethod : q.method = .setup)
    (h : (s.handleIncomingRequest env draws request requester).2 = .ok response)
    (hsuccess : response.IsSuccess) : AgreesOn (settle session (q, response))
      (s.handleIncomingRequest env draws request requester).1 := by
  have hname : request.methodOrExtension = str "SETUP" := by
    rw [hq.name, hmethod]
    rfl
  have hnone : (normalizeHeaders request.headers).lookup (str "session") = none := by
    rw [hq.session, if_pos hmethod]
  have hcreates : CreatesSession request := by
    refine ⟨?_, hname, hnone⟩
    rw [hq.cseq]
    exact numeral_ne_nil _ _ _
  rw [handleIncomingRequest_of_createsSession env s draws requester hcreates] at h ⊢
  obtain ⟨identifier, created, hsession, hlookup, hstate⟩ :=
    (handleSetup_correlated hid hname hq.cseq h).2 hsuccess
  have hsettle : settle session (q, response) = ⟨identifier, .ready⟩ := by
    simp [settle, hmethod, hsession]
  rw [hsettle, AgreesOn, ServerState.stateOf, hlookup]
  exact hstate.symm

/-- A method on the session that the client holds. -/
lemma serve_method (hsender : s.All fun _ session => session.HasSender) {method : SessionMethod}
    (hq : q.IsRequest request) (hsetup : q.method ≠ .setup) (hname : q.method.name = method.name)
    (hidentifier : q.identifier = session.identifier) :
    (s.handleIncomingRequest env draws request requester).1.stateOf session.identifier =
      Reference.step (s.stateOf session.identifier) (.request method) := by
  have hcseq : (normalizeHeaders request.headers).lookup (str "cseq") ≠ none := by
    rw [hq.cseq]
    exact Option.some_ne_none _
  have hnames : request.Names method session.identifier := by
    refine ⟨?_, hq.name.trans hname, ?_⟩
    · rw [hq.cseq]
      exact numeral_ne_nil _ _ _
    · rw [hq.session, if_neg hsetup, hidentifier]
  obtain ⟨-, hstate, -⟩ := handleMethod_spec hsender method session.identifier _
    (request, normalizeHeaders request.headers) requester hnames.2.1 hcseq
  rw [handleIncomingRequest_of_names env s draws requester hnames, hstate, Function.update_self]

/-- The client settles a response as the reference machine handles the request. -/
lemma serve_settles (method : SessionMethod)
    (hsender : s.All fun _ session => session.HasSender) (hq : q.IsRequest request)
    (hsetup : q.method ≠ .setup) (hname : q.method.name = method.name)
    (hidentifier : q.identifier = session.identifier)
    (hsame : (settle session (q, response)).identifier = session.identifier)
    (hsettle : (settle session (q, response)).sessionState =
      (Reference.step (s.stateOf session.identifier) (.request method)).getD .init) :
    AgreesOn (settle session (q, response))
      (s.handleIncomingRequest env draws request requester).1 := by
  rw [AgreesOn, hsame, hsettle, serve_method hsender hq hsetup hname hidentifier]

/-- The server handles a request that the session of the client is ready for. -/
lemma serve_agrees (hid : s.All fun identifier session => session.identifier = identifier)
    (hsender : s.All fun _ session => session.HasSender) (hq : q.IsRequest request)
    (hidentifier : q.method ≠ .setup → q.identifier = session.identifier)
    (hsteady : q.method = .play ∨ q.method = .pause →
      session.sessionState = .ready ∨ session.sessionState = .playing)
    (hagrees : AgreesOn session s)
    (h : (s.handleIncomingRequest env draws request requester).2 = .ok response) :
    (q.method = .setup ∧ ¬response.IsSuccess) ∨
      AgreesOn (settle session (q, response))
        (s.handleIncomingRequest env draws request requester).1 := by
  have hlive : q.method = .play ∨ q.method = .pause →
      s.stateOf session.identifier = some .ready ∨
        s.stateOf session.identifier = some .playing := by
    intro hmethod
    have hstate := hsteady hmethod
    rw [hagrees] at hstate
    cases hlookup : s.stateOf session.identifier with
    | none => simp [hlookup] at hstate
    | some state => simpa [hlookup] using hstate
  cases hmethod : q.method with
  | setup =>
    by_cases hsuccess : response.IsSuccess
    · exact Or.inr (serve_setup hid hq hmethod h hsuccess)
    · exact Or.inl ⟨rfl, hsuccess⟩
  | play =>
    have hsetup : q.method ≠ .setup := by simp [hmethod]
    refine Or.inr (serve_settles .play hsender hq hsetup (by rw [hmethod]; rfl)
      (hidentifier hsetup) (by rw [settle, hmethod]) ?_)
    rw [settle, hmethod]
    rcases hlive (Or.inl hmethod) with hstate | hstate <;> rw [hstate] <;> rfl
  | pause =>
    have hsetup : q.method ≠ .setup := by simp [hmethod]
    refine Or.inr (serve_settles .pause hsender hq hsetup (by rw [hmethod]; rfl)
      (hidentifier hsetup) (by rw [settle, hmethod]) ?_)
    rw [settle, hmethod]
    -- the server refuses PAUSE in state ready, and the client takes it for done
    rcases hlive (Or.inr hmethod) with hstate | hstate <;> rw [hstate] <;> rfl
  | teardown =>
    have hsetup : q.method ≠ .setup := by simp [hmethod]
    refine Or.inr (serve_settles .teardown hsender hq hsetup (by rw [hmethod]; rfl)
      (hidentifier hsetup) (by rw [settle, hmethod]) ?_)
    rw [settle, hmethod]
    rfl

end Serve

/-! ### The invariant -/

/-- The requests on the way: first those that are answered, then those that are not. -/
def sentOf (answered : List (Sent × Response)) (asked : List (Sent × Request)) : List Sent :=
  answered.map (·.1) ++ asked.map (·.1)

/-- The two queues of a dialog, with the requests that were sent. -/
structure OnTheWay (d : Dialog) (answered : List (Sent × Response))
    (asked : List (Sent × Request)) : Prop where
  requests : d.requests = asked.map (·.2)
  responses : d.responses = answered.map (·.2)
  isRequest : ∀ a ∈ asked, a.1.IsRequest a.2
  answers : ∀ a ∈ answered, a.2.Answers a.1.number

/-- The handlers of the requests are outstanding, each under a key of its own. -/
structure Awaited (outstanding : Finmap fun _ : UInt32 => ResponseHandler) (sent : List Sent) :
    Prop where
  distinct : sent.Pairwise fun p q => p.key ≠ q.key
  handler : ∀ q ∈ sent, outstanding.lookup q.key = some q.method.handler

/-- A handler is outstanding that no response will find. -/
def Stranded (outstanding : Finmap fun _ : UInt32 => ResponseHandler) (sent : List Sent) : Prop :=
  ∃ key ∈ outstanding, key ≠ 0 ∧ ∀ q ∈ sent, q.answerKey ≠ key

/-- A SETUP was refused, so that the handler of its response will throw. -/
def Refused (answered : List (Sent × Response)) : Prop :=
  ∃ a ∈ answered, a.1.method = .setup ∧ ¬a.2.IsSuccess

/-- The requests follow each other as they may, and were made for the session. -/
structure InSequence (session : ClientSession) (sent : List Sent) : Prop where
  follows : sent.Pairwise fun p q => q.method.MayFollow p.method.handler
  identifier : ∀ q ∈ sent, q.method ≠ .setup → q.identifier = session.identifier
  steady : ∀ q ∈ sent, q.method = .play ∨ q.method = .pause →
    session.sessionState = .ready ∨ session.sessionState = .playing

/-- When the responses on the way are read, client and server will agree, unless something goes
wrong before. -/
def WillAgree (d : Dialog) (answered : List (Sent × Response)) (asked : List (Sent × Request)) :
    Prop :=
  Stranded d.client.outstandingRequests (sentOf answered asked) ∨
    Awaited d.client.outstandingRequests (sentOf answered asked) ∧
      (Refused answered ∨ InSequence d.client.session (sentOf answered asked) ∧
        AgreesOn (answered.foldl settle d.client.session) d.server)

/-- A dialog in which every step was in turn. -/
def Tracked (d : Dialog) : Prop :=
  ∃ answered asked, OnTheWay d answered asked ∧ WillAgree d answered asked

/-- What is tracked is the queues, the handlers, the session and the states on the server. -/
lemma Tracked.frame {d d' : Dialog} (h : Tracked d) (hrequests : d'.requests = d.requests)
    (hresponses : d'.responses = d.responses)
    (houtstanding : d'.client.outstandingRequests = d.client.outstandingRequests)
    (hsession : d'.client.session = d.client.session)
    (hstate : d'.server.stateOf = d.server.stateOf) : Tracked d' := by
  obtain ⟨answered, asked, hway, hwill⟩ := h
  refine ⟨answered, asked, ⟨?_, ?_, hway.isRequest, hway.answers⟩, ?_⟩
  · rw [hrequests, hway.requests]
  · rw [hresponses, hway.responses]
  · rw [WillAgree, houtstanding, hsession, AgreesOn, hstate]
    exact hwill

/-! ### The first request that is left -/

lemma mayFollow_ne_setup {method first : ClientMethod} (h : method.MayFollow first.handler)
    (hmethod : method ≠ .setup) : first ≠ .setup := by
  rintro rfl
  cases method with
  | setup => exact hmethod rfl
  | play => exact h.1 rfl
  | pause => exact h.1 rfl
  | teardown => exact h rfl

lemma mayFollow_steady {method first : ClientMethod} (h : method.MayFollow first.handler)
    (hmethod : method = .play ∨ method = .pause) : first = .play ∨ first = .pause := by
  have hnot : first.handler ≠ .setup ∧ first.handler ≠ .teardown := by
    rcases hmethod with rfl | rfl
    · exact h
    · exact h
  cases first with
  | setup => exact absurd rfl hnot.1
  | play => exact Or.inl rfl
  | pause => exact Or.inr rfl
  | teardown => exact absurd rfl hnot.2

section Cons

variable {session : ClientSession} {a : Sent × Response} {sent : List Sent}

lemma settle_identifier (h : a.1.method ≠ .setup) :
    (settle session a).identifier = session.identifier := by
  unfold settle
  cases hmethod : a.1.method with
  | setup => exact absurd hmethod h
  | play => rfl
  | pause => rfl
  | teardown => rfl

lemma settle_sessionState (h : a.1.method = .play ∨ a.1.method = .pause) :
    (settle session a).sessionState = .ready ∨ (settle session a).sessionState = .playing := by
  unfold settle
  rcases h with h | h
  · rw [h]
    exact Or.inr rfl
  · rw [h]
    exact Or.inl rfl

/-- Nothing but SETUP follows SETUP, and neither PLAY nor PAUSE follows TEARDOWN, so the requests
that are left are for the session as it then is. -/
lemma InSequence.settle (h : InSequence session (a.1 :: sent)) :
    InSequence (settle session a) sent := by
  obtain ⟨hfirst, hrest⟩ := List.pairwise_cons.mp h.follows
  refine ⟨hrest, ?_, ?_⟩
  · intro q hmem hq
    rw [settle_identifier (mayFollow_ne_setup (hfirst q hmem) hq)]
    exact h.identifier q (List.mem_cons_of_mem _ hmem) hq
  · intro q hmem hq
    exact settle_sessionState (mayFollow_steady (hfirst q hmem) hq)

end Cons

/-- The requests that are not answered yet, for the session after the responses. -/
lemma InSequence.foldl {session : ClientSession} {answered : List (Sent × Response)}
    {sent : List Sent} (h : InSequence session (answered.map (·.1) ++ sent)) :
    InSequence (answered.foldl Rtsp.settle session) sent := by
  induction answered generalizing session with
  | nil => exact h
  | cons a answered ih => exact ih h.settle

lemma Awaited.tail {outstanding : Finmap fun _ : UInt32 => ResponseHandler} {q : Sent}
    {sent : List Sent} (h : Awaited outstanding (q :: sent)) :
    Awaited (outstanding.erase q.key) sent := by
  obtain ⟨hfirst, hrest⟩ := List.pairwise_cons.mp h.distinct
  refine ⟨hrest, fun q' hmem => ?_⟩
  rw [Finmap.lookup_erase_ne (hfirst q' hmem).symm]
  exact h.handler q' (List.mem_cons_of_mem _ hmem)

/-- With nothing outstanding, nothing is on the way. -/
lemma nothing_awaited {outstanding : Finmap fun _ : UInt32 => ResponseHandler}
    (hquiet : outstanding = ∅) {answered : List (Sent × Response)} {asked : List (Sent × Request)}
    {P : Prop} (h : Stranded outstanding (sentOf answered asked) ∨
      Awaited outstanding (sentOf answered asked) ∧ P) : answered = [] ∧ asked = [] ∧ P := by
  rcases h with ⟨key, hkey, -⟩ | ⟨hawaited, hP⟩
  · rw [hquiet] at hkey
    exact absurd hkey Finmap.notMem_empty
  · have hnone : sentOf answered asked = [] := by
      apply List.eq_nil_iff_forall_not_mem.mpr
      intro q hmem
      have hhandler := hawaited.handler q hmem
      rw [hquiet, Finmap.lookup_empty] at hhandler
      cases hhandler
    obtain ⟨hanswered, hasked⟩ := List.append_eq_nil_iff.mp hnone
    exact ⟨List.map_eq_nil_iff.mp hanswered, List.map_eq_nil_iff.mp hasked, hP⟩

/-! ### Sending -/

section Send

variable {d : Dialog} {answered : List (Sent × Response)} {asked : List (Sent × Request)}

lemma Awaited.insert {outstanding : Finmap fun _ : UInt32 => ResponseHandler} {q : Sent}
    {sent : List Sent} (h : Awaited outstanding sent) (hfree : q.key ∉ outstanding) :
    Awaited (outstanding.insert q.key q.method.handler) (sent ++ [q]) := by
  have hother : ∀ p ∈ sent, p.key ≠ q.key := by
    intro p hmem heq
    apply hfree
    rw [← heq, ← Finmap.lookup_isSome, h.handler p hmem]
    rfl
  refine ⟨?_, ?_⟩
  · rw [List.pairwise_append]
    refine ⟨h.distinct, List.pairwise_singleton _ _, fun p hmem q' hq => ?_⟩
    rw [List.mem_singleton.mp hq]
    exact hother p hmem
  · intro p hmem
    rcases List.mem_append.mp hmem with hmem | hmem
    · rw [Finmap.lookup_insert_of_ne _ (hother p hmem)]
      exact h.handler p hmem
    · rw [List.mem_singleton.mp hmem, Finmap.lookup_insert]

lemma Stranded.insert {outstanding : Finmap fun _ : UInt32 => ResponseHandler} {q : Sent}
    {sent : List Sent} (h : Stranded outstanding sent) (hfree : q.key ∉ outstanding) :
    Stranded (outstanding.insert q.key q.method.handler) (sent ++ [q]) := by
  obtain ⟨key, hkey, hzero, hsent⟩ := h
  refine ⟨key, Finmap.mem_insert.mpr (Or.inr hkey), hzero, ?_⟩
  intro p hmem
  rcases List.mem_append.mp hmem with hmem | hmem
  · exact hsent p hmem
  · rw [List.mem_singleton.mp hmem]
    rcases q.answerKey_eq with heq | heq
    · rw [heq]
      rintro rfl
      exact hfree hkey
    · rw [heq]
      exact hzero.symm

lemma refusal_steady {method : ClientMethod} {state : SessionState}
    (h : method.refusal state = none) (hmethod : method = .play ∨ method = .pause) :
    state = .ready ∨ state = .playing := by
  rcases hmethod with rfl | rfl
  · simp only [ClientMethod.refusal, ite_eq_right_iff, reduceCtorEq, imp_false, not_and_or,
      not_not] at h
    exact h
  · simp only [ClientMethod.refusal, ite_eq_right_iff, reduceCtorEq, imp_false, not_not] at h
    exact Or.inr h

/-- A request that is sent in turn. -/
lemma Tracked.send (h : Tracked d) (originalUrl : Text) (choices : SetupChoices)
    {method : ClientMethod} (hstate : method.refusal d.client.session.sessionState = none)
    (hmay : d.MaySend method) : Tracked (d.send originalUrl choices method) := by
  obtain ⟨answered, asked, hway, hwill⟩ := h
  obtain ⟨hfree, hfollows⟩ := hmay
  obtain ⟨request, hrequests, hrequest⟩ := send_isRequest d originalUrl choices method
  have hsent : sentOf answered (asked ++ [(d.sent method, request)]) =
      sentOf answered asked ++ [d.sent method] := by
    simp [sentOf]
  refine ⟨answered, asked ++ [(d.sent method, request)], ?_, ?_⟩
  · refine ⟨?_, hway.responses, ?_, hway.answers⟩
    · rw [hrequests, hway.requests, List.map_append]
      rfl
    · exact List.forall_mem_append.mpr ⟨hway.isRequest, List.forall_mem_singleton.mpr hrequest⟩
  · rw [WillAgree, hsent, send_outstandingRequests]
    rcases hwill with hstranded | ⟨hawaited, hwill⟩
    · exact Or.inl (hstranded.insert hfree)
    · refine Or.inr ⟨hawaited.insert hfree, ?_⟩
      rcases hwill with hrefused | ⟨hsequence, hagrees⟩
      · exact Or.inl hrefused
      · refine Or.inr ⟨⟨?_, ?_, ?_⟩, hagrees⟩
        · rw [List.pairwise_append]
          refine ⟨hsequence.follows, List.pairwise_singleton _ _, fun p hmem q hq => ?_⟩
          rw [List.mem_singleton.mp hq]
          have hhandler := hawaited.handler p hmem
          refine hfollows p.key ?_ p.method.handler hhandler
          rw [Finmap.mem_keys, ← Finmap.lookup_isSome, hhandler]
          rfl
        · exact List.forall_mem_append.mpr
            ⟨hsequence.identifier, List.forall_mem_singleton.mpr fun _ => rfl⟩
        · exact List.forall_mem_append.mpr
            ⟨hsequence.steady, List.forall_mem_singleton.mpr (refusal_steady hstate)⟩

end Send

/-! ### Serving -/

lemma serve_frame (d : Dialog) (env : Environment) (draws : Draws) (requester : Address)
    (request : Request) (requests : List Request) :
    (d.serve env draws requester request requests).client = d.client ∧
      (d.serve env draws requester request requests).socket = d.socket ∧
      (d.serve env draws requester request requests).resolving = d.resolving ∧
      (d.serve env draws requester request requests).server =
        (d.server.handleIncomingRequest env draws request requester).1 := by
  unfold Dialog.serve
  dsimp only
  cases (d.server.handleIncomingRequest env draws request requester).2 with
  | error fault => exact ⟨rfl, rfl, rfl, rfl⟩
  | ok response => exact ⟨rfl, rfl, rfl, rfl⟩

/-- A request that the server answers. -/
lemma serve_cases {d : Dialog} {env : Environment} {draws : Draws} {requester : Address}
    {request : Request} {requests : List Request}
    (h : (d.serve env draws requester request requests).thrown = false) :
    ∃ response, (d.server.handleIncomingRequest env draws request requester).2 = .ok response ∧
      d.serve env draws requester request requests =
        { d with
          requests := requests
          server := (d.server.handleIncomingRequest env draws request requester).1
          responses := d.responses ++ [response] } := by
  unfold Dialog.serve at h ⊢
  dsimp only at h ⊢
  cases hresult : (d.server.handleIncomingRequest env draws request requester).2 with
  | error fault =>
    rw [hresult] at h
    cases h
  | ok response => exact ⟨response, rfl, rfl⟩

lemma Tracked.serve {d : Dialog} (h : Tracked d) {env : Environment}
    (hserver : (serverSystem env).Reachable Always d.server) (draws : Draws)
    (requester : Address) {request : Request} {requests : List Request}
    (hrequests : d.requests = request :: requests)
    (hthrown : (d.serve env draws requester request requests).thrown = false) :
    Tracked (d.serve env draws requester request requests) := by
  have hid := (identifier_invariant env).reachable hserver
  have hsender := (sender_invariant env).reachable hserver
  obtain ⟨answered, asked, hway, hwill⟩ := h
  have hmap := hway.requests
  rw [hrequests] at hmap
  obtain ⟨⟨q, request'⟩, asked, rfl, heq, rfl⟩ := List.map_eq_cons_iff.mp hmap.symm
  obtain rfl : request' = request := heq
  have hq := hway.isRequest _ List.mem_cons_self
  obtain ⟨response, hresult, hserve⟩ := serve_cases hthrown
  rw [hserve]
  have hanswers := handleIncomingRequest_answers hq.cseq (numeral_ne_nil _ _ _) hresult
  have hsent : sentOf (answered ++ [(q, response)]) asked =
      sentOf answered ((q, request') :: asked) := by
    simp [sentOf]
  refine ⟨answered ++ [(q, response)], asked, ⟨rfl, ?_, ?_, ?_⟩, ?_⟩
  · rw [List.map_append, ← hway.responses]
    rfl
  · exact fun a hmem => hway.isRequest a (List.mem_cons_of_mem _ hmem)
  · exact List.forall_mem_append.mpr ⟨hway.answers, List.forall_mem_singleton.mpr hanswers⟩
  · rw [WillAgree, hsent]
    rcases hwill with hstranded | ⟨hawaited, ⟨a, hmem, hrefused⟩ | ⟨hsequence, hagrees⟩⟩
    · exact Or.inl hstranded
    · exact Or.inr ⟨hawaited, Or.inl ⟨a, List.mem_append_left _ hmem, hrefused⟩⟩
    · refine Or.inr ⟨hawaited, ?_⟩
      -- the session of the client when it comes to this response
      have hsettled := hsequence.foldl
      have hfirst : (q, request') ∈ (q, request') :: asked := List.mem_cons_self
      have hmem : q ∈ ((q, request') :: asked).map (·.1) := List.mem_map_of_mem hfirst
      have hagreed := @serve_agrees env draws requester d.server
        (answered.foldl settle d.client.session) q request' response hid hsender hq
        (hsettled.identifier q hmem) (hsettled.steady q hmem) hagrees hresult
      rcases hagreed with hrefused | hagreed
      · refine Or.inl ⟨(q, response), List.mem_append_right _ ?_, hrefused⟩
        exact List.mem_singleton_self _
      · refine Or.inr ⟨hsequence, ?_⟩
        rw [List.foldl_append]
        exact hagreed

/-! ### Delivering -/

lemma erase_of_lookup_eq_none {outstanding : Finmap fun _ : UInt32 => ResponseHandler}
    {key : UInt32} (h : outstanding.lookup key = none) : outstanding.erase key = outstanding := by
  apply Finmap.ext_lookup
  intro key'
  by_cases heq : key' = key
  · rw [heq, h, Finmap.lookup_erase]
  · rw [Finmap.lookup_erase_ne heq]

/-- What a response does to the client, unless its handler throws. -/
lemma processResponse_cases {c : RtspClient} {socketOpens : Bool} {response : Response}
    {cseq : Text} (h : response.Answers cseq)
    (hthrown : (c.processResponse socketOpens response).2 = none) :
    (c.processResponse socketOpens response).1.outstandingRequests =
        c.outstandingRequests.erase (readCseq cseq) ∧
      ∀ handler ∈ c.outstandingRequests.lookup (readCseq cseq),
        handler.Accepts socketOpens response ∧
        (c.processResponse socketOpens response).1.session =
          (c.handleResponse socketOpens response handler).1.session := by
  have hcseq : cseqHeader response = some cseq := h.cseq
  have hfinal : ¬response.statusCode < 200 := not_lt.mpr h.final
  cases hhandler : c.outstandingRequests.lookup (readCseq cseq) with
  | none =>
    simp only [RtspClient.processResponse, hcseq, hfinal, if_false, hhandler]
    exact ⟨(erase_of_lookup_eq_none hhandler).symm, fun handler hmem => by cases hmem⟩
  | some handler =>
    have htable := (handleResponse_frame c socketOpens response handler).1
    have haccepts := handleResponse_isOk_iff c socketOpens response handler
    have hcaught := handleResponse_ne_outOfRange c socketOpens response handler
    simp only [RtspClient.processResponse, hcseq, hfinal, if_false, hhandler] at hthrown ⊢
    rcases hresult : c.handleResponse socketOpens response handler with ⟨c', fault | returned⟩
      <;> rw [hresult] at htable haccepts hcaught hthrown
    · cases fault with
      | outOfRange => exact absurd rfl hcaught
      | runtimeError what => cases hthrown
      | systemError => cases hthrown
    · refine ⟨congrArg (Finmap.erase (readCseq cseq)) htable, ?_⟩
      rintro _ ⟨rfl⟩
      refine ⟨haccepts.mp rfl, ?_⟩
      rw [hresult]
      rfl

lemma Stranded.tail {outstanding : Finmap fun _ : UInt32 => ResponseHandler} {q : Sent}
    {sent : List Sent} (h : Stranded outstanding (q :: sent)) :
    Stranded (outstanding.erase q.answerKey) sent := by
  obtain ⟨key, hkey, hzero, hsent⟩ := h
  refine ⟨key, ?_, hzero, fun q' hmem => hsent q' (List.mem_cons_of_mem _ hmem)⟩
  rw [Finmap.mem_erase]
  exact ⟨(hsent q List.mem_cons_self).symm, hkey⟩

/-- A CSeq that is not read back leaves its handler behind. -/
lemma Awaited.stranded {outstanding : Finmap fun _ : UInt32 => ResponseHandler} {q : Sent}
    {sent : List Sent} (h : Awaited outstanding (q :: sent)) (hkey : q.answerKey ≠ q.key) :
    Stranded (outstanding.erase q.answerKey) sent := by
  have hzero : q.key ≠ 0 := by
    rw [← q.answerKey_eq.resolve_left hkey]
    exact hkey.symm
  refine ⟨q.key, ?_, hzero, ?_⟩
  · rw [Finmap.mem_erase]
    refine ⟨hkey.symm, ?_⟩
    rw [← Finmap.lookup_isSome, h.handler q List.mem_cons_self]
    rfl
  · intro q' hmem
    rcases q'.answerKey_eq with heq | heq
    · rw [heq]
      exact ((List.pairwise_cons.mp h.distinct).1 q' hmem).symm
    · rw [heq]
      exact hzero.symm

lemma Tracked.deliver {d : Dialog} (h : Tracked d) {socketOpens : Bool} {response : Response}
    {responses : List Response} (hresponses : d.responses = response :: responses)
    (hthrown : (d.deliver socketOpens response responses).thrown = false) :
    Tracked (d.deliver socketOpens response responses) := by
  obtain ⟨answered, asked, hway, hwill⟩ := h
  have hmap := hway.responses
  rw [hresponses] at hmap
  obtain ⟨⟨q, response'⟩, answered, rfl, heq, rfl⟩ := List.map_eq_cons_iff.mp hmap.symm
  obtain rfl : response' = response := heq
  have hanswers := hway.answers _ List.mem_cons_self
  have hreturns : (RtspClient.processResponse { d.client with reading := false } socketOpens
      response').2 = none := by
    have hor := (Bool.or_eq_false_iff.mp hthrown).2
    rwa [Option.isSome_eq_false_iff, Option.isNone_iff_eq_none] at hor
  obtain ⟨houtstanding, hhandler⟩ := processResponse_cases hanswers hreturns
  refine ⟨answered, asked, ⟨hway.requests, rfl, hway.isRequest, fun a hmem =>
    hway.answers a (List.mem_cons_of_mem _ hmem)⟩, ?_⟩
  have hafter : (d.deliver socketOpens response' (answered.map (·.2))).client.outstandingRequests =
      d.client.outstandingRequests.erase q.answerKey := houtstanding
  rw [WillAgree, hafter]
  rcases hwill with hstranded | ⟨hawaited, hwill⟩
  · exact Or.inl hstranded.tail
  by_cases hkey : q.answerKey = q.key
  · obtain ⟨haccepts, hsession⟩ := hhandler q.method.handler (by
      have hfirst := hawaited.handler q List.mem_cons_self
      rw [← hkey] at hfirst
      exact hfirst)
    have hsettled : (d.deliver socketOpens response' (answered.map (·.2))).client.session =
        settle d.client.session (q, response') :=
      hsession.trans (@handleResponse_session _ socketOpens (q, response') haccepts)
    refine Or.inr ⟨hkey ▸ hawaited.tail, ?_⟩
    rw [hsettled]
    rcases hwill with ⟨a, hmem, hsetup, hrefused⟩ | ⟨hsequence, hagrees⟩
    · rcases List.mem_cons.mp hmem with rfl | hmem
      · have hmethod : q.method = .setup := hsetup
        rw [hmethod] at haccepts
        exact absurd haccepts.1 hrefused
      · exact Or.inl ⟨a, hmem, hsetup, hrefused⟩
    · exact Or.inr ⟨hsequence.settle, hagrees⟩
  · exact Or.inl (hawaited.stranded hkey)

/-! ### Runs -/

/-- Nothing is read before the socket is connected, and the callbacks that wait for it are of
methods that may be called in state init. -/
structure Opening (d : Dialog) : Prop where
  unread : d.socket ≠ .connected → d.client.reading = false ∧ d.client.session.sessionState = .init
  resolving : ∀ method ∈ d.resolving, method.refusal .init = none
  callback : ∀ method ∈ d.socket.callback, method.refusal .init = none

/-- The invariant of the runs in which every step is in turn. -/
structure Concordant (env : Environment) (d : Dialog) : Prop where
  server : (serverSystem env).Reachable Always d.server
  opening : Opening d
  tracked : d.thrown = false → Tracked d

section Run

variable {env : Environment} {requester : Address} {originalUrl : Text} {d d' : Dialog}

lemma concordant_init (h : (dialogSystem env requester originalUrl).init d) : Concordant env d := by
  obtain ⟨hserver, hnone, hinit⟩ := h
  refine ⟨hserver, ?_, fun _ => ?_⟩
  · rw [hinit]
    exact ⟨fun _ => ⟨rfl, rfl⟩, List.forall_mem_nil _, fun _ h => by cases h⟩
  · rw [hinit]
    have hway : OnTheWay { server := d.server } [] [] :=
      ⟨rfl, rfl, List.forall_mem_nil _, List.forall_mem_nil _⟩
    refine ⟨[], [], hway, Or.inr ⟨⟨.nil, List.forall_mem_nil _⟩, Or.inr ?_⟩⟩
    refine ⟨⟨.nil, List.forall_mem_nil _, List.forall_mem_nil _⟩, ?_⟩
    change SessionState.init = (d.server.stateOf []).getD .init
    rw [hnone]
    rfl

lemma Concordant.call (h : Concordant env d) {method : ClientMethod} {choices : SetupChoices}
    (hturn : d.InTurn (.call method choices)) :
    Concordant env (d.call originalUrl choices method) := by
  unfold Dialog.call
  cases hrefusal : method.refusal d.client.session.sessionState with
  | some fault => exact h
  | none =>
    dsimp only
    split_ifs with hclosed
    · refine ⟨h.server, ⟨h.opening.unread, ?_, h.opening.callback⟩, fun hthrown =>
        (h.tracked hthrown).frame rfl rfl rfl rfl rfl⟩
      have hinit := (h.opening.unread (by rw [hclosed]; simp)).2
      rw [hinit] at hrefusal
      exact List.forall_mem_append.mpr ⟨h.opening.resolving, List.forall_mem_singleton.mpr hrefusal⟩
    · refine ⟨h.server, ⟨h.opening.unread, h.opening.resolving, h.opening.callback⟩, ?_⟩
      intro hthrown
      exact (h.tracked hthrown).send originalUrl choices hrefusal (hturn hrefusal hclosed)

lemma Concordant.resolved (h : Concordant env d) {callback : ClientMethod}
    (hmem : callback ∈ d.resolving) : Concordant env (d.resolved callback) := by
  have hresolving : ∀ method ∈ d.resolving.erase callback, method.refusal .init = none :=
    fun method hmethod => h.opening.resolving method (List.mem_of_mem_erase hmethod)
  unfold Dialog.resolved
  dsimp only
  split_ifs with hclosed
  · refine ⟨h.server, ⟨fun _ => ?_, hresolving, ?_⟩, fun hthrown =>
      (h.tracked hthrown).frame rfl rfl rfl rfl rfl⟩
    · exact h.opening.unread (by rw [hclosed]; simp)
    · rintro _ ⟨rfl⟩
      exact h.opening.resolving _ hmem
  · exact ⟨h.server, ⟨h.opening.unread, hresolving, h.opening.callback⟩, fun hthrown => by
      cases hthrown⟩

lemma Concordant.connected (h : Concordant env d) {callback : ClientMethod} {choices : SetupChoices}
    (hcallback : d.socket.callback = some callback) (hturn : d.InTurn (.connected choices)) :
    Concordant env (d.connected originalUrl choices callback) := by
  have hinit : d.client.session.sessionState = .init := by
    refine (h.opening.unread fun hconnected => ?_).2
    rw [hconnected] at hcallback
    cases hcallback
  refine ⟨h.server, ⟨fun hconnected => absurd rfl hconnected, h.opening.resolving, ?_⟩, ?_⟩
  · exact fun _ h => by cases h
  · intro hthrown
    have htracked : Tracked { d with socket := .connected, client := d.client.asyncReadUntil } :=
      (h.tracked hthrown).frame rfl rfl rfl rfl rfl
    refine htracked.send originalUrl choices ?_ (hturn callback hcallback)
    change callback.refusal d.client.session.sessionState = none
    rw [hinit]
    exact h.opening.callback callback hcallback

lemma Concordant.serve (h : Concordant env d) (draws : Draws) {request : Request}
    {requests : List Request} (hrequests : d.requests = request :: requests) :
    Concordant env (d.serve env draws requester request requests) := by
  obtain ⟨hclient, hsocket, hresolving, hserver⟩ :=
    serve_frame d env draws requester request requests
  refine ⟨?_, ⟨?_, ?_, ?_⟩, fun hthrown => ?_⟩
  · rw [hserver]
    exact h.server.step (e := .request draws request requester) trivial rfl
  · rw [hsocket, hclient]
    exact h.opening.unread
  · rw [hresolving]
    exact h.opening.resolving
  · rw [hsocket]
    exact h.opening.callback
  · have hbefore : d.thrown = false := by
      obtain ⟨response, -, hserve⟩ := serve_cases hthrown
      rw [hserve] at hthrown
      exact hthrown
    exact (h.tracked hbefore).serve h.server draws requester hrequests hthrown

lemma Concordant.deliver (h : Concordant env d) (socketOpens : Bool) {response : Response}
    {responses : List Response} (hresponses : d.responses = response :: responses)
    (hreading : d.client.reading = true) :
    Concordant env (d.deliver socketOpens response responses) := by
  refine ⟨h.server, ⟨fun hconnected => ?_, h.opening.resolving, h.opening.callback⟩, ?_⟩
  · have hunread := (h.opening.unread hconnected).1
    rw [hreading] at hunread
    cases hunread
  · intro hthrown
    exact (h.tracked (Bool.or_eq_false_iff.mp hthrown).1).deliver hresponses hthrown

lemma Concordant.sender (h : Concordant env d) {identifier : Text} {event : Rtp.SenderEvent}
    {server : ServerState} (hstep : d.server.step env (.sender identifier event) = some server) :
    Concordant env { d with server := server } := by
  have hserver : (serverSystem env).Reachable Always server :=
    h.server.step (e := .sender identifier event) trivial hstep
  refine ⟨hserver, ⟨h.opening.unread, h.opening.resolving, h.opening.callback⟩, fun hthrown => ?_⟩
  exact (h.tracked hthrown).frame rfl rfl rfl rfl (stepSender_stateOf hstep).1

/-- A step in turn keeps the dialog concordant. -/
lemma Concordant.step (h : Concordant env d) {event : DialogEvent} (hturn : d.InTurn event)
    (hstep : (dialogSystem env requester originalUrl).step d event = some d') :
    Concordant env d' := by
  cases event with
  | call method choices =>
    cases hstep
    exact h.call hturn
  | resolved callback =>
    simp only [dialogSystem, Dialog.step] at hstep
    split_ifs at hstep with hmem
    cases hstep
    exact h.resolved hmem
  | connected choices =>
    obtain ⟨callback, hcallback, rfl⟩ := Option.map_eq_some_iff.mp hstep
    exact h.connected hcallback hturn
  | serve draws =>
    cases hrequests : d.requests with
    | nil => simp [dialogSystem, Dialog.step, hrequests] at hstep
    | cons request requests =>
      simp only [dialogSystem, Dialog.step, hrequests, Option.some.injEq] at hstep
      exact hstep ▸ h.serve draws hrequests
  | deliver socketOpens =>
    cases hresponses : d.responses with
    | nil => simp [dialogSystem, Dialog.step, hresponses] at hstep
    | cons response responses =>
      simp only [dialogSystem, Dialog.step, hresponses] at hstep
      split_ifs at hstep with hreading
      cases hstep
      exact h.deliver socketOpens hresponses hreading
  | sender identifier event =>
    obtain ⟨server, hserver, rfl⟩ := Option.map_eq_some_iff.mp hstep
    exact h.sender hserver

lemma Tracked.agrees (h : Tracked d) (hquiet : d.Quiet) : d.Agrees := by
  obtain ⟨answered, asked, -, hwill⟩ := h
  obtain ⟨rfl, rfl, ⟨a, hmem, -⟩ | ⟨-, hagrees⟩⟩ := nothing_awaited hquiet hwill
  · cases hmem
  · exact hagrees

/-- In every run in which requests are sent in turn, client and server agree on the session
whenever no request is outstanding and no handler has thrown. -/
theorem session_agreement
    (hs : (dialogSystem env requester originalUrl).Reachable Dialog.InTurn d) (hquiet : d.Quiet)
    (hthrown : d.thrown = false) : d.Agrees := by
  have hconcordant : Concordant env d :=
    hs.invariant (fun _ hinit => concordant_init hinit)
      fun _ _ _ h hturn hstep => h.step hturn hstep
  exact (hconcordant.tracked hthrown).agrees hquiet

end Run

/-- A session is set up. -/
def setupEvents : List DialogEvent :=
  [.call .setup {}, .resolved .setup, .connected {},
    .serve { identifier := str "a", ssrc := 0x12345678 }, .deliver true]

/-- PLAY, and TEARDOWN before PLAY is answered. -/
def playTeardownEvents : List DialogEvent :=
  setupEvents ++ [.call .play {}, .serve {}, .call .teardown {}, .deliver true, .serve {},
    .deliver true]

theorem session_agreement_teardown :
    ∃ d ∈ (dialogSystem emptyRoot default (str "rtsp://localhost/movie")).run {}
      playTeardownEvents, d.Quiet ∧ d.Agrees := by
  obtain ⟨d, hrun, hquiet, hthrown⟩ :
      ∃ d ∈ (dialogSystem emptyRoot default (str "rtsp://localhost/movie")).run {}
        playTeardownEvents, d.Quiet ∧ d.thrown = false := by
    decide
  have hmeets : (dialogSystem emptyRoot default (str "rtsp://localhost/movie")).Meets
      Dialog.InTurn {} playTeardownEvents := by
    decide
  have hinit : (dialogSystem emptyRoot default (str "rtsp://localhost/movie")).Reachable
      Dialog.InTurn {} := .init ⟨.init rfl, rfl, rfl⟩
  exact ⟨d, hrun, hquiet, session_agreement (hinit.run hmeets hrun) hquiet hthrown⟩

/-- TEARDOWN, and PLAY before TEARDOWN is answered. -/
def teardownPlayEvents : List DialogEvent :=
  setupEvents ++ [.call .teardown {}, .call .play {}, .serve {}, .serve {}, .deliver true,
    .deliver true]

/-- PLAY is answered with 454, but the client takes it for playing. -/
theorem session_disagreement :
    ¬∀ (env : Environment) (requester : Address) (originalUrl : Text) (d : Dialog),
      (dialogSystem env requester originalUrl).Reachable Always d → d.Quiet → d.thrown = false →
      d.Agrees := by
  intro h
  obtain ⟨d, hrun, hquiet, hthrown, hdisagrees⟩ :
      ∃ d ∈ (dialogSystem emptyRoot default (str "rtsp://localhost/movie")).run {}
        teardownPlayEvents, d.Quiet ∧ d.thrown = false ∧ ¬d.Agrees := by
    decide
  have hinit : (dialogSystem emptyRoot default (str "rtsp://localhost/movie")).Reachable
      Always {} := .init ⟨.init rfl, rfl, rfl⟩
  exact hdisagrees (h _ _ _ d (hinit.run (System.meets_always _ _ _) hrun) hquiet hthrown)

end Rtsp
