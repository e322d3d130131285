import StreamingLib.Rtsp.Client.State

/-!
# The client keeps listening

`header_read` starts the next read as its last step, so whatever throws before leaves the client
without one.
-/

namespace Rtsp

open Peg

/-! ### Response handlers that return -/

/-- The Transport header offers a transport that the client can receive. -/
def UsableTransport (transportHeader : Text) : Prop :=
  (transportGrammar.run transportHeader default).ok = true ∧
    ∃ transportSpec ∈ offeredTransport (transportGrammar.run transportHeader default).attr,
      (∃ parameter ∈ transportSpec.parameters, parameter.sinkPort.isSome = true) ∧
      ∃ parameter ∈ transportSpec.parameters, parameter.ssrcValue.isSome = true

instance (transportHeader : Text) : Decidable (UsableTransport transportHeader) :=
  inferInstanceAs (Decidable (_ ∧ ∃ _ ∈ _, (∃ _ ∈ _, _) ∧ ∃ _ ∈ _, _))

/-- The response to SETUP is a success and describes a session that the client can receive. -/
def UsableSetup (socketOpens : Bool) (response : Response) : Prop :=
  response.IsSuccess ∧
    (normalizeHeaders response.headers).lookup (str "session") ≠ none ∧
    (∃ transport ∈ (normalizeHeaders response.headers).lookup (str "transport"),
      UsableTransport transport) ∧
    socketOpens = true

instance (socketOpens : Bool) (response : Response) :
    Decidable (UsableSetup socketOpens response) :=
  inferInstanceAs (Decidable (_ ∧ _ ∧ (∃ _ ∈ _, _) ∧ _))

/-- The response is one that its handler returns from. -/
def ResponseHandler.Accepts (socketOpens : Bool) (response : Response) : ResponseHandler → Prop
  | .setup => UsableSetup socketOpens response
  | .play | .pause | .teardown | .option | .describe => True

instance (socketOpens : Bool) (response : Response) :
    (handler : ResponseHandler) → Decidable (handler.Accepts socketOpens response)
  | .setup => inferInstanceAs (Decidable (UsableSetup socketOpens response))
  | .play | .pause | .teardown | .option | .describe => isTrue trivial

lemma processServerTransportHeader_isOk_iff (transportHeader : Text) :
    (processServerTransportHeader transportHeader).isOk = true ↔
      UsableTransport transportHeader := by
  unfold processServerTransportHeader UsableTransport
  dsimp only
  by_cases hok : (transportGrammar.run transportHeader default).ok = true
  · rw [hok, Bool.not_true, if_neg Bool.false_ne_true]
    cases hoffered : offeredTransport (transportGrammar.run transportHeader default).attr with
    | none => exact iff_of_false nofun fun ⟨_, _, hmem, _⟩ => by cases hmem
    | some transportSpec =>
      dsimp only
      cases hport : transportSpec.parameters.findSome? (·.sinkPort) with
      | none =>
        refine iff_of_false nofun ?_
        rintro ⟨-, _, ⟨rfl⟩, hsome, -⟩
        rw [← List.findSome?_isSome_iff, hport] at hsome
        cases hsome
      | some sinkPort =>
        dsimp only
        cases hssrc : transportSpec.parameters.findSome? (·.ssrcValue) with
        | none =>
          refine iff_of_false nofun ?_
          rintro ⟨-, _, ⟨rfl⟩, -, hsome⟩
          rw [← List.findSome?_isSome_iff, hssrc] at hsome
          cases hsome
        | some ssrc =>
          refine iff_of_true rfl ⟨rfl, transportSpec, rfl, ?_, ?_⟩
          · rw [← List.findSome?_isSome_iff, hport]
            rfl
          · rw [← List.findSome?_isSome_iff, hssrc]
            rfl
  · rw [Bool.not_eq_true] at hok
    rw [hok]
    exact iff_of_false nofun fun h => by cases h.1

lemma setupHandler_isOk_iff (c : RtspClient) (socketOpens : Bool) {response : Response} :
    (c.setupHandler socketOpens response).2.isOk = true ↔ UsableSetup socketOpens response := by
  unfold RtspClient.setupHandler UsableSetup Response.IsSuccess
  dsimp only
  by_cases hstatus : response.statusCode < 200 ∨ 300 ≤ response.statusCode
  · rw [if_pos hstatus]
    refine iff_of_false nofun ?_
    rintro ⟨⟨hle, hlt⟩, -⟩
    rcases hstatus with h | h
    · exact absurd hle (not_le.mpr h)
    · exact absurd hlt (not_lt.mpr h)
  rw [if_neg hstatus]
  rw [not_or, not_lt, not_le] at hstatus
  cases hsession : (normalizeHeaders response.headers).lookup (str "session") with
  | none => exact iff_of_false nofun fun h => h.2.1 rfl
  | some identifier =>
    cases htransport : (normalizeHeaders response.headers).lookup (str "transport") with
    | none =>
      refine iff_of_false nofun ?_
      rintro ⟨-, -, ⟨_, hmem, -⟩, -⟩
      cases hmem
    | some transport =>
      have husable := processServerTransportHeader_isOk_iff transport
      dsimp only
      cases hprocess : processServerTransportHeader transport with
      | error fault =>
        rw [hprocess] at husable
        refine iff_of_false nofun ?_
        rintro ⟨-, -, ⟨_, ⟨rfl⟩, h⟩, -⟩
        exact absurd (husable.mpr h) nofun
      | ok parameters =>
        rw [hprocess] at husable
        have huse : UsableTransport transport := husable.mp rfl
        cases socketOpens with
        | false => exact iff_of_false nofun fun h => by cases h.2.2.2
        | true => exact iff_of_true rfl ⟨hstatus, nofun, ⟨transport, rfl, huse⟩, rfl⟩

lemma handleResponse_isOk_iff (c : RtspClient) (socketOpens : Bool) (response : Response)
    (handler : ResponseHandler) :
    (c.handleResponse socketOpens response handler).2.isOk = true ↔
      handler.Accepts socketOpens response := by
  cases handler with
  | setup => exact setupHandler_isOk_iff c socketOpens
  | play => exact iff_of_true rfl trivial
  | pause => exact iff_of_true rfl trivial
  | teardown => exact iff_of_true rfl trivial
  | option => exact iff_of_true rfl trivial
  | describe => exact iff_of_true rfl trivial

lemma processServerTransportHeader_ne_outOfRange (transportHeader : Text) :
    processServerTransportHeader transportHeader ≠ .error .outOfRange := by
  unfold processServerTransportHeader
  dsimp only
  split
  · nofun
  split
  · nofun
  split
  · nofun
  split <;> nofun

/-- A response handler does not throw what `header_read` catches. -/
lemma handleResponse_ne_outOfRange (c : RtspClient) (socketOpens : Bool) (response : Response)
    (handler : ResponseHandler) :
    (c.handleResponse socketOpens response handler).2 ≠ .error .outOfRange := by
  cases handler with
  | setup =>
    simp only [RtspClient.handleResponse, RtspClient.setupHandler]
    split
    · nofun
    split
    · next transport _ _ =>
        split
        · next fault hfault =>
            rintro ⟨rfl⟩
            exact processServerTransportHeader_ne_outOfRange transport hfault
        · split <;> nofun
    · nofun
  | play => nofun
  | pause => nofun
  | teardown => nofun
  | option => nofun
  | describe => nofun

/-- A response handler touches neither the table of handlers nor the read. -/
lemma handleResponse_frame (c : RtspClient) (socketOpens : Bool) (response : Response)
    (handler : ResponseHandler) :
    (c.handleResponse socketOpens response handler).1.outstandingRequests =
        c.outstandingRequests ∧
      (c.handleResponse socketOpens response handler).1.reading = c.reading := by
  cases handler with
  | setup =>
    simp only [RtspClient.handleResponse, RtspClient.setupHandler]
    split
    · exact ⟨rfl, rfl⟩
    split
    · split
      · exact ⟨rfl, rfl⟩
      · split <;> exact ⟨rfl, rfl⟩
    · exact ⟨rfl, rfl⟩
  | play => exact ⟨rfl, rfl⟩
  | pause => exact ⟨rfl, rfl⟩
  | teardown => exact ⟨rfl, rfl⟩
  | option => exact ⟨rfl, rfl⟩
  | describe => exact ⟨rfl, rfl⟩

/-! ### Listening -/

namespace RtspClient

/-- The response names a request by its number. -/
def Names (response : Response) (cseq : UInt32) : Prop :=
  ∃ value ∈ cseqHeader response, (cseqParser.run value 0).ok = true ∧ readCseq value = cseq

/-- `header_read` has started the next read, and a final response to an outstanding request has
settled it. -/
def KeepsListening (c : RtspClient) (socketOpens : Bool) (bytesTransferred : ℕ) : Prop :=
  (c.headerRead socketOpens bytesTransferred).1.reading = true ∧
    ∀ cseq, 200 ≤ (c.nextResponse bytesTransferred).statusCode →
      Names (c.nextResponse bytesTransferred) cseq → cseq ∈ c.outstandingRequests →
      cseq ∉ (c.headerRead socketOpens bytesTransferred).1.outstandingRequests

/-- The response has a CSeq header, and if it is final, the handler that is outstanding for it
returns. -/
def Handled (c : RtspClient) (socketOpens : Bool) (response : Response) : Prop :=
  ∃ value ∈ cseqHeader response, 200 ≤ response.statusCode →
    ∀ handler ∈ c.outstandingRequests.lookup (readCseq value),
      handler.Accepts socketOpens response

instance (c : RtspClient) (socketOpens : Bool) (response : Response) :
    Decidable (c.Handled socketOpens response) :=
  inferInstanceAs (Decidable (∃ _ ∈ _, _ → ∀ _ ∈ _, _))

end RtspClient

open RtspClient

lemma processResponse_of_unknown {c : RtspClient} {socketOpens : Bool} {response : Response}
    {value : Text} (hcseq : cseqHeader response = some value)
    (hunknown : c.outstandingRequests.lookup (readCseq value) = none) :
    (c.processResponse socketOpens response).1.reading = true := by
  rw [processResponse, hcseq]
  dsimp only
  split
  · rfl
  · rw [hunknown]
    rfl

/-- A final response whose handler is called: either it returns, the entry is erased and the next
read is started, or it throws and no read is started. -/
lemma processResponse_of_handler (c : RtspClient) (socketOpens : Bool) {response : Response}
    {value : Text} (hcseq : cseqHeader response = some value)
    (hfinal : 200 ≤ response.statusCode) {handler : ResponseHandler}
    (hhandler : c.outstandingRequests.lookup (readCseq value) = some handler) :
    (handler.Accepts socketOpens response →
      (c.processResponse socketOpens response).1.reading = true ∧
      (c.processResponse socketOpens response).1.outstandingRequests =
        c.outstandingRequests.erase (readCseq value)) ∧
    (¬handler.Accepts socketOpens response →
      (c.processResponse socketOpens response).1.reading = c.reading) := by
  rw [processResponse, hcseq]
  dsimp only
  rw [if_neg (not_lt.mpr hfinal), hhandler]
  dsimp only
  obtain ⟨htable, hreading⟩ := handleResponse_frame c socketOpens response handler
  have haccepts := handleResponse_isOk_iff c socketOpens response handler
  have hcaught := handleResponse_ne_outOfRange c socketOpens response handler
  rcases hresult : c.handleResponse socketOpens response handler with ⟨d, fault | returned⟩
    <;> rw [hresult] at htable hreading haccepts hcaught
  · refine ⟨fun h => absurd (haccepts.mpr h) nofun, fun _ => ?_⟩
    cases fault with
    | outOfRange => exact absurd rfl hcaught
    | runtimeError what => exact hreading
    | systemError => exact hreading
  · refine ⟨fun _ => ⟨rfl, ?_⟩, fun h => absurd (haccepts.mp rfl) h⟩
    exact congrArg (Finmap.erase (readCseq value)) htable

/-- The client keeps listening exactly if the block has a CSeq header and the handler that is
outstanding for it, if any, returns. -/
theorem client_keeps_listening_iff (c : RtspClient) (socketOpens : Bool) (bytesTransferred : ℕ) :
    c.KeepsListening socketOpens bytesTransferred ↔
      c.Handled socketOpens (c.nextResponse bytesTransferred) := by
  unfold KeepsListening Handled headerRead
  generalize c.nextResponse bytesTransferred = response
  cases hcseq : cseqHeader response with
  | none =>
    refine iff_of_false ?_ ?_
    · rintro ⟨hread, -⟩
      rw [processResponse, hcseq] at hread
      cases hread
    · rintro ⟨value, hvalue, -⟩
      cases hvalue
  | some value =>
    have hnames : ∀ cseq, Names response cseq → readCseq value = cseq := by
      rintro cseq ⟨value', hvalue', -, hread⟩
      rw [hcseq] at hvalue'
      cases hvalue'
      exact hread
    by_cases hfinal : 200 ≤ response.statusCode
    · cases hhandler : c.outstandingRequests.lookup (readCseq value) with
      | none =>
        refine iff_of_true ⟨?_, ?_⟩ ⟨value, rfl, fun _ handler hmem => ?_⟩
        · exact processResponse_of_unknown hcseq hhandler
        · intro cseq _ hname hmem
          rw [← hnames cseq hname, ← Finmap.lookup_isSome, hhandler] at hmem
          cases hmem
        · cases hmem.symm.trans hhandler
      | some handler =>
        obtain ⟨hreturns, hthrows⟩ := processResponse_of_handler
          (c.copyBlock bytesTransferred) socketOpens hcseq hfinal hhandler
        by_cases haccepts : handler.Accepts socketOpens response
        · obtain ⟨hread, htable⟩ := hreturns haccepts
          refine iff_of_true ⟨hread, ?_⟩ ⟨value, rfl, fun _ handler' hmem => ?_⟩
          · intro cseq _ hname _
            rw [htable, ← hnames cseq hname]
            exact Finmap.notMem_erase_self
          · cases hmem.symm.trans hhandler
            exact haccepts
        · refine iff_of_false ?_ ?_
          · rintro ⟨hread, -⟩
            rw [hthrows haccepts] at hread
            cases hread
          · rintro ⟨value', ⟨rfl⟩, h⟩
            exact haccepts (h hfinal handler hhandler)
    · refine iff_of_true ⟨?_, fun _ h => absurd h hfinal⟩ ⟨value, rfl, fun h => absurd h hfinal⟩
      rw [processResponse, hcseq]
      dsimp only
      rw [if_pos (not_le.mp hfinal)]
      rfl

/-- A block without headers. -/
theorem client_stops_listening :
    ¬∀ (c : RtspClient) (socketOpens : Bool) (bytesTransferred : ℕ),
      c.KeepsListening socketOpens bytesTransferred := by
  intro h
  have hread := (h { inStreambuf := str "\r\n\r\n" } true 4).1
  revert hread
  decide

end Rtsp
