import StreamingLib.Rtsp.Client.Listening
import StreamingLib.Transition.Runs

/-!
# Requests and their responses

The client sends requests, each with the next CSeq, and `header_read` gives every block that
arrives to the handler of the CSeq in it. The client is watched from the first request on, with a
note of the requests whose handlers are called.
-/

namespace Rtsp

open Peg Transition

/-! ### Calls of handlers -/

namespace RtspClient

/-- The handler that `header_read` calls for a response, and its number. -/
def calledHandler (c : RtspClient) (response : Response) : Option (UInt32 × ResponseHandler) :=
  match cseqHeader response with
  | none => none
  | some value =>
    if response.statusCode < 200 then none
    else (c.outstandingRequests.lookup (readCseq value)).map fun handler =>
      (readCseq value, handler)

variable {c : RtspClient} {response : Response}

lemma calledHandler_eq_some {called : UInt32 × ResponseHandler} :
    c.calledHandler response = some called ↔ ∃ value, cseqHeader response = some value ∧
      200 ≤ response.statusCode ∧ readCseq value = called.1 ∧
      c.outstandingRequests.lookup called.1 = some called.2 := by
  obtain ⟨cseq, handler⟩ := called
  unfold calledHandler
  cases hcseq : cseqHeader response with
  | none => simp
  | some value =>
    by_cases hfinal : response.statusCode < 200
    · simp [hfinal]
    · simp only [if_neg hfinal, Option.map_eq_some_iff, Prod.mk.injEq, Option.some.injEq]
      constructor
      · rintro ⟨handler', hlookup, rfl, rfl⟩
        exact ⟨value, rfl, not_lt.mp hfinal, rfl, hlookup⟩
      · rintro ⟨value', rfl, -, rfl, hlookup⟩
        exact ⟨handler, hlookup, rfl, rfl⟩

/-- The client without a call. -/
lemma processResponse_of_not_called (h : c.calledHandler response = none) (socketOpens : Bool) :
    (c.processResponse socketOpens response).1.outstandingRequests = c.outstandingRequests ∧
      (c.processResponse socketOpens response).1.session = c.session ∧
      (c.processResponse socketOpens response).1.rtpReceiver = c.rtpReceiver := by
  unfold calledHandler at h
  unfold processResponse
  cases hcseq : cseqHeader response with
  | none => exact ⟨rfl, rfl, rfl⟩
  | some value =>
    rw [hcseq] at h
    dsimp only at h ⊢
    split_ifs at h ⊢
    · exact ⟨rfl, rfl, rfl⟩
    · rw [Option.map_eq_none_iff] at h
      rw [h]
      exact ⟨rfl, rfl, rfl⟩

/-- The client after a call: its session and its receiver are what the handler made of them. -/
lemma processResponse_of_called {cseq : UInt32} {handler : ResponseHandler}
    (h : c.calledHandler response = some (cseq, handler)) (socketOpens : Bool) :
    (c.processResponse socketOpens response).1.session =
        (c.handleResponse socketOpens response handler).1.session ∧
      (c.processResponse socketOpens response).1.rtpReceiver =
        (c.handleResponse socketOpens response handler).1.rtpReceiver := by
  obtain ⟨value, hcseq, hfinal, rfl, hlookup⟩ := calledHandler_eq_some.mp h
  rw [processResponse, hcseq]
  dsimp only at hlookup ⊢
  rw [if_neg (not_lt.mpr hfinal), hlookup]
  dsimp only
  rcases c.handleResponse socketOpens response handler with ⟨d, fault | returned⟩
  · cases fault <;> exact ⟨rfl, rfl⟩
  · exact ⟨rfl, rfl⟩

/-- The table after a call: the entry is gone, or no read is started any more. -/
lemma processResponse_table {cseq : UInt32} {handler : ResponseHandler}
    (h : c.calledHandler response = some (cseq, handler)) (hreading : c.reading = false)
    (socketOpens : Bool) :
    (c.processResponse socketOpens response).1.outstandingRequests =
        c.outstandingRequests.erase cseq ∨
      (c.processResponse socketOpens response).1.outstandingRequests = c.outstandingRequests ∧
        (c.processResponse socketOpens response).1.reading = false := by
  obtain ⟨value, hcseq, hfinal, rfl, hlookup⟩ := calledHandler_eq_some.mp h
  rw [processResponse, hcseq]
  dsimp only at hlookup ⊢
  rw [if_neg (not_lt.mpr hfinal), hlookup]
  dsimp only
  obtain ⟨htable, hread⟩ := handleResponse_frame c socketOpens response handler
  have hcaught := handleResponse_ne_outOfRange c socketOpens response handler
  rcases hresult : c.handleResponse socketOpens response handler with ⟨d, fault | returned⟩
    <;> rw [hresult] at htable hread hcaught
  · cases fault with
    | outOfRange => exact absurd rfl hcaught
    | runtimeError what | systemError => exact Or.inr ⟨htable, hread.trans hreading⟩
  · exact Or.inl (congrArg (Finmap.erase (readCseq value)) htable)

end RtspClient

/-! ### Conversations -/

/-- A client whose first read is started, and its requests. -/
structure Conversation where
  client : RtspClient := { reading := true }
  /-- `next_cseq`, a `uint_fast32_t`. -/
  nextCseq : UInt64 := 0
  /-- The requests that were sent. -/
  sent : List Request := []
  /-- The place in `sent` of the request that last stored its handler under a number. -/
  registered : UInt32 → Option ℕ := fun _ => none
  /-- The requests whose handlers were called. -/
  called : List ℕ := []

inductive ConversationEvent
  | send (request : Request) (responseHandler : ResponseHandler)
  /-- `header_read` with all that arrived since. -/
  | read (arrived : Text) (bytesTransferred : ℕ) (socketOpens : Bool)

namespace Conversation

/-- `send_request`. -/
def sendRequest (x : Conversation) (request : Request) (responseHandler : ResponseHandler) :
    Conversation :=
  let cseq := x.nextCseq
  { x with
    nextCseq := cseq + 1
    sent := x.sent ++ [{ request with
      headers := (str "CSeq", numeral digitChar 10 cseq.toNat) :: request.headers }]
    client.outstandingRequests :=
      x.client.outstandingRequests.insert cseq.toUInt32 responseHandler
    registered := Function.update x.registered cseq.toUInt32 (some x.sent.length) }

/-- The client with what arrived in its stream buffer, and the block in its parser buffer. -/
def receive (x : Conversation) (arrived : Text) (bytesTransferred : ℕ) : RtspClient :=
  RtspClient.copyBlock { x.client with inStreambuf := x.client.inStreambuf ++ arrived }
    bytesTransferred

/-- How the block is read. -/
def reply (x : Conversation) (arrived : Text) (bytesTransferred : ℕ) : Reply UInt8 Response :=
  parseResponse (x.receive arrived bytesTransferred).parserBuffer

/-- The request whose handler is called. -/
def calls (x : Conversation) (arrived : Text) (bytesTransferred : ℕ) : Option ℕ :=
  (x.client.calledHandler (x.reply arrived bytesTransferred).attr).bind fun called =>
    x.registered called.1

def read (x : Conversation) (arrived : Text) (bytesTransferred : ℕ) (socketOpens : Bool) :
    Conversation :=
  let c := { x.client with inStreambuf := x.client.inStreambuf ++ arrived }
  { x with
    client := (c.headerRead socketOpens bytesTransferred).1
    called := x.called ++ (x.calls arrived bytesTransferred).toList }

def step (x : Conversation) : ConversationEvent → Option Conversation
  | .send request responseHandler => some (x.sendRequest request responseHandler)
  | .read arrived bytesTransferred socketOpens =>
    if x.client.reading then some (x.read arrived bytesTransferred socketOpens) else none

end Conversation

def conversationSystem : System Conversation ConversationEvent where
  init x := x = {}
  step := Conversation.step

namespace Conversation

/-! ### The right request -/

/-- The CSeq that a request was sent with. -/
def sentCseq (x : Conversation) (i : ℕ) : Option Text :=
  x.sent[i]?.bind fun request => request.headers.lookup (str "CSeq")

/-- The number of a request by its place, of 64 bits and in decimal. -/
def number (i : ℕ) : Text := numeral digitChar 10 (UInt64.ofNat i).toNat

/-- The block is a response with the CSeq of the request. -/
def Answers (x : Conversation) (block : Reply UInt8 Response) (i : ℕ) : Prop :=
  block.ok = true ∧ ∃ value, cseqHeader block.attr = some value ∧ x.sentCseq i = some value

/-- A request whose handler is outstanding. -/
def Awaits (x : Conversation) (i : ℕ) : Prop :=
  ∃ cseq ∈ x.client.outstandingRequests, x.registered cseq = some i

/-- A read calls the handler of a request only for a response to it and only once, and a block that
answers no outstanding request changes neither the table nor the session. -/
def Correlates (x : Conversation) : ConversationEvent → Prop
  | .send _ _ => True
  | .read arrived bytesTransferred socketOpens => x.client.reading = true →
    (∀ i, x.calls arrived bytesTransferred = some i →
      x.Answers (x.reply arrived bytesTransferred) i ∧ i ∉ x.called) ∧
    ((∀ i, x.Awaits i → ¬x.Answers (x.reply arrived bytesTransferred) i) →
      (x.read arrived bytesTransferred socketOpens).client.outstandingRequests =
          x.client.outstandingRequests ∧
        (x.read arrived bytesTransferred socketOpens).client.session = x.client.session)

/-- Where the status of a block is final and the number that its CSeq is taken for is outstanding,
the block is a response, and its CSeq is the number of the request that is outstanding under it,
as it is written. -/
def WellAnswered (x : Conversation) : ConversationEvent → Prop
  | .send _ _ => True
  | .read arrived bytesTransferred _ => x.client.reading = true →
    ∀ value ∈ cseqHeader (x.reply arrived bytesTransferred).attr,
      200 ≤ (x.reply arrived bytesTransferred).attr.statusCode →
      readCseq value ∈ x.client.outstandingRequests →
        (x.reply arrived bytesTransferred).ok = true ∧
          ∀ i ∈ x.registered (readCseq value), value = number i

instance (x : Conversation) : (event : ConversationEvent) → Decidable (x.WellAnswered event)
  | .send _ _ => isTrue trivial
  | .read _ _ _ => inferInstanceAs (Decidable (_ → ∀ _ ∈ _, _ → _ → _ ∧ ∀ _ ∈ _, _))

/-! ### Invariant -/

/-- What holds of the requests of a conversation in any run. -/
structure Consistent (x : Conversation) : Prop where
  nextCseq : x.nextCseq = .ofNat x.sent.length
  sentCseq : ∀ i < x.sent.length, x.sentCseq i = some (number i)
  registered_lt : ∀ {cseq i}, x.registered cseq = some i → i < x.sent.length
  registered_inj : ∀ {cseq cseq' i}, x.registered cseq = some i → x.registered cseq' = some i →
    cseq = cseq'
  outstanding : ∀ cseq ∈ x.client.outstandingRequests, ∃ i, x.registered cseq = some i
  called_lt : ∀ i ∈ x.called, i < x.sent.length
  /-- While the client listens, no handler that was called is outstanding. -/
  called : x.client.reading = true → ∀ i ∈ x.called, ¬x.Awaits i

variable {x x' : Conversation}

lemma consistent_init : Consistent {} where
  nextCseq := rfl
  sentCseq i h := absurd h (Nat.not_lt_zero i)
  registered_lt h := by cases h
  registered_inj h := by cases h
  outstanding cseq h := absurd h Finmap.notMem_empty
  called_lt := nofun
  called _ := nofun

lemma calls_eq_some {arrived : Text} {bytesTransferred i : ℕ} :
    x.calls arrived bytesTransferred = some i ↔ ∃ value,
      cseqHeader (x.reply arrived bytesTransferred).attr = some value ∧
      200 ≤ (x.reply arrived bytesTransferred).attr.statusCode ∧
      readCseq value ∈ x.client.outstandingRequests ∧ x.registered (readCseq value) = some i := by
  simp only [calls, Option.bind_eq_some_iff, RtspClient.calledHandler_eq_some, Prod.exists]
  constructor
  · rintro ⟨cseq, handler, ⟨value, hvalue, hfinal, rfl, hlookup⟩, hi⟩
    exact ⟨value, hvalue, hfinal, Finmap.mem_of_lookup_eq_some hlookup, hi⟩
  · rintro ⟨value, hvalue, hfinal, hmem, hi⟩
    obtain ⟨handler, hlookup⟩ := Finmap.mem_iff.mp hmem
    exact ⟨_, handler, ⟨value, hvalue, hfinal, rfl, hlookup⟩, hi⟩

lemma Consistent.send (h : x.Consistent) (request : Request) (responseHandler : ResponseHandler) :
    (x.sendRequest request responseHandler).Consistent := by
  have hlength : (x.sendRequest request responseHandler).sent.length = x.sent.length + 1 := by
    simp [sendRequest]
  have hregistered : ∀ {cseq i}, (x.sendRequest request responseHandler).registered cseq = some i →
      cseq = x.nextCseq.toUInt32 ∧ i = x.sent.length ∨
        cseq ≠ x.nextCseq.toUInt32 ∧ x.registered cseq = some i := by
    intro cseq i hi
    simp only [sendRequest, Function.update_apply] at hi
    split_ifs at hi with hcseq
    · cases hi
      exact Or.inl ⟨hcseq, rfl⟩
    · exact Or.inr ⟨hcseq, hi⟩
  refine ⟨?_, fun i hi => ?_, fun hi => ?_, fun hi hi' => ?_, fun cseq hcseq => ?_, fun i hi => ?_,
    fun hreading i hi => ?_⟩
  · rw [hlength, UInt64.ofNat_add, ← h.nextCseq]
    rfl
  · rw [hlength] at hi
    rcases Nat.lt_succ_iff_lt_or_eq.mp hi with hold | rfl
    · have hsent := h.sentCseq i hold
      simpa only [Conversation.sentCseq, sendRequest, List.getElem?_append_left hold] using hsent
    · simp [Conversation.sentCseq, sendRequest, number, h.nextCseq]
  · rw [hlength]
    rcases hregistered hi with ⟨-, rfl⟩ | ⟨-, hold⟩
    · exact Nat.lt_succ_self _
    · exact Nat.lt_succ_of_lt (h.registered_lt hold)
  · rcases hregistered hi with ⟨rfl, rfl⟩ | ⟨-, hold⟩ <;>
      rcases hregistered hi' with ⟨rfl, heq⟩ | ⟨-, hold'⟩
    · rfl
    · exact absurd (h.registered_lt hold') (lt_irrefl _)
    · exact absurd (heq ▸ h.registered_lt hold) (lt_irrefl _)
    · exact h.registered_inj hold hold'
  · simp only [sendRequest, Function.update_apply]
    split_ifs with heq
    · exact ⟨_, rfl⟩
    · rcases Finmap.mem_insert.mp hcseq with hnew | hold
      · exact absurd hnew heq
      · exact h.outstanding cseq hold
  · rw [hlength]
    exact Nat.lt_succ_of_lt (h.called_lt i hi)
  · rintro ⟨cseq, hcseq, hi'⟩
    have hlt := h.called_lt i hi
    rcases hregistered hi' with ⟨-, rfl⟩ | ⟨hne, hold⟩
    · exact absurd hlt (lt_irrefl _)
    · rcases Finmap.mem_insert.mp hcseq with hnew | hmem
      · exact hne hnew
      · exact h.called hreading i hi ⟨cseq, hmem, hold⟩

/-- What a read does: it calls no handler and changes neither the table nor the session, or it
calls the handler of a request, whose entry is gone unless the client stops to listen. -/
lemma Consistent.read_cases (h : x.Consistent) (arrived : Text) (bytesTransferred : ℕ)
    (socketOpens : Bool) :
    (x.calls arrived bytesTransferred = none ∧
      (x.read arrived bytesTransferred socketOpens).client.outstandingRequests =
        x.client.outstandingRequests ∧
      (x.read arrived bytesTransferred socketOpens).client.session = x.client.session) ∨
    ∃ cseq i, x.calls arrived bytesTransferred = some i ∧ x.registered cseq = some i ∧
      cseq ∈ x.client.outstandingRequests ∧
      ((x.read arrived bytesTransferred socketOpens).client.outstandingRequests =
          x.client.outstandingRequests.erase cseq ∨
        (x.read arrived bytesTransferred socketOpens).client.outstandingRequests =
            x.client.outstandingRequests ∧
          (x.read arrived bytesTransferred socketOpens).client.reading = false) := by
  rcases hcalled : x.client.calledHandler (x.reply arrived bytesTransferred).attr with
    - | ⟨cseq, handler⟩
  · obtain ⟨htable, hsession, -⟩ := RtspClient.processResponse_of_not_called
      (c := x.receive arrived bytesTransferred) hcalled socketOpens
    exact Or.inl ⟨by rw [calls, hcalled, Option.bind_none], htable, hsession⟩
  · obtain ⟨value, -, -, -, hlookup⟩ := RtspClient.calledHandler_eq_some.mp hcalled
    have hmem := Finmap.mem_of_lookup_eq_some hlookup
    obtain ⟨i, hi⟩ := h.outstanding cseq hmem
    refine Or.inr ⟨cseq, i, ?_, hi, hmem, ?_⟩
    · rw [calls, hcalled, Option.bind_some, hi]
    · exact RtspClient.processResponse_table (c := x.receive arrived bytesTransferred) hcalled rfl
        socketOpens

lemma Consistent.read (h : x.Consistent) (hreading : x.client.reading = true) (arrived : Text)
    (bytesTransferred : ℕ) (socketOpens : Bool) :
    (x.read arrived bytesTransferred socketOpens).Consistent := by
  rcases h.read_cases arrived bytesTransferred socketOpens with
    ⟨hcalls, htable, -⟩ | ⟨cseq, i, hcalls, hi, hmem, htable⟩
  · have hcalled : (x.read arrived bytesTransferred socketOpens).called = x.called := by
      rw [Conversation.read, hcalls, Option.toList_none, List.append_nil]
    refine ⟨h.nextCseq, h.sentCseq, h.registered_lt, h.registered_inj, fun cseq hcseq => ?_, ?_,
      fun _ j hj => ?_⟩
    · exact h.outstanding cseq (htable ▸ hcseq)
    · rw [hcalled]
      exact h.called_lt
    · rw [hcalled] at hj
      rintro ⟨cseq, hcseq, hj'⟩
      exact h.called hreading j hj ⟨cseq, htable ▸ hcseq, hj'⟩
  · have hcalled : (x.read arrived bytesTransferred socketOpens).called = x.called ++ [i] := by
      rw [Conversation.read, hcalls, Option.toList_some]
    have hsub : ∀ cseq' ∈ (x.read arrived bytesTransferred socketOpens).client.outstandingRequests,
        cseq' ∈ x.client.outstandingRequests := by
      intro cseq' hcseq'
      rcases htable with htable | ⟨htable, -⟩ <;> rw [htable] at hcseq'
      · exact (Finmap.mem_erase.mp hcseq').2
      · exact hcseq'
    refine ⟨h.nextCseq, h.sentCseq, h.registered_lt, h.registered_inj, fun cseq' hcseq' => ?_,
      fun j hj => ?_, fun hread j hj => ?_⟩
    · exact h.outstanding cseq' (hsub cseq' hcseq')
    · rw [hcalled, List.mem_append, List.mem_singleton] at hj
      rcases hj with hj | rfl
      · exact h.called_lt j hj
      · exact h.registered_lt hi
    · rintro ⟨cseq', hcseq', hj'⟩
      rw [hcalled, List.mem_append, List.mem_singleton] at hj
      rcases hj with hj | rfl
      · exact h.called hreading j hj ⟨cseq', hsub cseq' hcseq', hj'⟩
      · -- the number of the request that was called is gone, and it has no other one
        obtain rfl := h.registered_inj hi hj'
        rcases htable with htable | ⟨-, hstopped⟩
        · rw [htable] at hcseq'
          exact Finmap.notMem_erase_self hcseq'
        · rw [hstopped] at hread
          cases hread

lemma Consistent.step {event : ConversationEvent} (h : x.Consistent)
    (hstep : x.step event = some x') : x'.Consistent := by
  cases event with
  | send request responseHandler =>
    obtain rfl := Option.some.inj hstep
    exact h.send request responseHandler
  | read arrived bytesTransferred socketOpens =>
    simp only [Conversation.step] at hstep
    split_ifs at hstep with hreading
    obtain rfl := Option.some.inj hstep
    exact h.read hreading arrived bytesTransferred socketOpens

/-- A single event of a conversation. -/
lemma Consistent.correlates_iff (h : x.Consistent) (event : ConversationEvent) :
    x.Correlates event ↔ x.WellAnswered event := by
  cases event with
  | send request responseHandler => exact Iff.rfl
  | read arrived bytesTransferred socketOpens =>
    constructor
    · intro hcorrelates hreading value hvalue hfinal hmem
      obtain ⟨i, hi⟩ := h.outstanding _ hmem
      have hcalls := calls_eq_some.mpr ⟨value, hvalue, hfinal, hmem, hi⟩
      obtain ⟨hok, value', hvalue', hsent⟩ := ((hcorrelates hreading).1 i hcalls).1
      refine ⟨hok, fun j hj => ?_⟩
      obtain rfl := Option.some.inj (hi.symm.trans hj)
      obtain rfl := Option.some.inj (hvalue.symm.trans hvalue')
      rw [h.sentCseq i (h.registered_lt hi)] at hsent
      exact (Option.some.inj hsent).symm
    · intro hwell hreading
      have hanswers : ∀ i, x.calls arrived bytesTransferred = some i →
          x.Awaits i ∧ x.Answers (x.reply arrived bytesTransferred) i := by
        intro i hcalls
        obtain ⟨value, hvalue, hfinal, hmem, hi⟩ := calls_eq_some.mp hcalls
        obtain ⟨hok, hsent⟩ := hwell hreading value hvalue hfinal hmem
        refine ⟨⟨_, hmem, hi⟩, hok, value, hvalue, ?_⟩
        rw [h.sentCseq i (h.registered_lt hi), hsent i hi]
      refine ⟨fun i hcalls => ⟨(hanswers i hcalls).2, fun hi => ?_⟩, fun hother => ?_⟩
      · exact h.called hreading i hi (hanswers i hcalls).1
      · rcases h.read_cases arrived bytesTransferred socketOpens with
          ⟨-, htable, hsession⟩ | ⟨cseq, i, hcalls, -⟩
        · exact ⟨htable, hsession⟩
        · exact absurd (hanswers i hcalls).2 (hother i (hanswers i hcalls).1)

end Conversation

/-- In a run every handler is called at most once, and only for a response with the CSeq of its
request, while all other blocks change nothing, exactly where every block whose number is
outstanding is such a response. -/
theorem responses_reach_their_requests_iff (events : List ConversationEvent) :
    conversationSystem.Meets Conversation.Correlates {} events ↔
      conversationSystem.Meets Conversation.WellAnswered {} events :=
  System.meets_congr Conversation.consistent_init (fun _ _ _ h hstep => h.step hstep)
    (fun _ event h => h.correlates_iff event) events

/-- OPTIONS as the client sends it. -/
def optionsRequest : Request where
  methodOrExtension := str "OPTIONS"
  uri := str "rtsp://localhost/movie"
  rtspVersionMajor := 1
  rtspVersionMinor := 0
  headers := []

/-- A late and a repeated response between two that are awaited. -/
example : conversationSystem.Meets Conversation.WellAnswered {}
    [.send optionsRequest .option, .send optionsRequest .describe,
      .read (str "RTSP/1.0 200 OK\r\nCSeq: 1\r\n\r\n") 28 true,
      .read (str "RTSP/1.0 200 OK\r\nCSeq: 1\r\n\r\n") 28 true,
      .read (str "RTSP/1.0 200 OK\r\nCSeq: 0\r\n\r\n") 28 true] := by
  decide

/-- A CSeq that can not be read is taken for the first request. -/
theorem responses_reach_other_requests :
    ¬conversationSystem.Meets Conversation.Correlates {}
      [.send optionsRequest .option,
        .read (str "RTSP/1.0 200 OK\r\nCSeq: x\r\n\r\n") 28 true] := by
  intro h
  obtain ⟨-, value, hvalue, hsent⟩ := (h.2.1 rfl).1 0 (by decide) |>.1
  have hread : cseqHeader ((Conversation.sendRequest {} optionsRequest .option).reply
      (str "RTSP/1.0 200 OK\r\nCSeq: x\r\n\r\n") 28).attr = some (str "x") := by decide
  have hzero : (Conversation.sendRequest {} optionsRequest .option).sentCseq 0 =
      some (str "0") := by
    decide
  rw [hread] at hvalue
  rw [hzero, ← hvalue] at hsent
  exact absurd hsent (by decide)

end Rtsp
