import StreamingLib.Rtsp.Client.Correlation

/-!
# Refused requests

The handler of SETUP looks at the status of the response before it touches the session. Those of
PLAY, PAUSE and TEARDOWN do not, they take a refusal for a success.
-/

namespace Rtsp

open Peg Transition

/-- The state that a handler sets, whatever the status of the response. -/
def ResponseHandler.entered : ResponseHandler → Option SessionState
  | .setup | .option | .describe => none
  | .play => some .playing
  | .pause => some .ready
  | .teardown => some .init

namespace Conversation

/-- Of a final response that is no success the handler leaves the session, with its state and its
identifier, and the receiver as they were. -/
def KeepsWhenRefused (x : Conversation) : ConversationEvent → Prop
  | .send _ _ => True
  | .read arrived bytesTransferred socketOpens => x.client.reading = true →
    ∀ called ∈ x.client.calledHandler (x.reply arrived bytesTransferred).attr,
      ¬(x.reply arrived bytesTransferred).attr.IsSuccess →
        (x.read arrived bytesTransferred socketOpens).client.session = x.client.session ∧
          (x.read arrived bytesTransferred socketOpens).client.rtpReceiver = x.client.rtpReceiver

/-- Of a final response that is no success the session is in the state that the handler sets. -/
def RefusedInState (x : Conversation) : ConversationEvent → Prop
  | .send _ _ => True
  | .read arrived bytesTransferred _ => x.client.reading = true →
    ∀ called ∈ x.client.calledHandler (x.reply arrived bytesTransferred).attr,
      ¬(x.reply arrived bytesTransferred).attr.IsSuccess →
        ∀ state ∈ called.2.entered, x.client.session.sessionState = state

instance (x : Conversation) : (event : ConversationEvent) → Decidable (x.RefusedInState event)
  | .send _ _ => isTrue trivial
  | .read _ _ _ => inferInstanceAs (Decidable (_ → ∀ _ ∈ _, _ → ∀ _ ∈ _, _))

end Conversation

/-- A handler that gets a refusal. -/
lemma handleResponse_of_refused (c : RtspClient) (socketOpens : Bool) {response : Response}
    (hrefused : ¬response.IsSuccess) (handler : ResponseHandler) :
    ((c.handleResponse socketOpens response handler).1.session = c.session ∧
      (c.handleResponse socketOpens response handler).1.rtpReceiver = c.rtpReceiver) ↔
    ∀ state ∈ handler.entered, c.session.sessionState = state := by
  have hset : ∀ state : SessionState,
      ((c.setSessionState state).session = c.session ∧
        (c.setSessionState state).rtpReceiver = c.rtpReceiver) ↔
      ∀ state' ∈ some state, c.session.sessionState = state' := by
    intro state
    simp only [RtspClient.setSessionState, Option.mem_some_iff, forall_eq', and_true]
    exact ⟨fun h => (congrArg ClientSession.sessionState h).symm, fun h => by rw [← h]⟩
  have hnothing : ∀ state ∈ (none : Option SessionState), c.session.sessionState = state := by
    intro state hmem
    cases hmem
  cases handler with
  | setup =>
    have hstatus : response.statusCode < 200 ∨ 300 ≤ response.statusCode := by
      by_contra hnot
      rw [not_or, not_lt, not_le] at hnot
      exact hrefused hnot
    rw [RtspClient.handleResponse, RtspClient.setupHandler, if_pos hstatus]
    exact iff_of_true ⟨rfl, rfl⟩ hnothing
  | play => exact hset .playing
  | pause => exact hset .ready
  | teardown => exact hset .init
  | option => exact iff_of_true ⟨rfl, rfl⟩ hnothing
  | describe => exact iff_of_true ⟨rfl, rfl⟩ hnothing

/-- A single event of a conversation. -/
lemma Conversation.keepsWhenRefused_iff (x : Conversation) (event : ConversationEvent) :
    x.KeepsWhenRefused event ↔ x.RefusedInState event := by
  cases event with
  | send request responseHandler => exact Iff.rfl
  | read arrived bytesTransferred socketOpens =>
    simp only [Conversation.KeepsWhenRefused, Conversation.RefusedInState]
    refine forall_congr' fun _ => forall_congr' fun called => forall_congr' fun hcalled =>
      forall_congr' fun hrefused => ?_
    have hiff := handleResponse_of_refused (x.receive arrived bytesTransferred) socketOpens hrefused
      called.2
    obtain ⟨hsession, hreceiver⟩ := RtspClient.processResponse_of_called
      (c := x.receive arrived bytesTransferred) hcalled socketOpens
    rw [← hsession, ← hreceiver] at hiff
    exact hiff

/-- In a run every refusal leaves the client's session as it was, exactly where each one is for
SETUP or finds the session in the state that its handler sets. -/
theorem refusals_keep_session_iff (events : List ConversationEvent) :
    conversationSystem.Meets Conversation.KeepsWhenRefused {} events ↔
      conversationSystem.Meets Conversation.RefusedInState {} events :=
  System.meets_congr (I := fun _ => True) trivial (fun _ _ _ _ _ => trivial)
    (fun x event _ => x.keepsWhenRefused_iff event) events

/-- A client that is ready and whose PLAY is refused is playing. -/
theorem refusals_change_session :
    ¬conversationSystem.Meets Conversation.KeepsWhenRefused {}
      [.send { optionsRequest with methodOrExtension := str "SETUP" } .setup,
        .read (str ("RTSP/1.0 200 OK\r\nCSeq: 0\r\nSession: 1\r\n" ++
          "Transport: RTP/AVP/UDP;unicast;client_port=50000;ssrc=10000000;server_port=50002" ++
          "\r\n\r\n")) 122 true,
        .send { optionsRequest with methodOrExtension := str "PLAY" } .play,
        .read (str "RTSP/1.0 454 Session Not Found\r\nCSeq: 1\r\n\r\n") 43 true] := by
  rw [System.meets_congr (I := fun _ => True) trivial (fun _ _ _ _ _ => trivial)
    (fun x event _ => x.keepsWhenRefused_iff event)]
  decide +kernel

end Rtsp
