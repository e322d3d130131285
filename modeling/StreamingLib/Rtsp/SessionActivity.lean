import StreamingLib.Rtp.SenderActivity
import StreamingLib.Rtsp.Server.State

/-!
# Sessions and their senders

PLAY and PAUSE change the state of a session at once, but `stop` only dispatches a cancellation,
and `running_` is cleared by the handler of the cancelled wait. Between the two a session and its
sender disagree; this is about the states in which nothing of that is left.
-/

namespace Rtp

/-! ### Exhausted sources -/

/-- The next read finds the end of the source. -/
def IStream.Exhausted (st : IStream) : Prop :=
  st.readFrame.1 = .noLength ∨ st.readFrame.1 = .endOfFile

instance (st : IStream) : Decidable st.Exhausted := inferInstanceAs (Decidable (_ ∨ _))

lemma readFrame_of_not_good {st : IStream} (h : st.good = false) :
    st.readFrame = (.noLength, st) := by
  simp [IStream.readFrame, IStream.read, h]

lemma IStream.get_none {st : IStream} (h : st.get.1 = none) : st.get.2.good = false := by
  unfold IStream.get at h ⊢
  split at h
  · cases h
  · rfl

/-- The end of a source is not left. -/
lemma IStream.Exhausted.readFrame {st : IStream} (h : st.Exhausted) :
    st.readFrame.2.Exhausted := by
  suffices hgood : st.readFrame.2.good = false from
    Or.inl (congrArg Prod.fst (readFrame_of_not_good hgood))
  unfold IStream.Exhausted IStream.readFrame at h
  unfold IStream.readFrame
  dsimp only at h ⊢
  split_ifs at h ⊢ with hlength
  · unfold IStream.read at hlength ⊢
    split_ifs at hlength ⊢ with hgood
    · simpa using hlength
    · exact eq_false_of_ne_true hgood
  · split at h
    · simp at h
    · split at h
      · next hget =>
          have hgood := IStream.get_none (congrArg Prod.fst hget)
          rwa [hget] at hgood
      · split_ifs at h <;> simp at h

end Rtp

namespace Rtsp

open Rtp Transition

/-! ### Sessions with PLAY and PAUSE -/

inductive SessionEvent
  | play (request : InternalRequest)
  | pause (request : InternalRequest)
  | sender (event : SenderEvent)

def ServerSession.step (session : ServerSession) : SessionEvent → Option ServerSession
  | .play request => some (Rtsp.play session request).1
  | .pause request => some (Rtsp.pause session request).1
  | .sender event => session.stepSender event

/-- A session from when SETUP has given it a sender. -/
def sessionSystem : System ServerSession SessionEvent where
  init session := session.sessionState = .ready ∧
    ∃ ssrc source fecK sequenceNumber fecSequenceNumber,
      session.rtpSession = some (.new ssrc source fecK sequenceNumber fecSequenceNumber)
  step := ServerSession.step

/-- No dispatched start or cancel and no timer completion is left, and the source has not ended. -/
def Quiet (sender : Sender) : Prop :=
  sender.strand = [] ∧ sender.timer.fired = 0 ∧ sender.timer.aborted = 0 ∧
    ¬sender.jpegSource.Exhausted

instance (sender : Sender) : Decidable (Quiet sender) :=
  inferInstanceAs (Decidable (_ ∧ _ ∧ _ ∧ _))

/-- A playing sender runs and waits for its timer, and one that is ready does neither. -/
def Agree (state : SessionState) (sender : Sender) : Prop :=
  (state = .playing → sender.running = true ∧ sender.timer.pending = 1) ∧
    (state = .ready → sender.running = false ∧ sender.timer.pending = 0)

instance (state : SessionState) (sender : Sender) : Decidable (Agree state sender) :=
  inferInstanceAs (Decidable ((_ → _) ∧ (_ → _)))

/-- PLAY finds a sender that has stopped, a cancel finds the wait it is meant for, and the handler
finds a frame that it can send. -/
def Orderly (state : SessionState) (sender : Sender) : SessionEvent → Prop
  | .play _ => state = .ready → sender.running = false
  | .sender .strand => sender.strand.head? = some .cancel → sender.timer.pending ≠ 0
  | .sender (.handler _ _) =>
    sender.jpegSource.readFrame.1 ≠ .badLength ∧ ¬sender.CompletesOversizedGroup
  | _ => True

instance (state : SessionState) (sender : Sender) :
    (event : SessionEvent) → Decidable (Orderly state sender event)
  | .play _ => inferInstanceAs (Decidable (_ → _))
  | .sender .strand => inferInstanceAs (Decidable (_ → _))
  | .sender (.handler _ _) => inferInstanceAs (Decidable (_ ∧ _))
  | .pause _ | .sender .start | .sender .stop | .sender .expire | .sender .abortedHandler =>
    isTrue trivial

/-- As long as the source has not ended, every step is orderly. -/
def ServerSession.OrderlyUntilEnd (session : ServerSession) (event : SessionEvent) : Prop :=
  ∀ sender ∈ session.rtpSession, sender.jpegSource.Exhausted ∨
    Orderly session.sessionState sender event

instance (session : ServerSession) (event : SessionEvent) :
    Decidable (session.OrderlyUntilEnd event) :=
  inferInstanceAs (Decidable (∀ sender ∈ session.rtpSession, _ ∨ _))

/-! ### The invariant -/

/-- What a session and its sender are doing. -/
inductive Phase (state : SessionState) (s : Sender) : Prop
  | exhausted : s.jpegSource.Exhausted → Phase state s
  | playing : state = .playing → s.running = true → s.strand.count .cancel = 0 →
      s.timer.aborted = 0 → Phase state s
  | ready : state = .ready → s.running = false → s.strand.count .cancel = 0 → Phase state s
  | stopping : state = .ready → s.running = true →
      s.strand.count .cancel + s.timer.aborted = 1 → Phase state s

structure Coherent (state : SessionState) (s : Sender) : Prop where
  balanced : s.Balanced
  phase : Phase state s

/-- Nothing is to come of a sender that does not run. -/
lemma waits_of_not_running {s : Sender} (h : s.Balanced) (hrun : s.running = false) :
    s.timer.waits = 0 := by
  have hout : s.outstanding = 0 := by rw [h, hrun]; rfl
  unfold Sender.outstanding at hout
  omega

/-- A coherent sender whose queues are empty agrees with its session. -/
lemma Coherent.agree {state : SessionState} {s : Sender} (h : Coherent state s) (hs : Quiet s) :
    Agree state s := by
  obtain ⟨hstrand, hfired, haborted, hsource⟩ := hs
  have hwaits : s.timer.waits = s.timer.pending + s.timer.fired + s.timer.aborted := rfl
  have hout : s.outstanding = s.timer.waits := by simp [Sender.outstanding, hstrand]
  cases h.phase with
  | exhausted hend => exact absurd hend hsource
  | playing hstate hrun _ _ =>
    have hone := h.balanced.armed hrun
    refine ⟨fun _ => ⟨hrun, by omega⟩, fun hready => ?_⟩
    rw [hstate] at hready
    cases hready
  | ready hstate hrun _ =>
    have hzero := waits_of_not_running h.balanced hrun
    refine ⟨fun hplaying => ?_, fun _ => ⟨hrun, by omega⟩⟩
    rw [hstate] at hplaying
    cases hplaying
  | stopping _ _ hone =>
    rw [hstrand, haborted] at hone
    cases hone

/-! ### Steps -/

lemma start_jpegSource (s : Sender) : s.start.jpegSource = s.jpegSource := by
  unfold Sender.start
  split_ifs <;> rfl

lemma stop_jpegSource (s : Sender) : s.stop.jpegSource = s.jpegSource := by
  unfold Sender.stop
  split_ifs <;> rfl

lemma Coherent.start {s : Sender} (h : Coherent .ready s)
    (hok : s.jpegSource.Exhausted ∨ s.running = false) : Coherent .playing s.start := by
  refine ⟨h.balanced.start, ?_⟩
  rcases hok with hend | hrun
  · exact .exhausted ((start_jpegSource s).symm ▸ hend)
  · have hzero := waits_of_not_running h.balanced hrun
    have hstart : s.start = { s with running := true, strand := s.strand ++ [.arm] } := by
      rw [Sender.start, hrun]
      rfl
    have haborted : s.timer.aborted = 0 := by
      unfold Timer.waits at hzero
      omega
    cases h.phase with
    | exhausted hend => exact .exhausted ((start_jpegSource s).symm ▸ hend)
    | playing hstate _ _ _ => cases hstate
    | ready _ _ hcount =>
      rw [hstart]
      exact .playing rfl rfl (by simp [hcount]) haborted
    | stopping _ hrun' _ => rw [hrun] at hrun'; cases hrun'

lemma Coherent.stop {s : Sender} (h : Coherent .playing s) : Coherent .ready s.stop := by
  refine ⟨h.balanced.stop, ?_⟩
  cases h.phase with
  | exhausted hend => exact .exhausted ((stop_jpegSource s).symm ▸ hend)
  | playing _ hrun hcount haborted =>
    rw [Sender.stop, if_pos hrun]
    exact .stopping rfl hrun (by simp [hcount, haborted])
  | ready hstate _ _ => cases hstate
  | stopping hstate _ _ => cases hstate

/-- A dispatched start finds no wait. -/
lemma timer_of_arm {s : Sender} (h : s.Balanced) {cs : List Closure}
    (hs : s.strand = .arm :: cs) : s.running = true ∧ s.timer.waits = 0 := by
  unfold Sender.Balanced Sender.outstanding at h
  rw [hs, List.count_cons_self] at h
  cases hrun : s.running with
  | false =>
    rw [hrun, if_neg Bool.false_ne_true] at h
    omega
  | true =>
    rw [hrun, if_pos rfl] at h
    exact ⟨rfl, by omega⟩

lemma Coherent.strand {state : SessionState} {s : Sender} (h : Coherent state s) {c : Closure}
    {cs : List Closure} (hs : s.strand = c :: cs)
    (hok : s.jpegSource.Exhausted ∨ (c = .cancel → s.timer.pending ≠ 0)) :
    Coherent state { s with strand := cs, timer := c.run s.timer } := by
  refine ⟨h.balanced.strand hs, ?_⟩
  rcases hok with hend | hok
  · exact .exhausted hend
  cases c with
  | arm =>
    obtain ⟨hrun, hzero⟩ := timer_of_arm h.balanced hs
    have haborted : s.timer.arm.aborted = s.timer.aborted := by
      unfold Timer.waits at hzero
      simp only [Timer.arm, Timer.cancel]
      omega
    have hcount : cs.count .cancel = s.strand.count .cancel := by simp [hs]
    cases h.phase with
    | exhausted hend => exact .exhausted hend
    | playing hstate _ hcancel ha =>
      exact .playing hstate hrun (hcount.trans hcancel) (haborted.trans ha)
    | ready _ hstopped _ =>
      rw [hrun] at hstopped
      cases hstopped
    | stopping hstate _ hone =>
      exact .stopping hstate hrun (by rw [← hone, ← hcount, ← haborted]; rfl)
  | cancel =>
    have hpending := hok rfl
    have hwaits : s.timer.waits = s.timer.pending + s.timer.fired + s.timer.aborted := rfl
    obtain ⟨hrun, -, hone⟩ := h.balanced.of_waits (by omega)
    have hcount : s.strand.count .cancel = cs.count .cancel + 1 := by simp [hs]
    cases h.phase with
    | exhausted hend => exact .exhausted hend
    | playing _ _ hcancel _ => omega
    | ready _ _ hcancel => omega
    | stopping hstate _ hsum =>
      refine .stopping hstate hrun ?_
      simp only [Closure.run, Timer.cancel]
      omega

lemma Coherent.handler {state : SessionState} {s : Sender} (h : Coherent state s)
    (hfired : s.timer.fired ≠ 0) (dropMedia dropFec : Bool)
    (hok : s.jpegSource.Exhausted ∨
      s.jpegSource.readFrame.1 ≠ .badLength ∧ ¬s.CompletesOversizedGroup) :
    Coherent state (s.handled.sendNextPacketHandler false dropMedia dropFec).1 := by
  have hfits : ¬s.CompletesOversizedGroup := by
    rcases hok with hend | ⟨-, hfits⟩
    · rintro ⟨hdata, -⟩
      rcases hend with hend | hend <;> rw [hend] at hdata <;> cases hdata
    · exact hfits
  refine ⟨h.balanced.handler hfired hfits dropMedia dropFec, ?_⟩
  obtain ⟨hrun, -, htimer⟩ := h.balanced.handled hfired
  obtain ⟨hexit, hstrand, hsource⟩ := sendNextPacketHandler_exit s.handled dropMedia dropFec
  have hwaits : s.timer.waits = s.timer.pending + s.timer.fired + s.timer.aborted := rfl
  obtain ⟨-, -, hone⟩ := h.balanced.of_waits (by omega)
  have hkept : s.jpegSource.Exhausted →
      (s.handled.sendNextPacketHandler false dropMedia dropFec).1.jpegSource.Exhausted := by
    intro hend
    rw [hsource]
    exact hend.readFrame
  cases hexit with
  | ended hnodata _ _ =>
    apply Phase.exhausted
    apply hkept
    rcases hok with hend | ⟨hlength, -⟩
    · exact hend
    · cases hframe : s.jpegSource.readFrame.1 with
      | noLength => exact Or.inl hframe
      | badLength => exact absurd hframe hlength
      | endOfFile => exact Or.inr hframe
      | data data =>
        rw [show s.handled.jpegSource = s.jpegSource from rfl, hframe] at hnodata
        cases hnodata
  | rearmed _ hrun' htimer' =>
    have haborted : s.handled.timer.arm.aborted = 0 := by rw [htimer]; rfl
    cases h.phase with
    | exhausted hend => exact .exhausted (hkept hend)
    | playing hstate _ hcancel _ =>
      refine .playing hstate (hrun'.trans hrun) ?_ ?_
      · rw [hstrand]
        exact hcancel
      · rw [htimer', haborted]
    | ready _ hstopped _ =>
      rw [hrun] at hstopped
      cases hstopped
    | stopping hstate _ hsum =>
      refine .stopping hstate (hrun'.trans hrun) ?_
      rw [hstrand, htimer', haborted, show s.handled.strand = s.strand from rfl]
      omega
  | threw hthrows _ _ => exact absurd hthrows hfits

lemma Coherent.abortedHandler {state : SessionState} {s : Sender} (h : Coherent state s)
    (haborted : s.timer.aborted ≠ 0) :
    Coherent state (({ s with timer := { s.timer with aborted := s.timer.aborted - 1 } } :
      Sender).sendNextPacketHandler true false false).1 := by
  refine ⟨h.balanced.abortedHandler haborted, ?_⟩
  have hwaits : s.timer.waits = s.timer.pending + s.timer.fired + s.timer.aborted := rfl
  obtain ⟨hrun, -, -⟩ := h.balanced.of_waits (by omega)
  cases h.phase with
  | exhausted hend => exact .exhausted hend
  | playing _ _ _ hzero => exact absurd hzero haborted
  | ready _ hstopped _ =>
    rw [hrun] at hstopped
    cases hstopped
  | stopping hstate _ hsum =>
    have hcancel : s.strand.count .cancel = 0 := by omega
    exact .ready hstate rfl hcancel

/-- A queued handler of a sender keeps it coherent with its session. -/
lemma Coherent.step {state : SessionState} {s s' : Sender} {event : SenderEvent}
    (h : Coherent state s) (hqueued : isQueued event = true)
    (hok : s.jpegSource.Exhausted ∨ Orderly state s (.sender event))
    (hstep : s.step event = some s') : Coherent state s' := by
  cases event with
  | start => cases hqueued
  | stop => cases hqueued
  | strand =>
    rcases hs : s.strand with - | ⟨c, cs⟩ <;> simp only [Sender.step, hs] at hstep
    · cases hstep
    · cases hstep
      refine h.strand hs (hok.imp_right fun hok hc => hok ?_)
      rw [hs, hc]
      rfl
  | expire =>
    simp only [Sender.step] at hstep
    split_ifs at hstep
    cases hstep
    refine ⟨h.balanced.expire, ?_⟩
    cases h.phase with
    | exhausted hend => exact .exhausted hend
    | playing hstate hrun hcancel haborted => exact .playing hstate hrun hcancel haborted
    | ready hstate hrun hcancel => exact .ready hstate hrun hcancel
    | stopping hstate hrun hsum => exact .stopping hstate hrun hsum
  | handler dropMedia dropFec =>
    simp only [Sender.step] at hstep
    split_ifs at hstep with hfired
    cases hstep
    exact h.handler hfired dropMedia dropFec hok
  | abortedHandler =>
    simp only [Sender.step] at hstep
    split_ifs at hstep with haborted
    cases hstep
    exact h.abortedHandler haborted

/-! ### Runs -/

lemma coherent_of_reachable {session : ServerSession}
    (hs : sessionSystem.Reachable ServerSession.OrderlyUntilEnd session) :
    ∃ sender, session.rtpSession = some sender ∧ Coherent session.sessionState sender := by
  apply hs.invariant
  · rintro session ⟨hready, ssrc, source, fecK, sequenceNumber, fecSequenceNumber, hsender⟩
    refine ⟨_, hsender, balanced_new ssrc source fecK sequenceNumber fecSequenceNumber, ?_⟩
    exact .ready hready rfl rfl
  · rintro session event session' ⟨sender, hsender, hcoherent⟩ hok hstep
    have hok := hok sender hsender
    cases event with
    | play request =>
      cases hstep
      rcases play_cases session request with hkept | ⟨sender', response, hready, hs, -, hplay⟩
      · rw [hkept]
        exact ⟨sender, hsender, hcoherent⟩
      · obtain rfl := Option.some.inj (hsender.symm.trans hs)
        rw [hready] at hcoherent hok
        rw [hplay]
        exact ⟨_, rfl, hcoherent.start (hok.imp_right fun hok => hok rfl)⟩
    | pause request =>
      cases hstep
      rcases pause_cases session request with hkept | ⟨sender', response, hplaying, hs, -, hpause⟩
      · rw [hkept]
        exact ⟨sender, hsender, hcoherent⟩
      · obtain rfl := Option.some.inj (hsender.symm.trans hs)
        rw [hplaying] at hcoherent
        rw [hpause]
        exact ⟨_, rfl, hcoherent.stop⟩
    | sender event =>
      simp only [sessionSystem, ServerSession.step, ServerSession.stepSender] at hstep
      split_ifs at hstep with hqueued
      rw [hsender, Option.bind_some] at hstep
      obtain ⟨sender', hsender', rfl⟩ := Option.map_eq_some_iff.mp hstep
      exact ⟨sender', rfl, hcoherent.step hqueued hok hsender'⟩

/-- In every run that is orderly until the source ends, a session and its sender agree whenever
nothing is queued. -/
theorem session_agrees_when_quiet {session : ServerSession} {sender : Sender}
    (hs : sessionSystem.Reachable ServerSession.OrderlyUntilEnd session)
    (hsender : session.rtpSession = some sender) (hquiet : Quiet sender) :
    Agree session.sessionState sender := by
  obtain ⟨sender', hsender', hcoherent⟩ := coherent_of_reachable hs
  obtain rfl := Option.some.inj (hsender.symm.trans hsender')
  exact hcoherent.agree hquiet

/-- A session that has just been set up, with one frame to send. -/
def readySession : ServerSession where
  identifier := str "a"
  sessionState := .ready
  rtpSession := some (.new 7 (emptyFrames 1) none 1 1)

lemma readySession_init : sessionSystem.init readySession := ⟨rfl, _, _, _, _, _, rfl⟩

/-- A request that only carries a CSeq header. -/
def cseqRequest : InternalRequest := (default, normalizeHeaders [(str "CSeq", str "1")])

/-- PLAY and PAUSE, and PLAY again after the handler of the wait that PAUSE cancelled. -/
def replayedEvents : List SessionEvent :=
  [.play cseqRequest, .sender .strand, .pause cseqRequest, .sender .strand,
    .sender .abortedHandler, .play cseqRequest, .sender .strand]

theorem session_agrees_after_play :
    ∃ session ∈ sessionSystem.run readySession replayedEvents, ∃ sender ∈ session.rtpSession,
      Quiet sender ∧ session.sessionState = .playing ∧ Agree session.sessionState sender := by
  obtain ⟨session, hrun, hmeets, sender, hsender, hquiet, hplaying⟩ :
      ∃ session ∈ sessionSystem.run readySession replayedEvents,
        sessionSystem.Meets ServerSession.OrderlyUntilEnd readySession replayedEvents ∧
        ∃ sender ∈ session.rtpSession, Quiet sender ∧ session.sessionState = .playing := by
    decide +kernel
  have hreach : sessionSystem.Reachable ServerSession.OrderlyUntilEnd session :=
    System.Reachable.run (.init readySession_init) hmeets hrun
  exact ⟨session, hrun, sender, hsender, hquiet, hplaying,
    session_agrees_when_quiet hreach hsender hquiet⟩

/-- PLAY before the handler of the wait that PAUSE cancelled: the session plays and its sender
has stopped. -/
theorem session_disagrees_when_quiet :
    ¬∀ session sender, sessionSystem.Reachable Always session →
      session.rtpSession = some sender → Quiet sender → Agree session.sessionState sender := by
  intro h
  obtain ⟨session, hrun, sender, hsender, hquiet, hdisagree⟩ :
      ∃ session ∈ sessionSystem.run readySession [.play cseqRequest, .sender .strand,
          .pause cseqRequest, .sender .strand, .play cseqRequest, .sender .abortedHandler],
        ∃ sender ∈ session.rtpSession, Quiet sender ∧ ¬Agree session.sessionState sender := by
    decide
  exact hdisagree (h session sender (System.Reachable.run (.init readySession_init)
    (System.meets_always _ _ _) hrun) hsender hquiet)

end Rtsp
