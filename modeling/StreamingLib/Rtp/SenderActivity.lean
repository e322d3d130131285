import StreamingLib.Rtp.Sender

/-!
# Activity of the sender

A running sender has exactly one wait whose handler is still to come, or a dispatched closure that
will start one. Only an exception of the parity generator breaks this.
-/

namespace Rtp

open Transition

/-- Waits whose handler has not run. -/
def Timer.waits (t : Timer) : ℕ := t.pending + t.fired + t.aborted

/-- Waits whose handler has not run, and dispatched closures that will start one. -/
def Sender.outstanding (s : Sender) : ℕ := s.strand.count .arm + s.timer.waits

/-- A running sender has one wait to come. -/
def Sender.Armed (s : Sender) : Prop := s.running = true → s.outstanding = 1

/-- Cancelling the timer and running what is queued can clear `running_`. -/
def Sender.Stoppable (s : Sender) : Prop :=
  ∃ es s', .start ∉ es ∧ .expire ∉ es ∧ senderSystem.run s es = some s' ∧ s'.running = false

def Frame.isData : Frame → Bool
  | .data _ => true
  | _ => false

/-- The source holds a frame and the frame completes a group larger than the mask. -/
def Sender.CompletesOversizedGroup (s : Sender) : Prop :=
  s.jpegSource.readFrame.1.isData = true ∧
    ∃ g ∈ s.fecGenerator, g.currentFecK.toNat ≤ 1 ∧ 48 < g.fecK.toNat

instance (s : Sender) : Decidable s.CompletesOversizedGroup :=
  inferInstanceAs (Decidable (_ ∧ _))

/-- No wait expires before a frame that completes an oversized group. -/
def ExpiresInGroup (s : Sender) : SenderEvent → Prop
  | .expire => ¬s.CompletesOversizedGroup
  | _ => True

instance (s : Sender) : (e : SenderEvent) → Decidable (ExpiresInGroup s e)
  | .expire => inferInstanceAs (Decidable (¬_))
  | .start | .stop | .strand | .handler _ _ | .abortedHandler => isTrue trivial

/-! ### What a step can do -/

/-- The parity generator throws on a packet of a frame exactly at the end of an oversized group. -/
lemma generateNextFecPacket_throws {g : FecGenerator} {media : Octets} (h : 12 ≤ media.length)
    (seqNum : UInt16) :
    (∃ g' fault, g.generateNextFecPacket media seqNum = (g', .error fault)) ↔
      g.currentFecK.toNat ≤ 1 ∧ 48 < g.fecK.toNat := by
  by_cases hk : 1 < g.currentFecK.toNat
  · have hgen := generateNextFecPacket_collects hk h seqNum
    rw [hgen]
    constructor
    · rintro ⟨g', fault, heq⟩
      cases heq
    · intro hle
      omega
  · cases hmask : fecMaskOctets g.fecK with
    | some mask =>
      have hgen := generateNextFecPacket_completes (not_lt.mp hk) hmask h seqNum
      have hle := (fecMaskOctets_isSome g.fecK).mp (by rw [hmask]; rfl)
      rw [hgen]
      constructor
      · rintro ⟨g', fault, heq⟩
        cases heq
      · intro hlt
        omega
    | none =>
      have hlt : ¬g.fecK.toNat ≤ 48 := by
        rw [← fecMaskOctets_isSome, hmask]
        exact Bool.false_ne_true
      refine ⟨fun _ => ⟨not_lt.mp hk, not_le.mp hlt⟩, fun _ => ?_⟩
      have hk' : ¬g.currentFecK > 1 := hk
      rw [FecGenerator.generateNextFecPacket, if_neg (by omega)]
      dsimp only
      rw [if_neg hk', hmask]
      exact ⟨_, _, rfl⟩

lemma length_sentPacket (ssrc : UInt32) (sequenceNumber : UInt16) (data : Octets) :
    12 ≤ (customJpegPacketGenerator (sentPacket ssrc sequenceNumber data)).2.length := by
  simp [customJpegPacketGenerator, standardRtpHeaderGenerator, sentPacket, fixedHeader, bigWord,
    bigDword, Bytes.length_bigEndian]
  omega

/-- What `sendFec` leaves alone, and when it throws. -/
lemma sendFec_spec (s : Sender) {buffer : Octets} (hbuffer : 12 ≤ buffer.length)
    (timestamp : UInt32) (drop : Bool) :
    ((s.sendFec buffer timestamp drop).1.running = s.running ∧
      (s.sendFec buffer timestamp drop).1.timer = s.timer ∧
      (s.sendFec buffer timestamp drop).1.strand = s.strand ∧
      (s.sendFec buffer timestamp drop).1.jpegSource = s.jpegSource) ∧
    ((s.sendFec buffer timestamp drop).2 = none ↔
      ¬∃ g ∈ s.fecGenerator, g.currentFecK.toNat ≤ 1 ∧ 48 < g.fecK.toNat) := by
  cases hg : s.fecGenerator with
  | none => simp [Sender.sendFec, hg]
  | some g =>
    have hthrows := generateNextFecPacket_throws (g := g) hbuffer s.currentSequenceNumber
    simp only [Option.mem_def, Option.some.injEq, exists_eq_left', ← hthrows]
    rcases hgen : g.generateNextFecPacket buffer s.currentSequenceNumber with ⟨g', fault | packet⟩
    · simp [Sender.sendFec, hg, hgen]
    · rcases packet with - | packet
      · simp [Sender.sendFec, hg, hgen]
      · cases hdrop : s.channelFailure && drop <;> simp [Sender.sendFec, hg, hgen, hdrop]

lemma sendTo_spec (s : Sender) (drop : Bool) (datagram : Octets) :
    (s.sendTo drop datagram).running = s.running ∧ (s.sendTo drop datagram).timer = s.timer ∧
      (s.sendTo drop datagram).strand = s.strand ∧
      (s.sendTo drop datagram).jpegSource = s.jpegSource ∧
      (s.sendTo drop datagram).fecGenerator = s.fecGenerator := by
  unfold Sender.sendTo
  split_ifs <;> simp

/-- The ways out of `send_next_packet_handler` called without error. -/
inductive HandlerExit (s s' : Sender) : Prop
  | ended : s.jpegSource.readFrame.1.isData = false →
      s'.running = false → s'.timer = s.timer → HandlerExit s s'
  | rearmed : ¬s.CompletesOversizedGroup → s'.running = s.running →
      s'.timer = s.timer.arm → HandlerExit s s'
  | threw : s.CompletesOversizedGroup → s'.running = s.running → s'.timer = s.timer →
      HandlerExit s s'

/-- Without error the handler reads from the source and leaves by one of its ways out. -/
lemma sendNextPacketHandler_exit (s : Sender) (dropMedia dropFec : Bool) :
    HandlerExit s (s.sendNextPacketHandler false dropMedia dropFec).1 ∧
      (s.sendNextPacketHandler false dropMedia dropFec).1.strand = s.strand ∧
      (s.sendNextPacketHandler false dropMedia dropFec).1.jpegSource =
        s.jpegSource.readFrame.2 := by
  unfold Sender.sendNextPacketHandler
  rw [if_neg Bool.false_ne_true]
  rcases hframe : s.jpegSource.readFrame with ⟨frame, source⟩
  cases frame with
  | noLength => exact ⟨.ended (by rw [hframe]; rfl) rfl rfl, rfl, rfl⟩
  | badLength => exact ⟨.ended (by rw [hframe]; rfl) rfl rfl, rfl, rfl⟩
  | endOfFile => exact ⟨.ended (by rw [hframe]; rfl) rfl rfl, rfl, rfl⟩
  | data data =>
    dsimp only
    generalize hbuffer : (customJpegPacketGenerator
      (sentPacket s.ssrc s.currentSequenceNumber data)).2 = buffer
    generalize hs₁ : ({ s with jpegSource := source } : Sender).sendTo dropMedia buffer = s₁
    have hlength : 12 ≤ buffer.length := by
      rw [← hbuffer]
      exact length_sentPacket s.ssrc s.currentSequenceNumber data
    obtain ⟨hrun₁, htimer₁, hstrand₁, hsource₁, hfec₁⟩ :=
      sendTo_spec { s with jpegSource := source } dropMedia buffer
    rw [hs₁] at hrun₁ htimer₁ hstrand₁ hsource₁ hfec₁
    obtain ⟨⟨hrun₂, htimer₂, hstrand₂, hsource₂⟩, hfault⟩ := sendFec_spec s₁ hlength
      (sentPacket s.ssrc s.currentSequenceNumber data).header.timestamp dropFec
    rw [hfec₁] at hfault
    have hoversized : s.CompletesOversizedGroup ↔
        ∃ g ∈ s.fecGenerator, g.currentFecK.toNat ≤ 1 ∧ 48 < g.fecK.toNat :=
      and_iff_right (by rw [hframe]; rfl)
    rw [← hoversized] at hfault
    generalize (sentPacket s.ssrc s.currentSequenceNumber data).header.timestamp = timestamp at *
    rcases hsend : s₁.sendFec buffer timestamp dropFec with ⟨s₂, - | fault⟩ <;>
      rw [hsend] at hrun₂ htimer₂ hstrand₂ hsource₂ hfault
    · refine ⟨.rearmed (hfault.mp rfl) (hrun₂.trans hrun₁) ?_, hstrand₂.trans hstrand₁,
        hsource₂.trans hsource₁⟩
      exact congrArg Timer.arm (htimer₂.trans htimer₁)
    · refine ⟨.threw ?_ (hrun₂.trans hrun₁) (htimer₂.trans htimer₁), hstrand₂.trans hstrand₁,
        hsource₂.trans hsource₁⟩
      by_contra h
      exact absurd (hfault.mpr h) (Option.some_ne_none _)

/-! ### The invariant -/

lemma Timer.waits_cancel (t : Timer) : t.cancel.waits = t.waits := by
  simp only [Timer.waits, Timer.cancel]
  omega

lemma Timer.waits_arm (t : Timer) : t.arm.waits = t.waits + 1 := by
  simp only [Timer.waits, Timer.arm, Timer.cancel]
  omega

lemma Timer.waits_expire (t : Timer) : t.expire.waits = t.waits := by
  simp only [Timer.waits, Timer.expire]
  omega

/-- A running sender has one wait to come and another has none. -/
def Sender.Balanced (s : Sender) : Prop := s.outstanding = if s.running then 1 else 0

lemma Sender.Balanced.armed {s : Sender} (h : s.Balanced) : s.Armed := by
  intro hrun
  rw [h, if_pos hrun]

/-- A queued handler belongs to the one wait of a running sender. -/
lemma Sender.Balanced.of_waits {s : Sender} (h : s.Balanced) (hwaits : 0 < s.timer.waits) :
    s.running = true ∧ s.strand.count .arm = 0 ∧ s.timer.waits = 1 := by
  unfold Sender.Balanced Sender.outstanding at h
  cases hrun : s.running with
  | false =>
    rw [hrun, if_neg Bool.false_ne_true] at h
    omega
  | true =>
    rw [hrun, if_pos rfl] at h
    exact ⟨rfl, by omega, by omega⟩

lemma balanced_new (ssrc : UInt32) (source : IStream) (fecK : Option UInt16)
    (sequenceNumber fecSequenceNumber : UInt16) :
    (Sender.new ssrc source fecK sequenceNumber fecSequenceNumber).Balanced := rfl

lemma Sender.Balanced.start {s : Sender} (h : s.Balanced) : s.start.Balanced := by
  unfold Sender.start
  split_ifs with hrun
  · exact h
  · unfold Sender.Balanced at h ⊢
    rw [if_neg hrun] at h
    simp only [Sender.outstanding, List.count_append] at h ⊢
    simp only [if_true, List.count_singleton_self]
    omega

lemma Sender.Balanced.stop {s : Sender} (h : s.Balanced) : s.stop.Balanced := by
  unfold Sender.stop
  split_ifs
  · refine Eq.trans ?_ h
    simp [Sender.outstanding]
  · exact h

lemma Sender.Balanced.strand {s : Sender} (h : s.Balanced) {c : Closure} {cs : List Closure}
    (hs : s.strand = c :: cs) :
    ({ s with strand := cs, timer := c.run s.timer } : Sender).Balanced := by
  refine Eq.trans ?_ h
  cases c with
  | arm =>
    simp only [Sender.outstanding, hs, Closure.run, Timer.waits_arm, List.count_cons_self]
    omega
  | cancel => simp [Sender.outstanding, hs, Closure.run, Timer.waits_cancel]

lemma Sender.Balanced.expire {s : Sender} (h : s.Balanced) :
    ({ s with timer := s.timer.expire } : Sender).Balanced := by
  refine Eq.trans ?_ h
  simp only [Sender.outstanding, Timer.waits_expire]

/-- The sender as its handler of an expired wait is called. -/
def Sender.handled (s : Sender) : Sender :=
  { s with timer := { s.timer with fired := s.timer.fired - 1 } }

/-- While a handler of an expired wait is called nothing else is to come. -/
lemma Sender.Balanced.handled {s : Sender} (h : s.Balanced) (hfired : s.timer.fired ≠ 0) :
    s.running = true ∧ s.strand.count .arm = 0 ∧ s.handled.timer = {} := by
  have hwaits : s.timer.waits = s.timer.pending + s.timer.fired + s.timer.aborted := rfl
  obtain ⟨hrun, hcount, hone⟩ := h.of_waits (by omega)
  refine ⟨hrun, hcount, ?_⟩
  simp only [Sender.handled, Timer.mk.injEq]
  omega

lemma Sender.Balanced.handler {s : Sender} (h : s.Balanced) (hfired : s.timer.fired ≠ 0)
    (hfits : ¬s.CompletesOversizedGroup) (dropMedia dropFec : Bool) :
    (s.handled.sendNextPacketHandler false dropMedia dropFec).1.Balanced := by
  obtain ⟨hrun, hcount, htimer⟩ := h.handled hfired
  obtain ⟨hexit, hstrand, -⟩ := sendNextPacketHandler_exit s.handled dropMedia dropFec
  unfold Sender.Balanced Sender.outstanding
  rw [hstrand]
  cases hexit with
  | ended _ hrun' htimer' =>
    rw [htimer', htimer, hrun']
    exact hcount
  | rearmed _ hrun' htimer' =>
    rw [htimer', htimer, hrun', show s.handled.running = true from hrun]
    exact congrArg (· + 1) hcount
  | threw hthrows _ _ => exact absurd hthrows hfits

lemma Sender.Balanced.abortedHandler {s : Sender} (h : s.Balanced)
    (haborted : s.timer.aborted ≠ 0) :
    (({ s with timer := { s.timer with aborted := s.timer.aborted - 1 } } :
      Sender).sendNextPacketHandler true false false).1.Balanced := by
  have hwaits : s.timer.waits = s.timer.pending + s.timer.fired + s.timer.aborted := rfl
  obtain ⟨-, hcount, hone⟩ := h.of_waits (by omega)
  simp only [Sender.sendNextPacketHandler, Sender.Balanced, Sender.outstanding, Timer.waits]
  simp only [if_true, Bool.false_eq_true, if_false]
  omega

/-- A handler that is called without error does not end a group larger than the mask. -/
def HandlesInGroup (s : Sender) : SenderEvent → Prop
  | .handler _ _ => ¬s.CompletesOversizedGroup
  | _ => True

/-- Only the end of an oversized group leaves a sender out of balance. -/
theorem Sender.Balanced.step {s s' : Sender} {e : SenderEvent} (h : s.Balanced)
    (hok : HandlesInGroup s e) (hstep : s.step e = some s') : s'.Balanced := by
  cases e with
  | start =>
    cases hstep
    exact h.start
  | stop =>
    cases hstep
    exact h.stop
  | strand =>
    rcases hs : s.strand with - | ⟨c, cs⟩ <;> simp only [Sender.step, hs] at hstep
    · cases hstep
    · cases hstep
      exact h.strand hs
  | expire =>
    simp only [Sender.step] at hstep
    split_ifs at hstep
    cases hstep
    exact h.expire
  | handler dropMedia dropFec =>
    simp only [Sender.step] at hstep
    split_ifs at hstep with hfired
    cases hstep
    exact h.handler hfired hok dropMedia dropFec
  | abortedHandler =>
    simp only [Sender.step] at hstep
    split_ifs at hstep with haborted
    cases hstep
    exact h.abortedHandler haborted

/-- A balanced sender of which no expired wait will end in an exception. -/
structure Activity (s : Sender) : Prop where
  balanced : s.Balanced
  fired : 0 < s.timer.fired → ¬s.CompletesOversizedGroup

/-- Only `send_next_packet_handler` moves the source and the parity generator. -/
lemma Activity.step_fired {s s' : Sender} {e : SenderEvent} (h : Activity s)
    (hok : ExpiresInGroup s e) (hstep : s.step e = some s') :
    0 < s'.timer.fired → ¬s'.CompletesOversizedGroup := by
  cases e with
  | start =>
    cases hstep
    unfold Sender.start
    split_ifs <;> exact h.fired
  | stop =>
    cases hstep
    unfold Sender.stop
    split_ifs <;> exact h.fired
  | strand =>
    rcases hs : s.strand with - | ⟨c, cs⟩ <;> simp only [Sender.step, hs] at hstep
    · cases hstep
    · cases hstep
      cases c with
      | arm => exact h.fired
      | cancel => exact h.fired
  | expire =>
    simp only [Sender.step] at hstep
    split_ifs at hstep
    cases hstep
    exact fun _ => hok
  | handler dropMedia dropFec =>
    simp only [Sender.step] at hstep
    split_ifs at hstep with hfired
    cases hstep
    obtain ⟨-, -, htimer⟩ := h.balanced.handled hfired
    obtain ⟨hexit, -, -⟩ := sendNextPacketHandler_exit s.handled dropMedia dropFec
    intro hpos
    change 0 < (s.handled.sendNextPacketHandler false dropMedia dropFec).1.timer.fired at hpos
    cases hexit with
    | ended _ _ htimer' =>
      rw [htimer', htimer] at hpos
      exact absurd hpos (lt_irrefl 0)
    | rearmed _ _ htimer' =>
      rw [htimer', htimer] at hpos
      exact absurd hpos (lt_irrefl 0)
    | threw hthrows _ _ => exact absurd hthrows (h.fired (Nat.pos_of_ne_zero hfired))
  | abortedHandler =>
    simp only [Sender.step] at hstep
    split_ifs at hstep with haborted
    cases hstep
    exact h.fired

/-- Every step keeps the activity unless a wait expires before an oversized group is complete. -/
theorem Activity.step {s s' : Sender} {e : SenderEvent} (h : Activity s)
    (hok : ExpiresInGroup s e) (hstep : s.step e = some s') : Activity s' := by
  refine ⟨h.balanced.step ?_ hstep, h.step_fired hok hstep⟩
  cases e with
  | handler dropMedia dropFec =>
    simp only [Sender.step] at hstep
    split_ifs at hstep with hfired
    exact h.fired (Nat.pos_of_ne_zero hfired)
  | start | stop | strand | expire | abortedHandler => trivial

lemma activity_of_reachable {s : Sender} (hs : senderSystem.Reachable ExpiresInGroup s) :
    Activity s := by
  apply hs.invariant
  · rintro _ ⟨ssrc, source, fecK, sequenceNumber, fecSequenceNumber, rfl⟩
    exact ⟨balanced_new ssrc source fecK sequenceNumber fecSequenceNumber,
      fun h => absurd h (lt_irrefl 0)⟩
  · intro s e s' h hok hstep
    exact h.step hok hstep

/-! ### Stopping -/

lemma stoppable_of_stopped {s : Sender} (h : s.running = false) : s.Stoppable :=
  ⟨[], s, List.not_mem_nil, List.not_mem_nil, rfl, h⟩

lemma Sender.Stoppable.of_step {s t : Sender} {e : SenderEvent} (ht : t.Stoppable)
    (hstep : s.step e = some t) (hstart : .start ≠ e) (hexpire : .expire ≠ e) : s.Stoppable := by
  obtain ⟨es, s', hstarts, hexpires, hrun, hstopped⟩ := ht
  refine ⟨e :: es, s', ?_, ?_, ?_, hstopped⟩
  · simp [hstart, hstarts]
  · simp [hexpire, hexpires]
  · exact Option.bind_eq_some_iff.mpr ⟨t, hstep, hrun⟩

lemma stoppable_of_aborted {s : Sender} (haborted : s.timer.aborted ≠ 0) : s.Stoppable := by
  have hstep : s.step .abortedHandler = some _ := if_neg haborted
  exact Sender.Stoppable.of_step (stoppable_of_stopped rfl) hstep nofun nofun

lemma Sender.Balanced.stoppable_of_pending {s : Sender} (h : s.Balanced) (hstrand : s.strand = [])
    (hpending : s.timer.pending ≠ 0) : s.Stoppable := by
  have hwaits : s.timer.waits = s.timer.pending + s.timer.fired + s.timer.aborted := rfl
  obtain ⟨hrun, -, -⟩ := h.of_waits (by omega)
  have hstop : s.step .stop = some { s with strand := [.cancel] } := by
    simp [Sender.step, Sender.stop, hrun, hstrand]
  have hcancel : ({ s with strand := [.cancel] } : Sender).step .strand =
      some { s with strand := [], timer := s.timer.cancel } := rfl
  have haborted : s.timer.cancel.aborted ≠ 0 := by
    simp only [Timer.cancel]
    omega
  have hstopped : ({ s with strand := [], timer := s.timer.cancel } : Sender).Stoppable :=
    stoppable_of_aborted haborted
  exact (hstopped.of_step hcancel nofun nofun).of_step hstop nofun nofun

lemma Activity.stoppable_of_fired {s : Sender} (h : Activity s) (hstrand : s.strand = [])
    (hfired : s.timer.fired ≠ 0) : s.Stoppable := by
  have hstep : s.step (.handler false false) = some _ := if_neg hfired
  have hfits := h.fired (Nat.pos_of_ne_zero hfired)
  have hbalanced := h.balanced.handler hfired hfits false false
  obtain ⟨hexit, hstrand', -⟩ := sendNextPacketHandler_exit s.handled false false
  refine Sender.Stoppable.of_step ?_ hstep nofun nofun
  cases hexit with
  | ended _ hrun _ => exact stoppable_of_stopped hrun
  | rearmed _ _ htimer =>
    apply hbalanced.stoppable_of_pending (hstrand'.trans hstrand)
    rw [htimer]
    exact one_ne_zero
  | threw hthrows _ _ => exact absurd hthrows hfits

lemma Activity.stoppable_of_strand_nil {s : Sender} (h : Activity s) (hstrand : s.strand = []) :
    s.Stoppable := by
  cases hrun : s.running with
  | false => exact stoppable_of_stopped hrun
  | true =>
    have hout := h.balanced.armed hrun
    have hcount : s.strand.count .arm = 0 := by rw [hstrand]; rfl
    rw [Sender.outstanding, hcount, Timer.waits] at hout
    by_cases hpending : s.timer.pending = 0
    · by_cases hfired : s.timer.fired = 0
      · exact stoppable_of_aborted (by omega)
      · exact h.stoppable_of_fired hstrand hfired
    · exact h.balanced.stoppable_of_pending hstrand hpending

/-- The strand first runs what has been dispatched. -/
lemma Activity.stoppable {s : Sender} (h : Activity s) : s.Stoppable := by
  induction hs : s.strand generalizing s with
  | nil => exact h.stoppable_of_strand_nil hs
  | cons c cs ih =>
    have hstep : s.step .strand = some { s with strand := cs, timer := c.run s.timer } := by
      simp [Sender.step, hs]
    exact (ih (h.step (e := .strand) trivial hstep) rfl).of_step hstep nofun nofun

/-! ### Runs -/

/-- The exception leaves a running sender without a wait. -/
lemma Sender.Balanced.not_armed {s : Sender} (h : s.Balanced) (hfired : s.timer.fired ≠ 0)
    (hoversized : s.CompletesOversizedGroup) (dropMedia dropFec : Bool) :
    ¬(s.handled.sendNextPacketHandler false dropMedia dropFec).1.Armed := by
  obtain ⟨hrun, hcount, htimer⟩ := h.handled hfired
  obtain ⟨hexit, hstrand, -⟩ := sendNextPacketHandler_exit s.handled dropMedia dropFec
  intro harmed
  cases hexit with
  | ended hnodata _ _ => exact absurd (hoversized.1.symm.trans hnodata) (Bool.false_ne_true ·.symm)
  | rearmed hfits _ _ => exact hfits hoversized
  | threw _ hrun' htimer' =>
    have hout := harmed (hrun'.trans hrun)
    rw [Sender.outstanding, hstrand, htimer', htimer] at hout
    exact absurd (hcount.symm.trans hout) zero_ne_one

lemma run_expire_handler {s t : Sender} {dropMedia dropFec : Bool}
    (h : senderSystem.run s [.expire, .handler dropMedia dropFec] = some t) :
    ({ s with timer := s.timer.expire } : Sender).timer.fired ≠ 0 ∧
      t = (({ s with timer := s.timer.expire } : Sender).handled.sendNextPacketHandler false
        dropMedia dropFec).1 := by
  simp only [System.run, senderSystem, Option.bind_eq_some_iff, Option.some.injEq] at h
  obtain ⟨s₁, hexpire, s₂, hhandler, rfl⟩ := h
  simp only [Sender.step] at hexpire
  split_ifs at hexpire
  cases hexpire
  simp only [Sender.step] at hhandler
  split_ifs at hhandler with hfired
  cases hhandler
  exact ⟨hfired, rfl⟩

/-- While no wait expires before a frame that completes an oversized group, a running sender has
one wait to come and can be stopped. The first such wait leaves it without one. -/
theorem sender_active_iff {s : Sender} (hs : senderSystem.Reachable ExpiresInGroup s) :
    (s.Armed ∧ s.Stoppable) ∧
    ∀ t dropMedia dropFec, ¬ExpiresInGroup s .expire →
      senderSystem.run s [.expire, .handler dropMedia dropFec] = some t → ¬t.Armed := by
  have hactivity := activity_of_reachable hs
  refine ⟨⟨hactivity.balanced.armed, hactivity.stoppable⟩, ?_⟩
  intro t dropMedia dropFec hok hrun
  obtain ⟨hfired, rfl⟩ := run_expire_handler hrun
  exact hactivity.balanced.expire.not_armed hfired (not_not.mp hok) dropMedia dropFec

/-- A source of `n` empty frames. -/
def emptyFrames (n : ℕ) : IStream := { chars := (List.replicate n (Rtsp.str "00000-")).flatten }

/-- `n` waits that expire and are handled in turn. -/
def frameEvents (n : ℕ) : List SenderEvent :=
  (List.replicate n [.expire, .handler false false]).flatten

/-- The sender of 49 frames in one group, up to the last frame and after it. -/
lemma run_emptyFrames_49 :
    ∃ s ∈ senderSystem.run (.new 7 (emptyFrames 49) (some 49) 1 1)
        (.start :: .strand :: frameEvents 48),
      senderSystem.Meets ExpiresInGroup (.new 7 (emptyFrames 49) (some 49) 1 1)
        (.start :: .strand :: frameEvents 48) ∧
      ¬ExpiresInGroup s .expire ∧
      ∃ t ∈ senderSystem.run s [.expire, .handler false false],
        t.running = true ∧ t.outstanding = 0 := by
  decide +kernel

theorem sender_active_49 :
    ∃ s t, (s.Armed ∧ s.Stoppable) ∧
      senderSystem.run s [.expire, .handler false false] = some t ∧ ¬t.Armed := by
  obtain ⟨s, hs, hmeets, hok, t, ht, -, -⟩ := run_emptyFrames_49
  have hreach : senderSystem.Reachable ExpiresInGroup s :=
    System.Reachable.run (.init ⟨7, emptyFrames 49, some 49, 1, 1, rfl⟩) hmeets hs
  obtain ⟨hactive, hinactive⟩ := sender_active_iff hreach
  exact ⟨s, t, hactive, ht, hinactive t false false hok ht⟩

/-- After the last frame of a group of 49 the sender is running and nothing is to come. -/
theorem sender_not_active :
    ¬∀ s, senderSystem.Reachable Always s → s.Armed ∧ s.Stoppable := by
  intro h
  obtain ⟨s, hs, -, -, t, ht, hrun, hout⟩ := run_emptyFrames_49
  have hinit : senderSystem.Reachable Always (.new 7 (emptyFrames 49) (some 49) 1 1) :=
    .init ⟨_, _, _, _, _, rfl⟩
  have hreach := (hinit.run (System.meets_always _ _ _) hs).run (System.meets_always _ _ _) ht
  have harmed := (h t hreach).1 hrun
  rw [hout] at harmed
  exact zero_ne_one harmed

end Rtp
