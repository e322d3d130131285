import StreamingLib.Rtp.Movie

/-!
# Timestamps

The timestamp of a media packet is computed from its sequence number. It advances by one frame
period from packet to packet until the sequence number, of 16 bits, starts again at zero.
-/

namespace Rtp

open Transition

/-! ### Histories -/

/-- A sender with the media packet that it built last. -/
structure SenderHistory where
  sender : Sender
  last : Option CustomJpegPacket := none

/-- The packet that is built in a step. -/
def Sender.builtBy (s : Sender) : SenderEvent → Option CustomJpegPacket
  | .handler _ _ => if s.timer.fired = 0 then none else s.builtPacket
  | .start | .stop | .strand | .expire | .abortedHandler => none

/-- The sender with its media packets. -/
def senderHistories : System SenderHistory SenderEvent where
  init s := senderSystem.init s.sender ∧ s.last = none
  step s e := (s.sender.step e).map fun sender =>
    { sender := sender, last := (s.sender.builtBy e).or s.last }

/-- `frame_period * 90`. -/
def timestampStep : UInt32 := 40 * 90

/-- A packet is one frame period later than the packet before it. -/
def SenderHistory.Steady (s : SenderHistory) (e : SenderEvent) : Prop :=
  ∀ p ∈ s.sender.builtBy e, ∀ q ∈ s.last, p.header.timestamp = q.header.timestamp + timestampStep

/-- A packet is built after another one with the sequence number zero. -/
def SenderHistory.StartsAgain (s : SenderHistory) (e : SenderEvent) : Prop :=
  (s.sender.builtBy e).isSome ∧ s.last.isSome ∧ s.sender.currentSequenceNumber = 0

/-! ### The timestamp of a sequence number -/

lemma timestamp_sentPacket (ssrc : UInt32) (number : UInt16) (data : Octets) :
    (sentPacket ssrc number data).header.timestamp = UInt32.ofNat (number.toNat * 40 * 90) := rfl

/-- The numbers before and after differ by one frame period unless the later one is zero. -/
lemma timestamp_add_one_iff (number : UInt16) :
    UInt32.ofNat ((number + 1).toNat * 40 * 90) =
      UInt32.ofNat (number.toNat * 40 * 90) + timestampStep ↔ number + 1 ≠ 0 := by
  have hlt : number.toNat < 65536 := number.toNat_lt
  have hstep : timestampStep.toNat = 3600 := by decide
  have hzero : (0 : UInt16).toNat = 0 := rfl
  have hnumber : (number + 1).toNat = (number.toNat + 1) % 65536 := by
    rw [UInt16.toNat_add]
    rfl
  rw [← UInt32.toNat_inj, ne_eq, ← UInt16.toNat_inj, UInt32.toNat_add, hstep, hnumber, hzero,
    UInt32.toNat_ofNat', UInt32.toNat_ofNat']
  by_cases hmax : number.toNat = 65535
  · rw [hmax]
    decide
  · rw [Nat.mod_eq_of_lt (show number.toNat + 1 < 65536 by omega)]
    omega

/-! ### Steps -/

/-- The sender is about to use the number after that of the last packet. -/
structure SenderHistory.Counts (s : SenderHistory) : Prop where
  balanced : s.sender.Balanced
  last : ∀ q ∈ s.last, ∃ number ssrc data, q = sentPacket ssrc number data ∧
    s.sender.currentSequenceNumber = number + 1

namespace SenderHistory

variable {s s' : SenderHistory} {e : SenderEvent}

/-- A step that builds a packet gives it the current number. -/
lemma exists_of_builtBy {s : Sender} {p : CustomJpegPacket} (h : s.builtBy e = some p) :
    ∃ dropMedia dropFec data, e = .handler dropMedia dropFec ∧ s.builtPacket = some p ∧
      p = sentPacket s.ssrc s.currentSequenceNumber data := by
  cases e with
  | handler dropMedia dropFec =>
    simp only [Sender.builtBy] at h
    split_ifs at h
    obtain ⟨data, -, hp⟩ := isData_of_builtPacket h
    exact ⟨dropMedia, dropFec, data, rfl, h, hp⟩
  | start | stop | strand | expire | abortedHandler => cases h

lemma Counts.step (h : s.Counts) (hstep : senderHistories.step s e = some s') :
    s'.sender.Stuck ∨ s'.Counts := by
  simp only [senderHistories, Option.map_eq_some_iff] at hstep
  obtain ⟨sender, hsender, rfl⟩ := hstep
  cases he : e.isHandler with
  | false =>
    obtain ⟨-, hnumber, hok⟩ := Sender.step_other he hsender
    have hnone : s.sender.builtBy e = none := by
      cases e with
      | handler dropMedia dropFec => cases he
      | start | stop | strand | expire | abortedHandler => rfl
    refine .inr ⟨h.balanced.step hok hsender, fun q hq => ?_⟩
    simp only [hnone, Option.none_or] at hq
    obtain ⟨number, ssrc, data, hq, hcurrent⟩ := h.last q hq
    exact ⟨number, ssrc, data, hq, hnumber.trans hcurrent⟩
  | true =>
    cases e with
    | handler dropMedia dropFec =>
      by_cases hoversized : s.sender.CompletesOversizedGroup
      · exact .inl (h.balanced.stuck hoversized hsender)
      · have hbalanced := h.balanced.step (e := .handler dropMedia dropFec) hoversized hsender
        obtain ⟨hfired, rfl⟩ := Sender.step_handler hsender
        refine .inr ⟨hbalanced, fun q hq => ?_⟩
        simp only [Sender.builtBy, if_neg hfired] at hq
        cases hbuilt : s.sender.builtPacket with
        | none =>
          rw [hbuilt, Option.none_or] at hq
          obtain ⟨number, ssrc, data, hq, hcurrent⟩ := h.last q hq
          have hkept := (sendNextPacketHandler_not_built (s := s.sender.handled) hbuilt dropMedia
            dropFec).2.2
          exact ⟨number, ssrc, data, hq, hkept.trans hcurrent⟩
        | some p =>
          rw [hbuilt, Option.some_or] at hq
          cases hq
          obtain ⟨data, -, rfl⟩ := isData_of_builtPacket hbuilt
          have hcounted := (sendNextPacketHandler_built (s := s.sender.handled) hbuilt dropMedia
            dropFec).2 hoversized
          exact ⟨s.sender.currentSequenceNumber, _, data, rfl, hcounted⟩
    | start | stop | strand | expire | abortedHandler => cases he

/-- A sender that is stuck builds nothing. -/
lemma builtBy_of_stuck {s : Sender} (h : s.Stuck) (e : SenderEvent) : s.builtBy e = none := by
  cases e with
  | handler dropMedia dropFec => rw [Sender.builtBy, if_pos h.waits.2.1]
  | start | stop | strand | expire | abortedHandler => rfl

/-- Of one step. -/
lemma steady_iff (h : s.sender.Stuck ∨ s.Counts) (e : SenderEvent) :
    s.Steady e ↔ ¬s.StartsAgain e := by
  unfold Steady StartsAgain
  rcases h with hstuck | hcounts
  · simp [builtBy_of_stuck hstuck]
  · cases hbuilt : s.sender.builtBy e with
    | none => simp
    | some p =>
      cases hlast : s.last with
      | none => simp
      | some q =>
        obtain ⟨number, ssrc, data, rfl, hcurrent⟩ := hcounts.last q hlast
        obtain ⟨-, -, data', -, -, rfl⟩ := exists_of_builtBy hbuilt
        simp only [Option.mem_def, Option.some.injEq, forall_eq', Option.isSome_some, true_and,
          timestamp_sentPacket, hcurrent, timestamp_add_one_iff]

/-- A sender before its first packet. -/
def new (sender : Sender) : SenderHistory where
  sender := sender

lemma counts_step (h : s.sender.Stuck ∨ s.Counts) (hstep : senderHistories.step s e = some s') :
    s'.sender.Stuck ∨ s'.Counts := by
  rcases h with hstuck | hcounts
  · simp only [senderHistories, Option.map_eq_some_iff] at hstep
    obtain ⟨sender, hsender, rfl⟩ := hstep
    exact .inl (hstuck.step hsender).1
  · exact hcounts.step hstep

lemma counts_new (ssrc : UInt32) (source : IStream) (fecK : Option UInt16)
    (sequenceNumber fecSequenceNumber : UInt16) :
    (new (.new ssrc source fecK sequenceNumber fecSequenceNumber)).Counts := by
  refine ⟨balanced_new _ _ _ _ _, fun q hq => ?_⟩
  cases hq

lemma counts_of_run (hs : s.Counts) {es : List SenderEvent}
    (hrun : senderHistories.run s es = some s') : s'.sender.Stuck ∨ s'.Counts := by
  apply System.run_invariant (I := fun _ s => s.sender.Stuck ∨ s.Counts)
    (System.meets_always senderHistories s es) hrun (.inr hs)
  exact fun _ _ _ _ h _ hstep => counts_step h hstep

end SenderHistory

/-- In every run of a sender, consecutive media packets are one frame period apart exactly as long
as no packet after the first one has the sequence number zero. -/
theorem timestamps_steady_iff (ssrc : UInt32) (source : IStream) (fecK : Option UInt16)
    (sequenceNumber fecSequenceNumber : UInt16) (es : List SenderEvent) :
    senderHistories.Meets SenderHistory.Steady
        (.new (.new ssrc source fecK sequenceNumber fecSequenceNumber)) es ↔
      senderHistories.Meets (fun s e => ¬s.StartsAgain e)
        (.new (.new ssrc source fecK sequenceNumber fecSequenceNumber)) es := by
  apply System.meets_congr (I := fun s => s.sender.Stuck ∨ s.Counts)
  · exact .inr (SenderHistory.counts_new _ _ _ _ _)
  · exact fun _ _ _ => SenderHistory.counts_step
  · exact fun s e h => SenderHistory.steady_iff h e

/-! ### A long run -/

/-- The sender, without FEC, waits to send the first of some frames. -/
structure Sender.Streams (frames : List Octets) (number : UInt16) (s : Sender) : Prop where
  timer : s.timer = { pending := 1 }
  fecGenerator : s.fecGenerator = none
  source : s.jpegSource = movie frames
  number : s.currentSequenceNumber = number

/-- One frame. -/
lemma Sender.Streams.frame {frame : Octets} (hfits : FitsMovie frame) {frames : List Octets}
    {number : UInt16} {s : Sender} (h : s.Streams (frame :: frames) number)
    (last : Option CustomJpegPacket) :
    ∃ t q, t.Streams frames (number + 1) ∧ ∀ es,
      senderHistories.run ⟨s, last⟩ (.expire :: .handler false false :: es) =
        senderHistories.run ⟨t, some q⟩ es := by
  obtain ⟨htimer, hfec, hsource, hnumber⟩ := h
  have hread : s.jpegSource.readFrame = (.data frame, movie frames) := by
    rw [hsource]
    exact readFrame_movie_cons hfits frames
  have hexpire : senderHistories.step ⟨s, last⟩ .expire =
      some ⟨{ s with timer := { fired := 1 } }, last⟩ := by
    simp [senderHistories, Sender.step, Sender.builtBy, Timer.expire, htimer]
  obtain ⟨t, ht⟩ : ∃ t : Sender, t = { s with
    jpegSource := movie frames
    sent := s.sent ++ [(sentPacket s.ssrc s.currentSequenceNumber frame).datagram]
    currentSequenceNumber := s.currentSequenceNumber + 1
    timer := { pending := 1 } } := ⟨_, rfl⟩
  have hhandler : senderHistories.step ⟨{ s with timer := { fired := 1 } }, last⟩
      (.handler false false) =
        some ⟨t, some (sentPacket s.ssrc s.currentSequenceNumber frame)⟩ := by
    rw [ht]
    simp [senderHistories, Sender.step, Sender.sendNextPacketHandler, hread, Sender.sendTo,
      Sender.sendFec, hfec, Sender.builtBy, Sender.builtPacket, Timer.arm, Timer.cancel,
      CustomJpegPacket.datagram]
  refine ⟨t, sentPacket s.ssrc s.currentSequenceNumber frame, ?_, fun es => ?_⟩
  · rw [ht]
    exact ⟨rfl, hfec, rfl, congrArg (· + 1) hnumber⟩
  · rw [System.run, hexpire, Option.bind_some, System.run, hhandler, Option.bind_some]

/-- Some frames in a row. -/
lemma Sender.Streams.run {frames : List Octets} (hframes : ∀ frame ∈ frames, FitsMovie frame)
    {rest : List Octets} {number : UInt16} {s : Sender} (h : s.Streams (frames ++ rest) number)
    (last : Option CustomJpegPacket) :
    ∃ t last', senderHistories.run ⟨s, last⟩ (frameEvents frames.length) = some ⟨t, last'⟩ ∧
      t.Streams rest (number + UInt16.ofNat frames.length) ∧
      (last'.isSome ∨ frames = []) := by
  induction frames generalizing s number last with
  | nil => exact ⟨s, last, rfl, by simpa using h, .inr rfl⟩
  | cons frame frames ih =>
    obtain ⟨hfits, hframes⟩ := List.forall_mem_cons.mp hframes
    obtain ⟨t₁, q, h₁, hrun₁⟩ := h.frame hfits last
    obtain ⟨t₂, last₂, hrun₂, h₂, hlast⟩ := ih hframes h₁ (some q)
    have hevents : frameEvents (frames.length + 1) =
        .expire :: .handler false false :: frameEvents frames.length := rfl
    have hnumber : number + 1 + UInt16.ofNat frames.length =
        number + UInt16.ofNat (frames.length + 1) := by
      rw [UInt16.ofNat_add, UInt16.add_assoc, UInt16.add_comm 1]
      rfl
    refine ⟨t₂, last₂, ?_, hnumber ▸ h₂, .inl ?_⟩
    · rw [List.length_cons, hevents, hrun₁, hrun₂]
    · rcases hlast with hsome | rfl
      · exact hsome
      · cases hrun₂
        rfl

/-- From 60000 on, the highest number a sender starts with, the packet after 5536 others has the
number and the timestamp zero. -/
theorem timestamps_not_steady :
    ¬∀ (ssrc : UInt32) (source : IStream) (fecK : Option UInt16)
      (sequenceNumber fecSequenceNumber : UInt16) (es : List SenderEvent),
      senderHistories.Meets SenderHistory.Steady
        (.new (.new ssrc source fecK sequenceNumber fecSequenceNumber)) es := by
  intro h
  obtain ⟨frames, hframes, hlength⟩ : ∃ frames : List Octets,
      (∀ frame ∈ frames, FitsMovie frame) ∧ frames.length = 5536 := by
    refine ⟨List.replicate 5536 [1], fun frame hmem => ?_, List.length_replicate⟩
    rw [(List.mem_replicate.mp hmem).2]
    exact ⟨by decide, by decide⟩
  have hmeets := h 7 (movie (frames ++ [[1]])) none 60000 0
    ((.start :: .strand :: (frameEvents frames.length ++ [.expire])) ++ [.handler false false])
  obtain ⟨start, hstart⟩ : ∃ start : Sender,
      start = { Sender.new 7 (movie (frames ++ [[1]])) none 60000 0 with
        running := true
        timer := { pending := 1 } } := ⟨_, rfl⟩
  have hstreams : start.Streams (frames ++ [[1]]) 60000 := by
    rw [hstart]
    exact ⟨rfl, rfl, rfl, rfl⟩
  obtain ⟨t, last, hrun, ht, hlast⟩ := hstreams.run hframes none
  have hbefore : senderHistories.run (.new (.new 7 (movie (frames ++ [[1]])) none 60000 0))
      (.start :: .strand :: (frameEvents frames.length ++ [.expire])) =
        some ⟨{ t with timer := { fired := 1 } }, last⟩ := by
    have hexpire : senderHistories.step ⟨t, last⟩ .expire =
        some ⟨{ t with timer := { fired := 1 } }, last⟩ := by
      simp [senderHistories, Sender.step, Sender.builtBy, Timer.expire, ht.timer]
    calc senderHistories.run (.new (.new 7 (movie (frames ++ [[1]])) none 60000 0))
          (.start :: .strand :: (frameEvents frames.length ++ [.expire]))
        = senderHistories.run ⟨start, none⟩ (frameEvents frames.length ++ [.expire]) := by
          rw [hstart]
          rfl
      _ = _ := by rw [System.run_concat, hrun, Option.bind_some, hexpire]
  have hsteady := ((System.meets_concat_iff hbefore).mp hmeets).2
  have hread : t.jpegSource.readFrame = (.data [1], movie []) := by
    rw [ht.source]
    exact readFrame_movie_cons ⟨by decide, by decide⟩ []
  have hcounts := SenderHistory.counts_of_run (SenderHistory.counts_new _ _ _ _ _) hbefore
  apply (SenderHistory.steady_iff hcounts (.handler false false)).mp hsteady
  refine ⟨?_, ?_, ?_⟩
  · simp [Sender.builtBy, Sender.builtPacket, hread]
  · exact hlast.resolve_right (List.ne_nil_of_length_pos (by omega))
  · rw [ht.number, hlength]
    decide

end Rtp
