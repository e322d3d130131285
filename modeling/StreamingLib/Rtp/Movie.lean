import StreamingLib.Rtp.FecExactness
import StreamingLib.Rtp.SenderActivity

/-!
# The movie

A movie is a concatenation of frames, each after its length in five decimal digits. The sender
gives one packet to each of them, in order, whatever is dropped on the way.
-/

namespace Rtp

open Transition

/-! ### Movies -/

/-- A number below `10 ^ 5` in decimal digits. -/
def fiveDigits (n : ℕ) : List ℕ := [10000, 1000, 100, 10, 1].map fun power => n / power % 10

/-- The frames one after the other, each after its length in octets. -/
def movieOctets (frames : List Octets) : Octets :=
  frames.flatMap fun frame => (fiveDigits frame.length).map Rtsp.digitChar ++ frame

def movie (frames : List Octets) : IStream := { chars := movieOctets frames }

/-- The length of a frame can be written, and is not zero. -/
def FitsMovie (frame : Octets) : Prop := 1 ≤ frame.length ∧ frame.length < 10 ^ 5

lemma length_fiveDigits (n : ℕ) : (fiveDigits n).length = 5 := rfl

lemma lt_of_mem_fiveDigits {n d : ℕ} (h : d ∈ fiveDigits n) : d < 10 := by
  simp only [fiveDigits, List.mem_map] at h
  obtain ⟨power, -, rfl⟩ := h
  exact Nat.mod_lt _ (by decide)

lemma foldl_fiveDigits {n : ℕ} (h : n < 10 ^ 5) :
    (fiveDigits n).foldl (fun v d => v * 10 + d) 0 = n := by
  simp only [fiveDigits, List.map_cons, List.map_nil, List.foldl_cons, List.foldl_nil]
  omega

lemma frameLength_fiveDigits {n : ℕ} (h : n < 10 ^ 5) :
    frameLength ((fiveDigits n).map Rtsp.digitChar) = some n := by
  have hlimit : (fiveDigits n).foldl (fun v d => v * 10 + d) 0 ≤ Rtsp.uintFast16Max := by
    rw [foldl_fiveDigits h, Rtsp.uintFast16Max]
    omega
  have hrun : Peg.numeralRun Rtsp.digitValue 10 Rtsp.uintFast16Max 5
      ((fiveDigits n).map Rtsp.digitChar ++ []) 0 = _ :=
    Peg.numeralRun_digits (by decide) (fiveDigits n) Rtsp.digitChar
      (fun d hd => Rtsp.digitValue_digitChar d (lt_of_mem_fiveDigits hd)) [] 0 5 (Or.inl rfl)
      le_rfl hlimit
  rw [List.append_nil, foldl_fiveDigits h] at hrun
  simp [frameLength, Peg.uint, hrun, length_fiveDigits]

lemma copyAfter_append (last : UInt8) (cs rest : Octets) :
    IStream.copyAfter cs.length last { chars := cs ++ rest } = (cs, { chars := rest }) := by
  induction cs generalizing last with
  | nil => rfl
  | cons c cs ih => simp [IStream.copyAfter, IStream.get, ih]

/-- A frame that fits is read as it is, and the next one follows. -/
lemma readFrame_movie_cons {frame : Octets} (hfits : FitsMovie frame) (frames : List Octets) :
    (movie (frame :: frames)).readFrame = (.data frame, movie frames) := by
  obtain ⟨hne, hlt⟩ := hfits
  obtain ⟨c, cs, rfl⟩ := List.exists_cons_of_length_pos hne
  have hlength := frameLength_fiveDigits hlt
  have hdigits : ((fiveDigits (c :: cs).length).map Rtsp.digitChar).length = 5 := rfl
  have hmovie : movieOctets ((c :: cs) :: frames) =
      (fiveDigits (c :: cs).length).map Rtsp.digitChar ++ (c :: cs ++ movieOctets frames) := by
    simp [movieOctets]
  generalize (fiveDigits (c :: cs).length).map Rtsp.digitChar = digits at *
  have hread : (movie ((c :: cs) :: frames)).read 5 =
      (digits, { chars := c :: cs ++ movieOctets frames }) := by
    simp [IStream.read, movie, hmovie, ← hdigits]
  rw [IStream.readFrame, hread]
  simp only [hdigits, hlength]
  have hcopy := copyAfter_append c cs (movieOctets frames)
  simp [IStream.get, hcopy, movie]

lemma readFrame_movie_nil : (movie []).readFrame = (.noLength, { chars := [], good := false }) :=
  rfl

/-! ### Packets -/

/-- The packet that `send_next_packet_handler` builds where it comes that far. -/
def Sender.builtPacket (s : Sender) : Option CustomJpegPacket :=
  match s.jpegSource.readFrame.1 with
  | .data data => some (sentPacket s.ssrc s.currentSequenceNumber data)
  | .noLength | .badLength | .endOfFile => none

/-- The datagram of a packet. -/
def CustomJpegPacket.datagram (p : CustomJpegPacket) : Octets := (customJpegPacketGenerator p).2

section Handler

variable {s : Sender}

lemma isData_of_builtPacket {p : CustomJpegPacket} (h : s.builtPacket = some p) :
    ∃ data, s.jpegSource.readFrame.1 = .data data ∧
      p = sentPacket s.ssrc s.currentSequenceNumber data := by
  unfold Sender.builtPacket at h
  split at h
  · next data hdata =>
    simp only [Option.some.injEq] at h
    exact ⟨data, hdata, h.symm⟩
  · cases h
  · cases h
  · cases h

lemma sendTo_sent (s : Sender) (drop : Bool) (datagram : Octets) :
    (s.sendTo drop datagram).currentSequenceNumber = s.currentSequenceNumber ∧
      (s.sendTo drop datagram).sent =
        s.sent ++ if s.channelFailure && drop then [] else [datagram] := by
  unfold Sender.sendTo
  split_ifs <;> simp

/-- The FEC part adds at most one datagram and does not count. -/
lemma sendFec_sent (s : Sender) (buffer : Octets) (timestamp : UInt32) (drop : Bool) :
    (s.sendFec buffer timestamp drop).1.currentSequenceNumber = s.currentSequenceNumber ∧
      ∃ fec, (s.sendFec buffer timestamp drop).1.sent = s.sent ++ fec := by
  unfold Sender.sendFec
  split
  · exact ⟨rfl, [], (List.append_nil _).symm⟩
  · split
    · exact ⟨rfl, [], (List.append_nil _).symm⟩
    · exact ⟨rfl, [], (List.append_nil _).symm⟩
    · dsimp only
      split_ifs
      · exact ⟨rfl, [], (List.append_nil _).symm⟩
      · exact ⟨rfl, _, rfl⟩

/-- A packet that is built is sent unless it is dropped, and counted unless the parity generator
throws. -/
lemma sendNextPacketHandler_built {p : CustomJpegPacket} (h : s.builtPacket = some p)
    (dropMedia dropFec : Bool) :
    (∃ fec, (s.sendNextPacketHandler false dropMedia dropFec).1.sent =
      s.sent ++ (if s.channelFailure && dropMedia then [] else [p.datagram]) ++ fec) ∧
    (¬s.CompletesOversizedGroup →
      (s.sendNextPacketHandler false dropMedia dropFec).1.currentSequenceNumber =
        s.currentSequenceNumber + 1) := by
  obtain ⟨data, hdata, rfl⟩ := isData_of_builtPacket h
  unfold Sender.sendNextPacketHandler Sender.CompletesOversizedGroup
  rw [if_neg Bool.false_ne_true]
  rcases hframe : s.jpegSource.readFrame with ⟨frame, source⟩
  rw [hframe] at hdata
  subst hdata
  have hlength := length_sentPacket s.ssrc s.currentSequenceNumber data
  rw [← CustomJpegPacket.datagram] at hlength
  obtain ⟨-, -, -, -, hgenerator⟩ :=
    sendTo_spec { s with jpegSource := source } dropMedia (sentPacket s.ssrc _ data).datagram
  obtain ⟨hnumber, hsent⟩ :=
    sendTo_sent { s with jpegSource := source } dropMedia (sentPacket s.ssrc _ data).datagram
  dsimp only
  rw [← CustomJpegPacket.datagram]
  generalize ({ s with jpegSource := source } : Sender).sendTo dropMedia _ = s₁ at *
  generalize (sentPacket s.ssrc s.currentSequenceNumber data).datagram = datagram at *
  generalize (sentPacket s.ssrc s.currentSequenceNumber data).header.timestamp = timestamp
  obtain ⟨hnumber', fec, hsent'⟩ := sendFec_sent s₁ datagram timestamp dropFec
  have hfault := (sendFec_spec s₁ hlength timestamp dropFec).2
  rcases hsend : s₁.sendFec datagram timestamp dropFec with ⟨s₂, - | fault⟩ <;>
    rw [hsend] at hnumber' hsent' hfault
  · refine ⟨⟨fec, hsent'.trans (congrArg (· ++ fec) hsent)⟩, fun _ => ?_⟩
    exact congrArg (· + 1) (hnumber'.trans hnumber)
  · refine ⟨⟨fec, hsent'.trans (congrArg (· ++ fec) hsent)⟩, fun hfits => ?_⟩
    rw [hgenerator] at hfault
    exact absurd (hfault.mpr fun hthrows => hfits ⟨rfl, hthrows⟩) (Option.some_ne_none fault)

/-- Where no packet is built, nothing is sent and the sender stops. -/
lemma sendNextPacketHandler_not_built (h : s.builtPacket = none) (dropMedia dropFec : Bool) :
    (s.sendNextPacketHandler false dropMedia dropFec).1.sent = s.sent ∧
      (s.sendNextPacketHandler false dropMedia dropFec).1.running = false ∧
      (s.sendNextPacketHandler false dropMedia dropFec).1.currentSequenceNumber =
        s.currentSequenceNumber := by
  unfold Sender.builtPacket at h
  unfold Sender.sendNextPacketHandler
  rw [if_neg Bool.false_ne_true]
  rcases hframe : s.jpegSource.readFrame with ⟨frame, source⟩
  rw [hframe] at h
  cases frame with
  | noLength => exact ⟨rfl, rfl, rfl⟩
  | badLength => exact ⟨rfl, rfl, rfl⟩
  | endOfFile => exact ⟨rfl, rfl, rfl⟩
  | data data => cases h

end Handler

/-! ### Steps -/

/-- Whether `send_next_packet_handler` is called without error. -/
def SenderEvent.isHandler : SenderEvent → Bool
  | .handler _ _ => true
  | .start | .stop | .strand | .expire | .abortedHandler => false

/-- The sender runs, but nothing is to come. -/
structure Sender.Stuck (s : Sender) : Prop where
  running : s.running = true
  outstanding : s.outstanding = 0

lemma Sender.Stuck.waits {s : Sender} (h : s.Stuck) :
    s.timer.pending = 0 ∧ s.timer.fired = 0 ∧ s.timer.aborted = 0 := by
  have hout := h.outstanding
  unfold Sender.outstanding Timer.waits at hout
  omega

/-- A sender that is stuck stays so, and no handler is called any more. -/
lemma Sender.Stuck.step {s s' : Sender} {e : SenderEvent} (h : s.Stuck)
    (hstep : s.step e = some s') : s'.Stuck ∧ e.isHandler = false := by
  obtain ⟨hpending, hfired, haborted⟩ := h.waits
  cases e with
  | start =>
    cases hstep
    rw [Sender.start, if_pos h.running]
    exact ⟨h, rfl⟩
  | stop =>
    cases hstep
    rw [Sender.stop, if_pos h.running]
    refine ⟨⟨h.running, Eq.trans ?_ h.outstanding⟩, rfl⟩
    simp [Sender.outstanding]
  | strand =>
    rcases hs : s.strand with - | ⟨c, cs⟩ <;> simp only [Sender.step, hs] at hstep
    · cases hstep
    · cases hstep
      have hout := h.outstanding
      rw [Sender.outstanding, hs] at hout
      cases c with
      | arm => simp at hout
      | cancel =>
        refine ⟨⟨h.running, Eq.trans ?_ hout⟩, rfl⟩
        simp [Sender.outstanding, Closure.run, Timer.waits_cancel]
  | expire => simp [Sender.step, hpending] at hstep
  | handler dropMedia dropFec => simp [Sender.step, hfired] at hstep
  | abortedHandler => simp [Sender.step, haborted] at hstep

/-- Only `send_next_packet_handler` without error moves the source and the sequence number. -/
lemma Sender.step_other {s s' : Sender} {e : SenderEvent} (he : e.isHandler = false)
    (hstep : s.step e = some s') : s'.jpegSource = s.jpegSource ∧
      s'.currentSequenceNumber = s.currentSequenceNumber ∧ HandlesInGroup s e := by
  cases e with
  | start =>
    cases hstep
    unfold Sender.start
    split_ifs <;> exact ⟨rfl, rfl, trivial⟩
  | stop =>
    cases hstep
    unfold Sender.stop
    split_ifs <;> exact ⟨rfl, rfl, trivial⟩
  | strand =>
    rcases hs : s.strand with - | ⟨c, cs⟩ <;> simp only [Sender.step, hs] at hstep
    · cases hstep
    · cases hstep
      exact ⟨rfl, rfl, trivial⟩
  | expire =>
    simp only [Sender.step] at hstep
    split_ifs at hstep
    cases hstep
    exact ⟨rfl, rfl, trivial⟩
  | handler dropMedia dropFec => cases he
  | abortedHandler =>
    simp only [Sender.step] at hstep
    split_ifs at hstep
    cases hstep
    exact ⟨rfl, rfl, trivial⟩

/-- A call of `send_next_packet_handler` without error. -/
lemma Sender.step_handler {s s' : Sender} {dropMedia dropFec : Bool}
    (hstep : s.step (.handler dropMedia dropFec) = some s') : s.timer.fired ≠ 0 ∧
      s' = (s.handled.sendNextPacketHandler false dropMedia dropFec).1 := by
  simp only [Sender.step] at hstep
  split_ifs at hstep with hfired
  cases hstep
  exact ⟨hfired, rfl⟩

/-- An exception of the parity generator leaves the sender stuck. -/
lemma Sender.Balanced.stuck {s s' : Sender} (h : s.Balanced) {dropMedia dropFec : Bool}
    (hoversized : s.CompletesOversizedGroup)
    (hstep : s.step (.handler dropMedia dropFec) = some s') : s'.Stuck := by
  obtain ⟨hfired, rfl⟩ := Sender.step_handler hstep
  obtain ⟨hrun, hcount, htimer⟩ := h.handled hfired
  obtain ⟨hexit, hstrand, -⟩ := sendNextPacketHandler_exit s.handled dropMedia dropFec
  cases hexit with
  | ended hnodata _ _ => exact absurd (hoversized.1.symm.trans hnodata) (Bool.false_ne_true ·.symm)
  | rearmed hfits _ _ => exact absurd hoversized hfits
  | threw _ hrun' htimer' =>
    refine ⟨hrun'.trans hrun, ?_⟩
    rw [Sender.outstanding, hstrand, htimer', htimer]
    exact hcount

/-! ### Runs -/

/-- After `i` calls the sender of a movie is about to read what follows its first `i` frames. -/
structure Sender.Reads (frames : List Octets) (sequenceNumber : UInt16) (i : ℕ) (s : Sender) :
    Prop where
  balanced : s.Balanced
  source : i ≤ frames.length → s.jpegSource = movie (frames.drop i)
  number : i ≤ frames.length → s.currentSequenceNumber = UInt16.ofNat (sequenceNumber.toNat + i)

namespace Sender.Reads

variable {frames : List Octets} {sequenceNumber : UInt16} {i : ℕ} {s s' : Sender}

/-- What is built from a frame. -/
lemma builtPacket_of_lt (hframes : ∀ frame ∈ frames, FitsMovie frame)
    (h : s.Reads frames sequenceNumber i) {frame : Octets} (hframe : frames[i]? = some frame) :
    s.builtPacket = some (sentPacket s.ssrc (UInt16.ofNat (sequenceNumber.toNat + i)) frame) ∧
      s.jpegSource.readFrame.2 = movie (frames.drop (i + 1)) := by
  obtain ⟨hlt, hget⟩ := List.getElem?_eq_some_iff.mp hframe
  have hdrop : frames.drop i = frame :: frames.drop (i + 1) := by
    rw [List.drop_eq_getElem_cons hlt, hget]
  have hfits : FitsMovie frame := hframes frame (hget ▸ List.getElem_mem hlt)
  have hread := readFrame_movie_cons hfits (frames.drop (i + 1))
  rw [← hdrop, ← h.source hlt.le] at hread
  rw [Sender.builtPacket, hread, h.number hlt.le]
  exact ⟨rfl, rfl⟩

/-- Nothing is built after the last frame. -/
lemma builtPacket_of_eq (h : s.Reads frames sequenceNumber i) (hi : i = frames.length) :
    s.builtPacket = none := by
  have hsource := h.source hi.le
  rw [hi, List.drop_length] at hsource
  rw [Sender.builtPacket, hsource, readFrame_movie_nil]

/-- A call reads one frame. -/
lemma handler (hframes : ∀ frame ∈ frames, FitsMovie frame)
    (h : s.Reads frames sequenceNumber i) {dropMedia dropFec : Bool}
    (hfits : ¬s.CompletesOversizedGroup)
    (hstep : s.step (.handler dropMedia dropFec) = some s') :
    s'.Reads frames sequenceNumber (i + 1) := by
  have hbalanced := h.balanced.step (e := .handler dropMedia dropFec) hfits hstep
  obtain ⟨-, rfl⟩ := Sender.step_handler hstep
  have hsource := (sendNextPacketHandler_exit s.handled dropMedia dropFec).2.2
  have hread : i + 1 ≤ frames.length → ∃ p, s.handled.builtPacket = some p ∧
      s.handled.jpegSource.readFrame.2 = movie (frames.drop (i + 1)) := by
    intro hi
    obtain ⟨hbuilt, hrest⟩ := h.builtPacket_of_lt hframes (List.getElem?_eq_getElem hi)
    exact ⟨_, hbuilt, hrest⟩
  refine ⟨hbalanced, fun hi => ?_, fun hi => ?_⟩
  · obtain ⟨p, -, hrest⟩ := hread hi
    exact hsource.trans hrest
  · obtain ⟨p, hbuilt, -⟩ := hread hi
    have hnumber : s.handled.currentSequenceNumber = _ := h.number (Nat.le_of_succ_le hi)
    rw [(sendNextPacketHandler_built hbuilt dropMedia dropFec).2 hfits, hnumber]
    exact (UInt16.ofNat_add (sequenceNumber.toNat + i) 1).symm

lemma step (hframes : ∀ frame ∈ frames, FitsMovie frame) (h : s.Reads frames sequenceNumber i)
    {e : SenderEvent} (hstep : s.step e = some s') :
    s'.Stuck ∨ s'.Reads frames sequenceNumber (i + [e].countP SenderEvent.isHandler) := by
  cases he : e.isHandler with
  | false =>
    obtain ⟨hsource, hnumber, hok⟩ := Sender.step_other he hstep
    rw [List.countP_singleton, he]
    exact .inr ⟨h.balanced.step hok hstep, fun hi => hsource.trans (h.source hi),
      fun hi => hnumber.trans (h.number hi)⟩
  | true =>
    cases e with
    | handler dropMedia dropFec =>
      by_cases hoversized : s.CompletesOversizedGroup
      · exact .inl (h.balanced.stuck hoversized hstep)
      · exact .inr (h.handler hframes hoversized hstep)
    | start | stop | strand | expire | abortedHandler => cases he

end Sender.Reads

/-- In every run over a movie, the sender is stuck or reads it frame by frame. -/
lemma reads_of_run {frames : List Octets} (hframes : ∀ frame ∈ frames, FitsMovie frame)
    {ssrc : UInt32} {fecK : Option UInt16} {sequenceNumber fecSequenceNumber : UInt16}
    {es : List SenderEvent} {s : Sender}
    (hrun : senderSystem.run (.new ssrc (movie frames) fecK sequenceNumber fecSequenceNumber) es =
      some s) :
    s.Stuck ∨ s.Reads frames sequenceNumber (es.countP SenderEvent.isHandler) := by
  apply System.run_invariant (I := fun es s =>
    s.Stuck ∨ s.Reads frames sequenceNumber (es.countP SenderEvent.isHandler))
    (System.meets_always senderSystem _ es) hrun
  · refine .inr ⟨balanced_new _ _ _ _ _, fun _ => rfl, fun _ => ?_⟩
    exact (UInt16.ofNat_toNat).symm
  · rintro es e t t' (hstuck | hreads) - hstep
    · exact .inl (hstuck.step hstep).1
    · rw [List.countP_append]
      exact hreads.step hframes hstep

/-- The call of `send_next_packet_handler` without error after `i` others builds the packet of frame
`i`, whether or not it is dropped, with the number after `i` others. The first call after the last
frame builds none and clears `running_`. -/
theorem movie_reproduced {frames : List Octets} (hframes : ∀ frame ∈ frames, FitsMovie frame)
    (ssrc : UInt32) (fecK : Option UInt16) (sequenceNumber fecSequenceNumber : UInt16)
    {es : List SenderEvent} {s s' : Sender}
    (hrun : senderSystem.run (.new ssrc (movie frames) fecK sequenceNumber fecSequenceNumber) es =
      some s)
    {dropMedia dropFec : Bool}
    (hstep : senderSystem.step s (.handler dropMedia dropFec) = some s') :
    (∀ frame, frames[es.countP SenderEvent.isHandler]? = some frame →
      ∃ built decoded, s.builtPacket = some built ∧
        customJpegPacketGrammar {} built.datagram = .ok (decoded, []) ∧
        decoded.data = frame ∧
        decoded.header.sequenceNumber =
          UInt16.ofNat (sequenceNumber.toNat + es.countP SenderEvent.isHandler) ∧
        ∃ fec, s'.sent =
          s.sent ++ (if s.channelFailure && dropMedia then [] else [built.datagram]) ++ fec) ∧
    (es.countP SenderEvent.isHandler = frames.length →
      s.builtPacket = none ∧ s'.sent = s.sent ∧ s'.running = false) := by
  have hreads : s.Reads frames sequenceNumber (es.countP SenderEvent.isHandler) := by
    rcases reads_of_run hframes hrun with hstuck | hreads
    · have hhandler := (hstuck.step (e := .handler dropMedia dropFec) hstep).2
      cases hhandler
    · exact hreads
  obtain ⟨-, rfl⟩ := Sender.step_handler hstep
  constructor
  · intro frame hframe
    obtain ⟨hbuilt, -⟩ := hreads.builtPacket_of_lt hframes hframe
    have hsent := (sendNextPacketHandler_built (s := s.handled) hbuilt dropMedia dropFec).1
    exact ⟨_, _, hbuilt, customJpegPacketGrammar_generated (sentPacket_plain _ _ frame), rfl, rfl,
      hsent⟩
  · intro hlast
    have hnone := hreads.builtPacket_of_eq hlast
    obtain ⟨hsent, hstopped, -⟩ :=
      sendNextPacketHandler_not_built (s := s.handled) hnone dropMedia dropFec
    exact ⟨hnone, hsent, hstopped⟩

/-- The second of two frames, dropped, at the end of the sequence numbers. -/
theorem movie_reproduced_second :
    ∃ s built decoded,
      senderSystem.run (.new 7 (movie [[1], [255, 217]]) (some 3) 65535 1)
        [.start, .strand, .expire, .handler false false, .expire] = some s ∧
      s.builtPacket = some built ∧
      customJpegPacketGrammar {} built.datagram = .ok (decoded, []) ∧
      decoded.data = [255, 217] ∧ decoded.header.sequenceNumber = 0 := by
  have hframes : ∀ frame ∈ ([[1], [255, 217]] : List Octets), FitsMovie frame := by
    intro frame hmem
    simp only [List.mem_cons, List.not_mem_nil, or_false] at hmem
    rcases hmem with rfl | rfl <;> exact ⟨by decide, by decide⟩
  obtain ⟨s, s', hs, hs'⟩ : ∃ s s',
      senderSystem.run (.new 7 (movie [[1], [255, 217]]) (some 3) 65535 1)
        [.start, .strand, .expire, .handler false false, .expire] = some s ∧
      senderSystem.step s (.handler true false) = some s' := ⟨_, _, rfl, rfl⟩
  obtain ⟨built, decoded, hbuilt, hdecode, hdata, hnumber, -⟩ :=
    (movie_reproduced hframes 7 (some 3) 65535 1 hs hs').1 [255, 217] rfl
  exact ⟨s, built, decoded, hs, hbuilt, hdecode, hdata, hnumber⟩

end Rtp
