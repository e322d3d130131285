import StreamingLib.Rtp.RecoveredNumber
import StreamingLib.Rtp.Receiving

/-!
# The jitter buffer

Once the incoming buffer is full, each accepted packet puts one packet into it and takes one out.
A recovered packet is one more, with the sequence number zero.
-/

namespace Rtp

open Transition

/-! ### Events -/

/-- The sequence numbers of the media packets that arrive. -/
def mediaNumbers (ssrc : UInt32) (events : List ReceiverEvent) : List ℕ :=
  events.filterMap fun e =>
    (e.message.bind (mediaPacket ssrc)).map CustomJpegPacket.number

/-! ### The length of the buffer -/

namespace Receiver

lemma length_moveFront (r : Receiver) :
    r.moveFront.jpegPacketIncomingBuffer.length = r.jpegPacketIncomingBuffer.length - 1 := by
  unfold moveFront
  cases h : r.jpegPacketIncomingBuffer with
  | nil => rw [h]; rfl
  | cons packet buffer => rfl

/-- A full buffer gets no recovered packet, and the search for one meets no fault. -/
def KeepsLength (r : Receiver) (message : Octets) : Prop :=
  ∀ packet ∈ r.accepted message, bufferSize ≤ r.jpegPacketIncomingBuffer.length →
    ∀ n, Lacks (r.jpegPacketIncomingBuffer ++ [(packet, message)]) n →
      FindsNothing (r.jpegPacketIncomingBuffer ++ [(packet, message)]) r.fecPacketIncomingBuffer n

instance (r : Receiver) (message : Octets) : Decidable (r.KeepsLength message) :=
  Option.decidableForallMem (r.accepted message)

variable {r : Receiver} {message : Octets}

/-- The gap of a full buffer is closed with at most one packet more. -/
lemma length_closeGap_le (r : Receiver) :
    r.closeGap.1.jpegPacketIncomingBuffer.length ≤ r.jpegPacketIncomingBuffer.length + 1 ∧
      (r.closeGap.2 ≠ none →
        r.closeGap.1.jpegPacketIncomingBuffer = r.jpegPacketIncomingBuffer) := by
  rcases closeGap_cases r with ⟨-, h⟩ | ⟨d, -, -, h⟩ | ⟨d, -, -, h⟩ |
    ⟨-, ⟨fault, -, h⟩ | ⟨-, h⟩ | ⟨q, -, h⟩⟩ <;> rw [h]
  · exact ⟨Nat.le_succ _, fun _ => rfl⟩
  · exact ⟨Nat.le_succ _, fun _ => rfl⟩
  · exact ⟨Nat.le_succ _, fun _ => rfl⟩
  · exact ⟨Nat.le_succ _, fun _ => rfl⟩
  · exact ⟨Nat.le_succ _, fun _ => rfl⟩
  · refine ⟨?_, fun h => absurd rfl h⟩
    rw [List.length_insertIdx_of_le_length (Nat.sub_le _ _)]

/-- A gap that asks for no packet. -/
lemma length_closeGap_of_findsNothing (hfull : bufferSize ≤ r.jpegPacketIncomingBuffer.length)
    (h : ∀ n, Lacks r.jpegPacketIncomingBuffer n →
      FindsNothing r.jpegPacketIncomingBuffer r.fecPacketIncomingBuffer n) :
    r.closeGap.1.jpegPacketIncomingBuffer = r.jpegPacketIncomingBuffer ∧ r.closeGap.2 = none := by
  obtain ⟨closing, previous, hclosing, hprevious⟩ := exists_gap hfull
  have hnothing := (forall_lacks_iff recoveredPacket_eq_none_iff).mp h hfull
  rcases closeGap_cases r with ⟨hnone, -⟩ | ⟨d, -, -, hclose⟩ | ⟨d, -, -, hclose⟩ |
    ⟨hgap, ⟨fault, hrecovered, -⟩ | ⟨-, hclose⟩ | ⟨q, hrecovered, -⟩⟩
  · rw [gap_eq hclosing hprevious] at hnone
    cases hnone
  · rw [hclose]
    exact ⟨rfl, rfl⟩
  · rw [hclose]
    exact ⟨rfl, rfl⟩
  · cases (hnothing hgap).symm.trans hrecovered
  · rw [hclose]
    exact ⟨rfl, rfl⟩
  · cases (hnothing hgap).symm.trans hrecovered

lemma length_handleNewJpegPacket_le (r : Receiver) (message : Octets) :
    (r.handleNewJpegPacket message).1.jpegPacketIncomingBuffer.length ≤
      r.jpegPacketIncomingBuffer.length + 1 := by
  cases hmedia : mediaPacket r.ssrc message with
  | none =>
    rw [(handleNewJpegPacket_of_no_media hmedia).1]
    exact Nat.le_succ _
  | some packet =>
    rcases hupdate : updateUtility r.jpegSequenceUtility packet.header.sequenceNumber with
      ⟨utility, - | -⟩
    · rw [handleNewJpegPacket_of_rejected hmedia hupdate]
      exact Nat.le_succ _
    · have happend := length_buffer_append r utility (packet, message)
      rw [handleNewJpegPacket_of_accepted hmedia hupdate]
      split_ifs
      · exact happend.le
      · obtain ⟨hle, hfault⟩ := length_closeGap_le (r.append utility (packet, message))
        rcases hclose : (r.append utility (packet, message)).closeGap with ⟨r', - | fault⟩
        · rw [hclose, happend] at hle
          dsimp only at hle ⊢
          rw [length_moveFront]
          exact Nat.sub_le_of_le_add hle
        · rw [hclose] at hfault
          dsimp only
          rw [hfault (by simp), happend]

/-- What is put into a full buffer pushes another packet out. -/
lemma length_handleNewJpegPacket_of_full (hfull : bufferSize ≤ r.jpegPacketIncomingBuffer.length)
    (h : r.KeepsLength message) :
    (r.handleNewJpegPacket message).1.jpegPacketIncomingBuffer.length =
      r.jpegPacketIncomingBuffer.length := by
  cases hmedia : mediaPacket r.ssrc message with
  | none => rw [(handleNewJpegPacket_of_no_media hmedia).1]
  | some packet =>
    rcases hupdate : updateUtility r.jpegSequenceUtility packet.header.sequenceNumber with
      ⟨utility, - | -⟩
    · rw [handleNewJpegPacket_of_rejected hmedia hupdate]
    · have haccepted := accepted_of_media hmedia (congrArg Prod.snd hupdate)
      have happend := length_buffer_append r utility (packet, message)
      obtain ⟨hbuffer, hend⟩ := length_closeGap_of_findsNothing
        (r := r.append utility (packet, message)) (by omega) (h packet haccepted hfull)
      rw [handleNewJpegPacket_of_accepted hmedia hupdate, if_neg (by omega)]
      rcases hclose : (r.append utility (packet, message)).closeGap with ⟨r', - | fault⟩
      · rw [hclose] at hbuffer
        dsimp only at hbuffer ⊢
        rw [length_moveFront, hbuffer, happend, Nat.add_sub_cancel]
      · rw [hclose] at hend
        cases hend

end Receiver

/-! ### Runs -/

/-- The incoming buffer after a datagram is the one after its JPEG packet. -/
lemma Reception.receive_buffer (s : Reception) (received : Octets) :
    (s.receive received).receiver.jpegPacketIncomingBuffer =
      (s.receiver.handleNewJpegPacket received).1.jpegPacketIncomingBuffer := by
  rw [receive_receiver]
  exact congrArg Receiver.MediaPart.buffer
    (s.receiver.mediaPart_handleNewIncomingMessage received)

/-- Every datagram keeps the length of a full buffer. -/
def Reception.KeepsLength (s : Reception) (e : ReceiverEvent) : Prop :=
  ∀ message ∈ e.message, s.receiver.KeepsLength message

instance (s : Reception) (e : ReceiverEvent) : Decidable (s.KeepsLength e) :=
  Option.decidableForallMem e.message

lemma length_handleNewJpegPacket_of_keepsLength {r : Receiver} {message : Octets}
    (hle : r.jpegPacketIncomingBuffer.length ≤ bufferSize) (h : r.KeepsLength message) :
    (r.handleNewJpegPacket message).1.jpegPacketIncomingBuffer.length ≤ bufferSize := by
  by_cases hfull : bufferSize ≤ r.jpegPacketIncomingBuffer.length
  · rw [Receiver.length_handleNewJpegPacket_of_full hfull h]
    exact hle
  · exact le_trans (r.length_handleNewJpegPacket_le message) (not_le.mp hfull)

/-- Where no packet is recovered into a full buffer, and no recovery for it meets a fault, the
buffer holds at most `bufferSize` packets after every packet. -/
theorem jitter_buffer_bounded {s : Reception}
    (hs : receptionSystem.Reachable Reception.KeepsLength s) {message : Octets}
    (hmessage : s.receiver.KeepsLength message) :
    (s.receiver.handleNewJpegPacket message).1.jpegPacketIncomingBuffer.length ≤ bufferSize := by
  apply length_handleNewJpegPacket_of_keepsLength _ hmessage
  apply hs.invariant (I := fun s => s.receiver.jpegPacketIncomingBuffer.length ≤ bufferSize)
  · rintro s ⟨ssrc, statisticsHandler, rfl⟩
    exact Nat.zero_le _
  · intro s e s' hle hok hstep
    rcases Reception.step_cases hstep with ⟨received, hreceived, rfl⟩ | ⟨-, -, -, handler, hpart⟩
    · rw [Reception.receive_buffer]
      exact length_handleNewJpegPacket_of_keepsLength hle (hok received hreceived)
    · have hbuffer : s'.receiver.jpegPacketIncomingBuffer = s.receiver.jpegPacketIncomingBuffer :=
        congrArg Receiver.MediaPart.buffer hpart
      rw [hbuffer]
      exact hle

/-- One packet has been recovered, and the next one comes in order. -/
theorem jitter_buffer_bounded_recovered :
    ∃ s ∈ receptionSystem.run { receiver := { ssrc := 7 } } (lossyDatagrams [32] 52),
      s.receiver.corrected = 1 ∧ s.receiver.jpegPacketIncomingBuffer.length = bufferSize ∧
        (s.receiver.handleNewJpegPacket
          (raw (sentPacket 7 53 [0xFF, 0xD9]))).1.jpegPacketIncomingBuffer.length ≤ bufferSize := by
  obtain ⟨s, hrun, hcorrected, hlength, hmessage⟩ :
      ∃ s ∈ receptionSystem.run { receiver := { ssrc := 7 } } (lossyDatagrams [32] 52),
        s.receiver.corrected = 1 ∧ s.receiver.jpegPacketIncomingBuffer.length = bufferSize ∧
          s.receiver.KeepsLength (raw (sentPacket 7 53 [0xFF, 0xD9])) := by
    decide +kernel
  have hinit : receptionSystem.Reachable Reception.KeepsLength { receiver := { ssrc := 7 } } :=
    .init ⟨7, false, rfl⟩
  have hok : receptionSystem.Meets Reception.KeepsLength { receiver := { ssrc := 7 } }
      (lossyDatagrams [32] 52) := by
    decide +kernel
  exact ⟨s, hrun, hcorrected, hlength, jitter_buffer_bounded (hinit.run hok hrun) hmessage⟩

/-- The second recovered packet makes the buffer longer for good. -/
theorem jitter_buffer_exceeded :
    ¬∀ s, receptionSystem.Reachable Always s → ∀ message parsed,
      (s.receiver.handleNewJpegPacket message).2 = .ok parsed →
        (s.receiver.handleNewJpegPacket message).1.jpegPacketIncomingBuffer.length ≤
          bufferSize := by
  intro h
  obtain ⟨s, hrun, hreturns, hlength⟩ :
      ∃ s ∈ receptionSystem.run { receiver := { ssrc := 7 } } (lossyDatagrams [32, 34] 53),
        (s.receiver.handleNewJpegPacket (raw (sentPacket 7 54 [0xFF, 0xD9]))).2 = .ok true ∧
        (s.receiver.handleNewJpegPacket
          (raw (sentPacket 7 54 [0xFF, 0xD9]))).1.jpegPacketIncomingBuffer.length = 51 := by
    decide +kernel
  have hinit : receptionSystem.Reachable Always { receiver := { ssrc := 7 } } :=
    .init ⟨7, false, rfl⟩
  have hle := h s (hinit.run (System.meets_always _ _ _) hrun) _ true hreturns
  rw [hlength] at hle
  exact absurd hle (by decide)

/-! ### The order of the buffer -/

/-- The sequence numbers in the incoming buffer. -/
def Receiver.numbers (r : Receiver) : List ℕ :=
  r.jpegPacketIncomingBuffer.map fun packet => packet.1.number

/-- No packet is recovered. -/
def Reception.RecoversNothing (s : Reception) (e : ReceiverEvent) : Prop :=
  ∀ message ∈ e.message, ∀ packet ∈ s.receiver.accepted message,
    ∀ n, Lacks (s.receiver.jpegPacketIncomingBuffer ++ [(packet, message)]) n →
      ¬Recovers (s.receiver.jpegPacketIncomingBuffer ++ [(packet, message)])
        s.receiver.fecPacketIncomingBuffer n

instance (s : Reception) (e : ReceiverEvent) : Decidable (s.RecoversNothing e) :=
  have (message : Octets) : Decidable (∀ packet ∈ s.receiver.accepted message,
      ∀ n, Lacks (s.receiver.jpegPacketIncomingBuffer ++ [(packet, message)]) n →
        ¬Recovers (s.receiver.jpegPacketIncomingBuffer ++ [(packet, message)])
          s.receiver.fecPacketIncomingBuffer n) :=
    Option.decidableForallMem (s.receiver.accepted message)
  Option.decidableForallMem e.message

lemma Receiver.recovers_eq_none_iff {r : Receiver} {message : Octets} {packet : CustomJpegPacket} :
    r.recovers message packet = none ↔
      ∀ n, Lacks (r.jpegPacketIncomingBuffer ++ [(packet, message)]) n →
        ¬Recovers (r.jpegPacketIncomingBuffer ++ [(packet, message)])
          r.fecPacketIncomingBuffer n := by
  rw [← recoveredInGap_eq_none_iff]
  exact ite_eq_right_iff

lemma mediaNumbers_concat (ssrc : UInt32) (es : List ReceiverEvent) (e : ReceiverEvent) :
    mediaNumbers ssrc (es ++ [e]) = mediaNumbers ssrc es ++ mediaNumbers ssrc [e] :=
  List.filterMap_append

lemma mediaNumbers_of_message {ssrc : UInt32} {e : ReceiverEvent} {message : Octets}
    {packet : CustomJpegPacket} (he : e.message = some message)
    (hmedia : mediaPacket ssrc message = some packet) :
    mediaNumbers ssrc [e] = [packet.number] := by
  simp [mediaNumbers, he, hmedia]

/-- The numbers of the accepted packets, which are all that is in the stream, are some of those that
arrive. -/
structure InArrivalOrder (ssrc : UInt32) (es : List ReceiverEvent) (s : Reception) : Prop where
  source : s.receiver.ssrc = ssrc
  stream : s.receiver.stream = s.accepted
  arrived : (s.accepted.map CustomJpegPacket.number).Sublist (mediaNumbers ssrc es)

lemma InArrivalOrder.step {ssrc : UInt32} {es : List ReceiverEvent} {s s' : Reception}
    {e : ReceiverEvent} (h : InArrivalOrder ssrc es s) (hok : s.RecoversNothing e)
    (hstep : s.step e = some s') : InArrivalOrder ssrc (es ++ [e]) s' := by
  rcases Reception.step_cases hstep with ⟨message, hmessage, rfl⟩ |
    ⟨-, haccepted, hstream, handler, hpart⟩
  · have hsettings := s.receiver.settings_handleNewIncomingMessage message
    have hstream := (s.receiver.stream_handleNewIncomingMessage message).trans
      (s.receiver.stream_handleNewJpegPacket message)
    have hssrc : (s.receive message).receiver.ssrc = ssrc := by
      rw [Reception.receive_receiver]
      exact (congrArg Prod.fst hsettings).trans h.source
    refine ⟨hssrc, ?_, ?_⟩
    · rw [Reception.receive_receiver, Reception.receive_accepted, hstream]
      rcases haccepted : s.receiver.accepted message with - | packet
      · exact h.stream.trans (List.append_nil _).symm
      · dsimp only
        rw [Receiver.recovers_eq_none_iff.mpr (hok message hmessage packet haccepted), ← h.stream]
        exact (List.append_assoc _ _ _).symm
    · rw [Reception.receive_accepted, mediaNumbers_concat]
      rcases haccepted : s.receiver.accepted message with - | packet
      · rw [Option.toList_none, List.append_nil]
        exact h.arrived.trans (List.sublist_append_left _ _)
      · have hmedia := (Receiver.media_of_accepted haccepted).1
        rw [h.source] at hmedia
        rw [mediaNumbers_of_message hmessage hmedia, Option.toList_some, List.map_append]
        exact h.arrived.append (List.Sublist.refl _)
  · refine ⟨(congrArg Receiver.MediaPart.ssrc hpart).trans h.source, ?_, ?_⟩
    · rw [hstream, haccepted]
      exact h.stream
    · rw [haccepted, mediaNumbers_concat]
      exact h.arrived.trans (List.sublist_append_left _ _)

lemma InArrivalOrder.pairwise {ssrc : UInt32} {es : List ReceiverEvent} {s : Reception}
    (h : InArrivalOrder ssrc es s) (hmedia : (mediaNumbers ssrc es).Pairwise (· < ·)) :
    s.receiver.numbers.Pairwise (· < ·) := by
  have hsuffix : s.receiver.jpegPacketIncomingBuffer.map Prod.fst <:+ s.accepted := by
    rw [← h.stream]
    exact List.suffix_append _ _
  have hnumbers : s.receiver.numbers = (s.receiver.jpegPacketIncomingBuffer.map Prod.fst).map
      CustomJpegPacket.number := by
    rw [List.map_map]
    rfl
  rw [hnumbers]
  exact hmedia.sublist ((hsuffix.sublist.map _).trans h.arrived)

/-! ### Recovered packets in the buffer -/

namespace Receiver

variable {r : Receiver} {message : Octets} {packet q : CustomJpegPacket}

lemma recovers_eq_some (h : r.recovers message packet = some q) :
    bufferSize ≤ (r.jpegPacketIncomingBuffer ++ [(packet, message)]).length ∧
      gap (r.jpegPacketIncomingBuffer ++ [(packet, message)]) = some 2 ∧
      ∃ recovered, recoveredPacket (r.jpegPacketIncomingBuffer ++ [(packet, message)])
        r.fecPacketIncomingBuffer = .ok (some recovered) ∧ recovered.1 = q := by
  simp only [recovers, recoveredInGap] at h
  split_ifs at h with hfull hgap
  refine ⟨hfull, hgap, ?_⟩
  rcases hrecover : recoveredPacket (r.jpegPacketIncomingBuffer ++ [(packet, message)])
    r.fecPacketIncomingBuffer with fault | - | recovered <;> rw [hrecover] at h
  · cases h
  · cases h
  · exact ⟨recovered, rfl, Option.some.inj h⟩

/-- The buffer after a recovery, before its oldest packet moves on. -/
lemma handleNewJpegPacket_of_recovers (haccepted : r.accepted message = some packet)
    (h : r.recovers message packet = some q) :
    ∃ (r' : Receiver) (recovered : MediaPacket),
      r.handleNewJpegPacket message = (r'.moveFront, .ok true) ∧
      recovered.1.header.sequenceNumber = 0 ∧
      r'.jpegPacketIncomingBuffer = (r.jpegPacketIncomingBuffer ++ [(packet, message)]).insertIdx
        ((r.jpegPacketIncomingBuffer ++ [(packet, message)]).length - mediaPacketDelay)
        recovered := by
  obtain ⟨hfull, hgap, recovered, hrecover, -⟩ := recovers_eq_some h
  obtain ⟨hmedia, hvalid⟩ := media_of_accepted haccepted
  rcases hupdate : updateUtility r.jpegSequenceUtility packet.header.sequenceNumber with
    ⟨utility, valid⟩
  rw [hupdate] at hvalid
  dsimp only at hvalid
  subst hvalid
  have hclose := closeGap_of_eq (r := r.append utility (packet, message)) hgap
  have hrecover' : recoveredPacket (r.append utility (packet, message)).jpegPacketIncomingBuffer
      (r.append utility (packet, message)).fecPacketIncomingBuffer = .ok (some recovered) :=
    hrecover
  rw [hrecover'] at hclose
  rw [List.length_append, List.length_singleton] at hfull
  rw [handleNewJpegPacket_of_accepted hmedia hupdate, if_neg (not_lt.mpr hfull), hclose]
  exact ⟨_, recovered, rfl, recoveredPacket_sequenceNumber hrecover, rfl⟩

/-- A recovered packet stands behind one with a number that is no smaller. -/
lemma not_pairwise_of_recovers (haccepted : r.accepted message = some packet)
    (h : r.recovers message packet = some q) :
    ¬(r.handleNewJpegPacket message).1.numbers.Pairwise (· < ·) := by
  obtain ⟨hfull, hgap, -⟩ := recovers_eq_some h
  obtain ⟨r', recovered, hhandle, hzero, hbuffer⟩ := handleNewJpegPacket_of_recovers haccepted h
  obtain ⟨older, previous, closing, newer, hsplit, hnewer, -⟩ := gap_eq_some hfull hgap
  have hlength := congrArg List.length hsplit
  rw [List.length_map] at hlength
  have hplace : (r.jpegPacketIncomingBuffer ++ [(packet, message)]).length - mediaPacketDelay =
      (older ++ [previous]).length := by
    rw [hlength, List.append_cons, List.length_append, List.length_cons, hnewer]
    exact Nat.add_sub_cancel _ mediaPacketDelay
  have hinserted : r'.jpegPacketIncomingBuffer.map Prod.fst =
      older ++ previous :: recovered.1 :: closing :: newer := by
    rw [hbuffer, List.map_insertIdx, hsplit, hplace, List.append_cons, insertIdx_append,
      ← List.append_cons]
  obtain ⟨oldest, older, rfl⟩ : ∃ oldest rest, older = oldest :: rest := by
    apply List.exists_cons_of_ne_nil
    rintro rfl
    rw [hlength, List.nil_append, List.length_cons, List.length_cons, hnewer] at hfull
    exact absurd hfull (by decide)
  rcases hcons : r'.jpegPacketIncomingBuffer with - | ⟨front, buffer⟩
  · rw [hcons] at hinserted
    cases hinserted
  · rw [hcons, List.map_cons, List.cons_append] at hinserted
    obtain ⟨-, hrest⟩ := List.cons.inj hinserted
    have hnumbers : (r.handleNewJpegPacket message).1.numbers =
        (older ++ previous :: recovered.1 :: closing :: newer).map CustomJpegPacket.number := by
      rw [hhandle, ← hrest, List.map_map, moveFront, hcons]
      rfl
    intro hpairwise
    have hnumber : recovered.1.number = 0 := congrArg UInt16.toNat hzero
    rw [hnumbers, List.map_append, List.map_cons, List.map_cons, hnumber] at hpairwise
    have hsuffix := (List.pairwise_append.mp hpairwise).2.1
    exact absurd ((List.pairwise_cons.mp hsuffix).1 0 List.mem_cons_self) (Nat.not_lt_zero _)

end Receiver

/-- While media packets arrive in increasing order, the buffer is in this order as long as no packet
is recovered, and the first recovered one breaks it. -/
theorem stream_order_iff {ssrc : UInt32} {statisticsHandler : Bool} {events : List ReceiverEvent}
    {s : Reception} (hrun : receptionSystem.run { receiver :=
      { ssrc := ssrc, statisticsHandler := statisticsHandler } } events = some s)
    (hok : receptionSystem.Meets Reception.RecoversNothing { receiver :=
      { ssrc := ssrc, statisticsHandler := statisticsHandler } } events)
    (hmedia : (mediaNumbers ssrc events).Pairwise (· < ·)) :
    s.receiver.numbers.Pairwise (· < ·) ∧
      ∀ message, (mediaNumbers ssrc (events ++ [.datagram false message])).Pairwise (· < ·) →
        ((s.receive message).receiver.numbers.Pairwise (· < ·) ↔
          s.RecoversNothing (.datagram false message)) := by
  have h : InArrivalOrder ssrc events s := by
    refine System.run_invariant hok hrun ⟨rfl, rfl, List.nil_sublist _⟩ ?_
    intro es e t t' ht hone hstep
    exact ht.step hone hstep
  refine ⟨h.pairwise hmedia, fun message hnext => ?_⟩
  constructor
  · intro hpairwise message' hmessage packet haccepted
    cases hmessage
    by_contra hrecovers
    rw [← Receiver.recovers_eq_none_iff] at hrecovers
    obtain ⟨q, hq⟩ := Option.ne_none_iff_exists'.mp hrecovers
    apply Receiver.not_pairwise_of_recovers haccepted hq
    rw [Receiver.numbers, Reception.receive_buffer] at hpairwise
    exact hpairwise
  · intro hone
    exact (h.step hone (rfl : s.step (.datagram false message) = _)).pairwise hnext

/-- Two packets are lost in a row, so that none is recovered. -/
theorem stream_order_iff_burst :
    ∃ s ∈ receptionSystem.run { receiver := { ssrc := 7 } } (lossyDatagrams [32, 33] 53),
      s.receiver.uncorrectable = 1 ∧ s.receiver.numbers.Pairwise (· < ·) := by
  obtain ⟨s, hrun, huncorrectable⟩ :
      ∃ s ∈ receptionSystem.run { receiver := { ssrc := 7 } } (lossyDatagrams [32, 33] 53),
        s.receiver.uncorrectable = 1 := by
    decide +kernel
  have hok : receptionSystem.Meets Reception.RecoversNothing { receiver := { ssrc := 7 } }
      (lossyDatagrams [32, 33] 53) := by
    decide +kernel
  have hmedia : (mediaNumbers 7 (lossyDatagrams [32, 33] 53)).Pairwise (· < ·) := by
    decide
  exact ⟨s, hrun, huncorrectable,
    (stream_order_iff hrun hok hmedia).1⟩

/-- One packet is lost and recovered. -/
theorem stream_order_broken :
    ¬∀ (ssrc : UInt32) (events : List ReceiverEvent) (s : Reception),
      receptionSystem.run { receiver := { ssrc := ssrc } } events = some s →
        (mediaNumbers ssrc events).Pairwise (· < ·) → s.receiver.numbers.Pairwise (· < ·) := by
  intro h
  obtain ⟨s, hrun, hnumbers⟩ :
      ∃ s ∈ receptionSystem.run { receiver := { ssrc := 7 } } (lossyDatagrams [32] 52),
        ¬s.receiver.numbers.Pairwise (· < ·) := by
    decide +kernel
  have hmedia : (mediaNumbers 7 (lossyDatagrams [32] 52)).Pairwise (· < ·) := by
    decide
  exact hnumbers (h 7 _ s hrun hmedia)

end Rtp
