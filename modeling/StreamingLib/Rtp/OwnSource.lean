import StreamingLib.Rtp.GroupRecovery
import StreamingLib.Rtp.Movie
import StreamingLib.Rtp.Receiving

/-!
# The source of a sender

A sender marks all its datagrams with the source that it was built with, and a receiver of this
source refuses none of them for its source, whatever state it is in.
-/

namespace Rtp

/-! ### Refusal -/

namespace Receiver

variable {r : Receiver} {message rest : Octets}

lemma closeGap_ne_wrongSsrc (r : Receiver) : r.closeGap.2 ≠ some .wrongSsrc := by
  rcases closeGap_cases r with ⟨-, h⟩ | ⟨d, -, -, h⟩ | ⟨d, -, -, h⟩ |
    ⟨-, ⟨fault, hrecovered, h⟩ | ⟨-, h⟩ | ⟨q, -, h⟩⟩ <;> rw [h]
  · simp
  · simp
  · simp
  · rcases recoveredPacket_eq_error hrecovered with rfl | rfl | rfl
    · simp
    · simp
    · simp
  · simp
  · simp

lemma report_ne_wrongSsrc (r : Receiver) : r.report.2 ≠ some .wrongSsrc := by
  unfold report
  split_ifs
  · cases r.jpegSequenceUtility with
    | none => simp
    | some utility => simp
  · simp

/-- A JPEG packet of the source of the receiver is not refused for it. -/
lemma handleNewJpegPacket_ne_wrongSsrc {packet : CustomJpegPacket}
    (hparse : customJpegPacketGrammar {} message = .ok (packet, rest))
    (hssrc : packet.header.ssrc = r.ssrc) :
    (r.handleNewJpegPacket message).2 ≠ .ok false ∧
      (r.handleNewJpegPacket message).2 ≠ .error .wrongSsrc := by
  by_cases hdata : packet.data.length < 2
  · unfold handleNewJpegPacket
    rw [hparse]
    dsimp only
    rw [if_neg (not_not.mpr hssrc), if_pos hdata]
    simp
  have hmedia : mediaPacket r.ssrc message = some packet := by
    unfold mediaPacket
    rw [hparse]
    exact if_pos ⟨hssrc, not_lt.mp hdata⟩
  rcases hupdate : updateUtility r.jpegSequenceUtility packet.header.sequenceNumber with
    ⟨utility, - | -⟩
  · rw [handleNewJpegPacket_of_rejected hmedia hupdate]
    simp
  · rw [handleNewJpegPacket_of_accepted hmedia hupdate]
    split_ifs with hshort
    · simp
    · have hfault := closeGap_ne_wrongSsrc (r.append utility (packet, message))
      rcases hclose : (r.append utility (packet, message)).closeGap with ⟨r', - | fault⟩
      · simp
      · rw [hclose] at hfault
        exact ⟨nofun, fun h => hfault (congrArg some (Except.error.inj h))⟩

/-- A message is not refused if it is a JPEG packet of the source of the receiver, or no JPEG packet
and no FEC packet of another source. -/
lemma handleNewIncomingMessage_ne_wrongSsrc
    (h : (∃ packet rest, customJpegPacketGrammar {} message = .ok (packet, rest) ∧
        packet.header.ssrc = r.ssrc) ∨
      (∃ packet, customJpegPacketGrammar {} message = .error packet) ∧
        ∀ fec rest, customFecPacketGrammar {} message = .ok (fec, rest) →
          fec.header.ssrc = r.ssrc) :
    (r.handleNewIncomingMessage message).2 ≠ some .wrongSsrc := by
  unfold handleNewIncomingMessage
  rcases h with ⟨packet, rest, hparse, hssrc⟩ | ⟨⟨packet, hparse⟩, hfec⟩
  · obtain ⟨hmedia, hfault⟩ := handleNewJpegPacket_ne_wrongSsrc hparse hssrc
    rcases hresult : r.handleNewJpegPacket message with ⟨r', fault | - | -⟩ <;>
      rw [hresult] at hmedia hfault
    · exact fun h => hfault (congrArg Except.error (Option.some.inj h))
    · exact absurd rfl hmedia
    · exact report_ne_wrongSsrc r'
  · have hjpeg : r.handleNewJpegPacket message = (r, .ok false) := by
      unfold handleNewJpegPacket
      rw [hparse]
    rw [hjpeg]
    dsimp only
    rcases handleNewFecPacket_cases r message with ⟨-, h⟩ | ⟨fec, rest, hread, -, hother, -⟩ |
      ⟨fec, rest, -, -, -, utility, fecs, h⟩
    · rw [h]
      exact report_ne_wrongSsrc r
    · exact absurd (hfec fec rest hread) hother
    · rw [h]
      exact report_ne_wrongSsrc _

end Receiver

/-! ### Sending -/

/-- No receiver of the source refuses the datagram for its source. -/
def Recognised (ssrc : UInt32) (datagram : Octets) : Prop :=
  ∀ r : Receiver, r.ssrc = ssrc → (r.handleNewIncomingMessage datagram).2 ≠ some .wrongSsrc

lemma recognised_sentPacket (ssrc : UInt32) (sequenceNumber : UInt16) (data : Octets) :
    Recognised ssrc (customJpegPacketGenerator (sentPacket ssrc sequenceNumber data)).2 :=
  fun _ hssrc => Receiver.handleNewIncomingMessage_ne_wrongSsrc (Or.inl ⟨_, _,
    customJpegPacketGrammar_generated (sentPacket_plain ssrc sequenceNumber data), hssrc.symm⟩)

lemma recognised_fecRtpHeader (n : UInt16) (ssrc timestamp : UInt32) (fec : Octets) :
    Recognised ssrc ((standardRtpHeaderGenerator (fecRtpHeader n ssrc timestamp)).2 ++ fec) := by
  have hplain := fecRtpHeader_plain n ssrc timestamp
  intro r hssrc
  rw [fecRtpHeader_generated]
  apply Receiver.handleNewIncomingMessage_ne_wrongSsrc
  have htype : (fecRtpHeader n ssrc timestamp).payloadTypeField ≠ 26 :=
    show (100 : UInt8) ≠ 26 by decide
  refine Or.inr ⟨customJpegPacketGrammar_error hplain rfl htype fec, fun fec rest h => ?_⟩
  have hheader := (customFecPacketGrammar_header hplain rfl h).1
  exact (congrArg (·.ssrc) hheader).trans hssrc.symm

namespace Sender

/-- No receiver of its source refuses what the sender has sent for its source. -/
def Marks (s : Sender) : Prop := ∀ datagram ∈ s.sent, Recognised s.ssrc datagram

/-- A sender of the same source that has sent more. -/
structure Extends (s s' : Sender) : Prop where
  ssrc : s'.ssrc = s.ssrc
  marks : s.Marks → s'.Marks

variable {s s' s'' : Sender}

lemma Extends.trans (h : s.Extends s') (h' : s'.Extends s'') : s.Extends s'' :=
  ⟨h'.ssrc.trans h.ssrc, fun hs => h'.marks (h.marks hs)⟩

/-- Nothing is sent. -/
lemma extends_of_eq (hssrc : s'.ssrc = s.ssrc) (hsent : s'.sent = s.sent) : s.Extends s' :=
  ⟨hssrc, fun h => by rwa [Marks, hssrc, hsent]⟩

lemma extends_of_append {datagram : Octets} (hssrc : s'.ssrc = s.ssrc)
    (hsent : s'.sent = s.sent ++ [datagram]) (h : Recognised s.ssrc datagram) : s.Extends s' := by
  refine ⟨hssrc, fun hs => ?_⟩
  rw [Marks, hssrc, hsent]
  exact List.forall_mem_append.mpr ⟨hs, List.forall_mem_singleton.mpr h⟩

lemma start_extends (s : Sender) : s.Extends s.start := by
  unfold start
  split_ifs <;> exact extends_of_eq rfl rfl

lemma stop_extends (s : Sender) : s.Extends s.stop := by
  unfold stop
  split_ifs <;> exact extends_of_eq rfl rfl

lemma sendTo_extends (s : Sender) (drop : Bool) {datagram : Octets}
    (h : Recognised s.ssrc datagram) : s.Extends (s.sendTo drop datagram) := by
  unfold sendTo
  split_ifs
  · exact extends_of_eq rfl rfl
  · exact extends_of_append rfl rfl h

lemma sendFec_extends (s : Sender) (buffer : Octets) (timestamp : UInt32) (drop : Bool) :
    s.Extends (s.sendFec buffer timestamp drop).1 := by
  unfold sendFec
  split
  · exact extends_of_eq rfl rfl
  · split
    · exact extends_of_eq rfl rfl
    · exact extends_of_eq rfl rfl
    · dsimp only
      split_ifs
      · exact extends_of_eq rfl rfl
      · exact extends_of_append rfl rfl (recognised_fecRtpHeader _ _ _ _)

lemma sendNextPacketHandler_extends (s : Sender) (error dropMedia dropFec : Bool) :
    s.Extends (s.sendNextPacketHandler error dropMedia dropFec).1 := by
  unfold sendNextPacketHandler
  cases error with
  | true => exact extends_of_eq rfl rfl
  | false =>
    rw [if_neg Bool.false_ne_true]
    rcases s.jpegSource.readFrame with ⟨frame, source⟩
    cases frame with
    | noLength => exact extends_of_eq rfl rfl
    | badLength => exact extends_of_eq rfl rfl
    | endOfFile => exact extends_of_eq rfl rfl
    | data data =>
      have hread : s.Extends { s with jpegSource := source } := extends_of_eq rfl rfl
      have hmedia := hread.trans (sendTo_extends { s with jpegSource := source } dropMedia
        (recognised_sentPacket s.ssrc s.currentSequenceNumber data))
      have hfec := hmedia.trans (sendFec_extends _
        (customJpegPacketGenerator (sentPacket s.ssrc s.currentSequenceNumber data)).2
        (sentPacket s.ssrc s.currentSequenceNumber data).header.timestamp dropFec)
      dsimp only
      rcases hsend : Sender.sendFec _ _ _ dropFec with ⟨s', - | fault⟩
      · rw [hsend] at hfec
        exact hfec.trans (extends_of_eq rfl rfl)
      · rw [hsend] at hfec
        exact hfec

/-- Every step keeps the source and marks what it sends. -/
lemma step_extends {event : SenderEvent} (h : s.step event = some s') : s.Extends s' := by
  cases event with
  | start =>
    cases h
    exact start_extends s
  | stop =>
    cases h
    exact stop_extends s
  | strand =>
    simp only [step] at h
    split at h
    · cases h
    · cases h
      exact extends_of_eq rfl rfl
  | expire =>
    simp only [step] at h
    split_ifs at h
    cases h
    exact extends_of_eq rfl rfl
  | handler dropMedia dropFec =>
    simp only [step] at h
    split_ifs at h
    cases h
    have htimer : s.Extends { s with timer := { s.timer with fired := s.timer.fired - 1 } } :=
      extends_of_eq rfl rfl
    exact htimer.trans (sendNextPacketHandler_extends _ false dropMedia dropFec)
  | abortedHandler =>
    simp only [step] at h
    split_ifs at h
    cases h
    have htimer : s.Extends { s with timer := { s.timer with aborted := s.timer.aborted - 1 } } :=
      extends_of_eq rfl rfl
    exact htimer.trans (sendNextPacketHandler_extends _ true false false)

end Sender

end Rtp
