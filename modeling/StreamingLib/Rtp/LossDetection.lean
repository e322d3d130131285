import StreamingLib.Counters.Serial
import StreamingLib.Rtp.ReconstructionBounds

/-!
# Loss detection

The gap at the place of the check is a difference of `int`s, while the sequence numbers are modulo
`2 ^ 16`. To see the calls of `recover_packet_by_fec`, the handler is given with a trace of them.
-/

namespace Rtp

open Serial

namespace Receiver

/-! ### The handler with a trace -/

/-- `recover_packet_by_fec` with the number it is to recover. -/
def recoverPacketByFecTraced (r : Receiver) :
    (Receiver × Except ReceiverFault Bool) × List (Option ℤ) :=
  (r.recoverPacketByFec, [(fromEnd r.jpegPacketIncomingBuffer mediaPacketDelay).map fun closing =>
    (closing.1.number : ℤ) - 1])

def closeGapTraced (r : Receiver) : (Receiver × Option ReceiverFault) × List (Option ℤ) :=
  match gap r.jpegPacketIncomingBuffer with
  | none => ((r, some .outsideBuffer), [])
  | some gap =>
    if gap = 2 then
      match r.recoverPacketByFecTraced with
      | ((r, .error fault), calls) => ((r, some fault), calls)
      | ((r, .ok true), calls) => (({ r with corrected := r.corrected + 1 }, none), calls)
      | ((r, .ok false), calls) => (({ r with uncorrectable := r.uncorrectable + 1 }, none), calls)
    else if gap > 2 then (({ r with uncorrectable := r.uncorrectable + 1 }, none), [])
    else ((r, none), [])

/-- `handle_new_jpeg_packet` with the numbers that it tries to recover. -/
def handleNewJpegPacketTraced (r : Receiver) (message : Octets) :
    (Receiver × Except ReceiverFault Bool) × List (Option ℤ) :=
  match customJpegPacketGrammar {} message with
  | .error _ => ((r, .ok false), [])
  | .ok (jpegPacket, _) =>
    if jpegPacket.header.ssrc ≠ r.ssrc then ((r, .error .wrongSsrc), [])
    else if jpegPacket.data.length < 2 then ((r, .error .outOfRange), [])
    else
      match updateUtility r.jpegSequenceUtility jpegPacket.header.sequenceNumber with
      | (utility, false) => (({ r with jpegSequenceUtility := some utility }, .ok true), [])
      | (utility, true) =>
        let r := { r with
          jpegSequenceUtility := some utility
          jpegPacketIncomingBuffer := r.jpegPacketIncomingBuffer ++ [(jpegPacket, message)] }
        if r.jpegPacketIncomingBuffer.length < bufferSize then ((r, .ok true), [])
        else
          match r.closeGapTraced with
          | ((r, some fault), calls) => ((r, .error fault), calls)
          | ((r, none), calls) => ((r.moveFront, .ok true), calls)

/-- The trace changes nothing. -/
lemma closeGapTraced_fst (r : Receiver) : r.closeGapTraced.1 = r.closeGap := by
  unfold closeGapTraced closeGap recoverPacketByFecTraced
  rcases gap r.jpegPacketIncomingBuffer with - | d
  · rfl
  · dsimp only
    split_ifs
    · rcases r.recoverPacketByFec with ⟨r', fault | - | -⟩
      · rfl
      · rfl
      · rfl
    · rfl
    · rfl

theorem handleNewJpegPacketTraced_fst (r : Receiver) (message : Octets) :
    (r.handleNewJpegPacketTraced message).1 = r.handleNewJpegPacket message := by
  unfold handleNewJpegPacketTraced handleNewJpegPacket
  rcases customJpegPacketGrammar {} message with error | ⟨packet, rest⟩
  · rfl
  · dsimp only
    by_cases hssrc : packet.header.ssrc ≠ r.ssrc
    · rw [if_pos hssrc, if_pos hssrc]
    · rw [if_neg hssrc, if_neg hssrc]
      by_cases hdata : packet.data.length < 2
      · rw [if_pos hdata, if_pos hdata]
      · rw [if_neg hdata, if_neg hdata]
        rcases updateUtility r.jpegSequenceUtility packet.header.sequenceNumber with
          ⟨utility, - | -⟩
        · rfl
        · dsimp only
          by_cases hshort : (r.jpegPacketIncomingBuffer ++ [(packet, message)]).length < bufferSize
          · rw [if_pos hshort, if_pos hshort]
          · rw [if_neg hshort, if_neg hshort, ← closeGapTraced_fst]
            generalize Receiver.closeGapTraced _ = traced
            rcases traced with ⟨⟨r', - | fault⟩, calls⟩
            · rfl
            · rfl

variable {r : Receiver} {message : Octets} {packet : CustomJpegPacket}

/-- A recovery is tried for a gap of two only. -/
lemma closeGapTraced_snd {closing previous : MediaPacket}
    (hclosing : fromEnd r.jpegPacketIncomingBuffer mediaPacketDelay = some closing)
    (hprevious : fromEnd r.jpegPacketIncomingBuffer (mediaPacketDelay + 1) = some previous) :
    r.closeGapTraced.2 =
      if (closing.1.number : ℤ) - previous.1.number = 2 then [some ((closing.1.number : ℤ) - 1)]
      else [] := by
  have hgap : gap r.jpegPacketIncomingBuffer = some ((closing.1.number : ℤ) - previous.1.number) :=
    gap_eq hclosing hprevious
  unfold closeGapTraced recoverPacketByFecTraced
  rw [hgap, hclosing]
  dsimp only
  split_ifs
  · rcases r.recoverPacketByFec with ⟨r', fault | - | -⟩
    · rfl
    · rfl
    · rfl
  · rfl
  · rfl

lemma uncorrectable_moveFront (r : Receiver) : r.moveFront.uncorrectable = r.uncorrectable := by
  unfold moveFront
  cases r.jpegPacketIncomingBuffer <;> rfl

/-- What is done with an accepted packet in a full buffer. -/
lemma handleNewJpegPacketTraced_of_full (haccepted : r.accepted message = some packet)
    (hfull : bufferSize ≤ r.jpegPacketIncomingBuffer.length + 1) :
    ∃ utility, (r.handleNewJpegPacketTraced message).2 =
        (r.append utility (packet, message)).closeGapTraced.2 ∧
      (r.handleNewJpegPacket message).1.uncorrectable =
        (r.append utility (packet, message)).closeGap.1.uncorrectable := by
  obtain ⟨hmedia, hvalid⟩ := media_of_accepted haccepted
  obtain ⟨rest, hparse, hssrc, hdata⟩ := mediaPacket_eq_some hmedia
  rcases hupdate : updateUtility r.jpegSequenceUtility packet.header.sequenceNumber with
    ⟨utility, valid⟩
  rw [hupdate] at hvalid
  dsimp only at hvalid
  subst hvalid
  have hlong : ¬(r.append utility (packet, message)).jpegPacketIncomingBuffer.length <
      bufferSize := by
    rw [length_buffer_append]
    exact not_lt.mpr hfull
  refine ⟨utility, ?_, ?_⟩
  · unfold handleNewJpegPacketTraced
    rw [hparse]
    dsimp only
    rw [if_neg (not_not.mpr hssrc), if_neg (not_lt.mpr hdata), hupdate]
    refine (congrArg Prod.snd (if_neg hlong)).trans ?_
    change (match (r.append utility (packet, message)).closeGapTraced with
      | ((r, some fault), calls) => ((r, .error fault), calls)
      | ((r, none), calls) => ((r.moveFront, .ok true), calls) :
        (Receiver × Except ReceiverFault Bool) × List (Option ℤ)).2 = _
    rcases (r.append utility (packet, message)).closeGapTraced with ⟨⟨r', - | fault⟩, calls⟩
    · rfl
    · rfl
  · rw [handleNewJpegPacket_of_accepted hmedia hupdate, if_neg (not_lt.mpr hfull)]
    rcases (r.append utility (packet, message)).closeGap with ⟨r', - | fault⟩
    · exact uncorrectable_moveFront r'
    · rfl

/-! ### Pairs before and after the wrap -/

variable {closing previous : MediaPacket}

/-- A loss is noticed by the distance of the packets modulo `2 ^ 16`. -/
structure DetectsLoss (r : Receiver) (message : Octets) (closing previous : MediaPacket) :
    Prop where
  called : (r.handleNewJpegPacketTraced message).2 ≠ [] ↔
    ahead 65536 previous.1.number closing.1.number = 2
  between : ∀ n ∈ (r.handleNewJpegPacketTraced message).2,
    n = some (((previous.1.number + 1) % 65536 : ℕ) : ℤ)
  counted : 3 ≤ ahead 65536 previous.1.number closing.1.number →
    ahead 65536 previous.1.number closing.1.number ≤ 2999 →
    (r.handleNewJpegPacket message).1.uncorrectable = r.uncorrectable + 1

lemma number_lt (p : CustomJpegPacket) : p.number < 65536 := p.header.sequenceNumber.toNat_lt

/-- The newer packet has the larger number, so that the gap is the distance. -/
lemma detectsLoss_of_le (haccepted : r.accepted message = some packet)
    (hfull : bufferSize ≤ r.jpegPacketIncomingBuffer.length + 1)
    (hclosing : fromEnd (r.jpegPacketIncomingBuffer ++ [(packet, message)]) mediaPacketDelay =
      some closing)
    (hprevious : fromEnd (r.jpegPacketIncomingBuffer ++ [(packet, message)])
      (mediaPacketDelay + 1) = some previous)
    (hle : previous.1.number ≤ closing.1.number) : r.DetectsLoss message closing previous := by
  obtain ⟨utility, htrace, huncorrectable⟩ := handleNewJpegPacketTraced_of_full haccepted hfull
  have hlt : closing.1.number < 65536 := number_lt closing.1
  have hcalls := closeGapTraced_snd (r := r.append utility (packet, message)) hclosing hprevious
  have hgap := gap_eq hclosing hprevious
  have hahead := ahead_of_le hle hlt
  by_cases htwo : closing.1.number = previous.1.number + 2
  · have hdiff : (closing.1.number : ℤ) - previous.1.number = 2 := by omega
    rw [if_pos hdiff] at hcalls
    refine ⟨?_, ?_, fun h => ?_⟩
    · rw [htrace, hcalls]
      refine iff_of_true (List.cons_ne_nil _ _) ?_
      rw [hahead, htwo, Nat.add_sub_cancel_left]
    · intro n hn
      rw [htrace, hcalls, List.mem_singleton] at hn
      rw [hn, Nat.mod_eq_of_lt (by omega), htwo]
      congr 1
      omega
    · omega
  · have hdiff : (closing.1.number : ℤ) - previous.1.number ≠ 2 := by omega
    rw [if_neg hdiff] at hcalls
    refine ⟨?_, ?_, fun h _ => ?_⟩
    · rw [htrace, hcalls]
      exact iff_of_false (not_not.mpr rfl) (by omega)
    · intro n hn
      rw [htrace, hcalls] at hn
      cases hn
    · rw [huncorrectable, closeGap_of_gt (r := r.append utility (packet, message)) hgap]
      · rfl
      · rw [hahead] at h
        change 2 < (closing.1.number : ℤ) - previous.1.number
        omega

/-- Across the wrap the gap is negative, so that nothing is noticed. -/
lemma unnoticed_of_lt (haccepted : r.accepted message = some packet)
    (hfull : bufferSize ≤ r.jpegPacketIncomingBuffer.length + 1)
    (hclosing : fromEnd (r.jpegPacketIncomingBuffer ++ [(packet, message)]) mediaPacketDelay =
      some closing)
    (hprevious : fromEnd (r.jpegPacketIncomingBuffer ++ [(packet, message)])
      (mediaPacketDelay + 1) = some previous)
    (hlt : closing.1.number < previous.1.number) :
    (r.handleNewJpegPacketTraced message).2 = [] ∧
      (r.handleNewJpegPacket message).1.uncorrectable = r.uncorrectable := by
  obtain ⟨utility, htrace, huncorrectable⟩ := handleNewJpegPacketTraced_of_full haccepted hfull
  have hnegative : (closing.1.number : ℤ) - previous.1.number < 0 := by
    rw [sub_neg]
    exact_mod_cast hlt
  have hcalls := closeGapTraced_snd (r := r.append utility (packet, message)) hclosing hprevious
  have hgap := gap_eq hclosing hprevious
  rw [if_neg (by omega)] at hcalls
  refine ⟨htrace.trans hcalls, ?_⟩
  rw [huncorrectable, closeGap_of_lt (r := r.append utility (packet, message)) hgap
    (hnegative.trans (by decide))]
  rfl

/-- A loss is noticed exactly where the pair does not straddle the wrap. -/
theorem loss_detection_iff (haccepted : r.accepted message = some packet)
    (hfull : bufferSize ≤ r.jpegPacketIncomingBuffer.length + 1)
    (hclosing : fromEnd (r.jpegPacketIncomingBuffer ++ [(packet, message)]) mediaPacketDelay =
      some closing)
    (hprevious : fromEnd (r.jpegPacketIncomingBuffer ++ [(packet, message)])
      (mediaPacketDelay + 1) = some previous) :
    r.DetectsLoss message closing previous ↔
      ¬(closing.1.number < previous.1.number ∧
        2 ≤ ahead 65536 previous.1.number closing.1.number ∧
        ahead 65536 previous.1.number closing.1.number ≤ 2999) := by
  rcases le_or_gt previous.1.number closing.1.number with hle | hlt
  · refine iff_of_true (detectsLoss_of_le haccepted hfull hclosing hprevious hle) ?_
    exact fun h => not_lt.mpr hle h.1
  · obtain ⟨htrace, huncorrectable⟩ := unnoticed_of_lt haccepted hfull hclosing hprevious hlt
    constructor
    · rintro h ⟨-, htwo, hdropout⟩
      rcases htwo.eq_or_lt with heq | hthree
      · exact h.called.mpr heq.symm htrace
      · have hcounted := h.counted hthree hdropout
        rw [huncorrectable] at hcounted
        exact absurd hcounted (by simp)
    · intro h
      refine ⟨?_, ?_, fun hthree hdropout => absurd ⟨hlt, by omega, hdropout⟩ h⟩
      · refine iff_of_false (not_not.mpr htrace) fun htwo => h ⟨hlt, ?_, ?_⟩
        · exact htwo.ge
        · exact htwo.le.trans (by decide)
      · intro n hn
        rw [htrace] at hn
        cases hn

/-- The packet 32 is missing. -/
theorem loss_detection_iff_within :
    ∃ s ∈ receptionSystem.run { receiver := { ssrc := 7 } } gapDatagrams,
      s.receiver.DetectsLoss (raw (smallPacket 52)) (smallPacket 33, raw (smallPacket 33))
        (smallPacket 31, raw (smallPacket 31)) := by
  obtain ⟨s, hrun, haccepted, hfull, hclosing, hprevious⟩ :
      ∃ s ∈ receptionSystem.run { receiver := { ssrc := 7 } } gapDatagrams,
        s.receiver.accepted (raw (smallPacket 52)) = some (smallPacket 52) ∧
        bufferSize ≤ s.receiver.jpegPacketIncomingBuffer.length + 1 ∧
        fromEnd (s.receiver.jpegPacketIncomingBuffer ++
          [(smallPacket 52, raw (smallPacket 52))]) mediaPacketDelay =
            some (smallPacket 33, raw (smallPacket 33)) ∧
        fromEnd (s.receiver.jpegPacketIncomingBuffer ++
          [(smallPacket 52, raw (smallPacket 52))]) (mediaPacketDelay + 1) =
            some (smallPacket 31, raw (smallPacket 31)) := by
    decide +kernel
  refine ⟨s, hrun, (loss_detection_iff haccepted hfull hclosing hprevious).mpr ?_⟩
  exact fun h => absurd h.1 (by decide)

/-- The packets from number 65505 on without number 0. -/
def wrapDatagrams : List ReceiverEvent :=
  ((List.range' 65505 51).filter (· ≠ 65536)).map fun n => .datagram false (raw (smallPacket n))

/-- The packet 0 is missing, between 65535 and 1. -/
theorem loss_detection_wraps :
    ¬∀ (r : Receiver) (message : Octets) (packet : CustomJpegPacket)
      (closing previous : MediaPacket), r.accepted message = some packet →
      bufferSize ≤ r.jpegPacketIncomingBuffer.length + 1 →
      fromEnd (r.jpegPacketIncomingBuffer ++ [(packet, message)]) mediaPacketDelay =
        some closing →
      fromEnd (r.jpegPacketIncomingBuffer ++ [(packet, message)]) (mediaPacketDelay + 1) =
        some previous → r.DetectsLoss message closing previous := by
  intro h
  obtain ⟨s, -, haccepted, hfull, hclosing, hprevious, htrace⟩ :
      ∃ s ∈ receptionSystem.run { receiver := { ssrc := 7 } } wrapDatagrams,
        s.receiver.accepted (raw (smallPacket 20)) = some (smallPacket 20) ∧
        bufferSize ≤ s.receiver.jpegPacketIncomingBuffer.length + 1 ∧
        fromEnd (s.receiver.jpegPacketIncomingBuffer ++
          [(smallPacket 20, raw (smallPacket 20))]) mediaPacketDelay =
            some (smallPacket 1, raw (smallPacket 1)) ∧
        fromEnd (s.receiver.jpegPacketIncomingBuffer ++
          [(smallPacket 20, raw (smallPacket 20))]) (mediaPacketDelay + 1) =
            some (smallPacket 65535, raw (smallPacket 65535)) ∧
        (s.receiver.handleNewJpegPacketTraced (raw (smallPacket 20))).2 = [] := by
    decide +kernel
  have hdetects := h s.receiver _ _ _ _ haccepted hfull hclosing hprevious
  exact hdetects.called.mpr (by decide) htrace

end Receiver

end Rtp
