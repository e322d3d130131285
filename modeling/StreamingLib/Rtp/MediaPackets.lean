import StreamingLib.Rtp.Receiver

/-!
# What media packets change

A media packet is a JPEG packet with the ssrc of the receiver and at least two bytes of data. Only
media packets change the sequence utility, the incoming buffer and the counts of recoveries.
-/

namespace Rtp

/-! ### Media packets -/

/-- The sequence number of a packet. -/
def CustomJpegPacket.number (p : CustomJpegPacket) : ℕ := p.header.sequenceNumber.toNat

/-- The media packet of a datagram. -/
def mediaPacket (ssrc : UInt32) (message : Octets) : Option CustomJpegPacket :=
  match customJpegPacketGrammar {} message with
  | .error _ => none
  | .ok (packet, _) =>
    if packet.header.ssrc = ssrc ∧ 2 ≤ packet.data.length then some packet else none

lemma mediaPacket_eq_some {ssrc : UInt32} {message : Octets} {packet : CustomJpegPacket}
    (h : mediaPacket ssrc message = some packet) :
    ∃ rest, customJpegPacketGrammar {} message = .ok (packet, rest) ∧
      packet.header.ssrc = ssrc ∧ 2 ≤ packet.data.length := by
  unfold mediaPacket at h
  rcases hparse : customJpegPacketGrammar {} message with error | ⟨packet', rest⟩
  · rw [hparse] at h
    cases h
  · rw [hparse] at h
    dsimp only at h
    split_ifs at h with hmedia
    cases h
    exact ⟨rest, rfl, hmedia⟩

namespace Receiver

/-- The JPEG packet of a datagram, if it gets into the incoming buffer. -/
def accepted (r : Receiver) (message : Octets) : Option CustomJpegPacket :=
  match customJpegPacketGrammar {} message with
  | .error _ => none
  | .ok (packet, _) =>
    if packet.header.ssrc = r.ssrc ∧ 2 ≤ packet.data.length ∧
        (updateUtility r.jpegSequenceUtility packet.header.sequenceNumber).2 = true then
      some packet
    else none

variable {r : Receiver} {message : Octets} {packet : CustomJpegPacket}

/-- A packet is accepted where the sequence utility validates it. -/
lemma accepted_eq (r : Receiver) (message : Octets) :
    r.accepted message = (mediaPacket r.ssrc message).filter fun packet =>
      (updateUtility r.jpegSequenceUtility packet.header.sequenceNumber).2 := by
  unfold accepted mediaPacket
  rcases customJpegPacketGrammar {} message with error | ⟨packet, rest⟩
  · rfl
  · dsimp only
    by_cases hmedia : packet.header.ssrc = r.ssrc ∧ 2 ≤ packet.data.length
    · rw [if_pos hmedia, Option.filter_some]
      simp only [hmedia, true_and]
    · rw [if_neg hmedia, if_neg fun h => hmedia ⟨h.1, h.2.1⟩]
      rfl

lemma accepted_of_media (hmedia : mediaPacket r.ssrc message = some packet)
    (hvalid : (updateUtility r.jpegSequenceUtility packet.header.sequenceNumber).2 = true) :
    r.accepted message = some packet := by
  rw [accepted_eq, hmedia]
  exact Option.filter_some_pos hvalid

lemma accepted_of_rejected (hmedia : mediaPacket r.ssrc message = some packet)
    (hvalid : (updateUtility r.jpegSequenceUtility packet.header.sequenceNumber).2 = false) :
    r.accepted message = none := by
  rw [accepted_eq, hmedia, Option.filter_some, hvalid]
  rfl

lemma media_of_accepted (h : r.accepted message = some packet) :
    mediaPacket r.ssrc message = some packet ∧
      (updateUtility r.jpegSequenceUtility packet.header.sequenceNumber).2 = true := by
  rw [accepted_eq] at h
  exact Option.filter_eq_some_iff.mp h

/-- What is no media packet changes nothing here, and is no FEC packet if it meets a fault. -/
lemma handleNewJpegPacket_of_no_media (h : mediaPacket r.ssrc message = none) :
    (r.handleNewJpegPacket message).1 = r ∧
      ((∃ error, customJpegPacketGrammar {} message = .error error ∧
          (r.handleNewJpegPacket message).2 = .ok false) ∨
        (∃ parsed, customJpegPacketGrammar {} message = .ok parsed) ∧
          ∃ fault, fault ≠ .noUtility ∧ (r.handleNewJpegPacket message).2 = .error fault) := by
  unfold mediaPacket at h
  unfold handleNewJpegPacket
  rcases hparse : customJpegPacketGrammar {} message with error | ⟨packet, rest⟩
  · exact ⟨rfl, Or.inl ⟨error, rfl, rfl⟩⟩
  · rw [hparse] at h
    dsimp only at h ⊢
    by_cases hssrc : packet.header.ssrc = r.ssrc
    · rw [if_neg (not_not.mpr hssrc)]
      have hdata : packet.data.length < 2 := by
        by_contra hdata
        rw [if_pos ⟨hssrc, not_lt.mp hdata⟩] at h
        cases h
      rw [if_pos hdata]
      exact ⟨rfl, Or.inr ⟨⟨_, rfl⟩, .outOfRange, by decide, rfl⟩⟩
    · rw [if_pos hssrc]
      exact ⟨rfl, Or.inr ⟨⟨_, rfl⟩, .wrongSsrc, by decide, rfl⟩⟩

/-- A media packet that is not accepted. -/
lemma handleNewJpegPacket_of_rejected {utility : SequenceUtility}
    (hmedia : mediaPacket r.ssrc message = some packet)
    (hupdate : updateUtility r.jpegSequenceUtility packet.header.sequenceNumber =
      (utility, false)) :
    r.handleNewJpegPacket message = ({ r with jpegSequenceUtility := some utility }, .ok true) := by
  obtain ⟨rest, hparse, hssrc, hdata⟩ := mediaPacket_eq_some hmedia
  unfold handleNewJpegPacket
  rw [hparse]
  dsimp only
  rw [if_neg (not_not.mpr hssrc), if_neg (not_lt.mpr hdata), hupdate]

/-- The receiver with an accepted packet at the end of its buffer. -/
def append (r : Receiver) (utility : SequenceUtility) (packet : MediaPacket) : Receiver :=
  { r with
    jpegSequenceUtility := some utility
    jpegPacketIncomingBuffer := r.jpegPacketIncomingBuffer ++ [packet] }

@[simp] lemma length_buffer_append (r : Receiver) (utility : SequenceUtility)
    (packet : MediaPacket) : (r.append utility packet).jpegPacketIncomingBuffer.length =
      r.jpegPacketIncomingBuffer.length + 1 :=
  List.length_append

lemma handleNewJpegPacket_of_accepted {utility : SequenceUtility}
    (hmedia : mediaPacket r.ssrc message = some packet)
    (hupdate : updateUtility r.jpegSequenceUtility packet.header.sequenceNumber =
      (utility, true)) :
    r.handleNewJpegPacket message =
      if r.jpegPacketIncomingBuffer.length + 1 < bufferSize then
        (r.append utility (packet, message), .ok true)
      else
        match (r.append utility (packet, message)).closeGap with
        | (r', some fault) => (r', .error fault)
        | (r', none) => (r'.moveFront, .ok true) := by
  obtain ⟨rest, hparse, hssrc, hdata⟩ := mediaPacket_eq_some hmedia
  unfold handleNewJpegPacket
  rw [hparse]
  dsimp only
  rw [if_neg (not_not.mpr hssrc), if_neg (not_lt.mpr hdata), hupdate,
    ← length_buffer_append r utility (packet, message)]
  rfl

/-! ### Gaps -/

lemma fromEnd_of_le {α : Type} {l : List α} {n : ℕ} (hpos : 0 < n) (h : n ≤ l.length) :
    ∃ a, fromEnd l n = some a := by
  unfold fromEnd
  rw [if_pos h]
  exact ⟨_, List.getElem?_eq_getElem (by omega)⟩

lemma gap_eq {buffer : List MediaPacket} {closing previous : MediaPacket}
    (hclosing : fromEnd buffer mediaPacketDelay = some closing)
    (hprevious : fromEnd buffer (mediaPacketDelay + 1) = some previous) :
    gap buffer = some ((closing.1.header.sequenceNumber.toNat : ℤ) -
      previous.1.header.sequenceNumber.toNat) := by
  simp only [gap, hclosing, hprevious, Option.bind_eq_bind, Option.bind_some]

lemma exists_gap {buffer : List MediaPacket} (hfull : bufferSize ≤ buffer.length) :
    ∃ closing previous, fromEnd buffer mediaPacketDelay = some closing ∧
      fromEnd buffer (mediaPacketDelay + 1) = some previous := by
  obtain ⟨closing, hclosing⟩ := fromEnd_of_le (n := mediaPacketDelay) (by decide)
    (le_trans (by decide) hfull)
  obtain ⟨previous, hprevious⟩ := fromEnd_of_le (n := mediaPacketDelay + 1) (by decide)
    (le_trans (by decide) hfull)
  exact ⟨closing, previous, hclosing, hprevious⟩

section CloseGap

variable {d : ℤ}

/-- The next packet, or an older one. -/
lemma closeGap_of_lt (hgap : gap r.jpegPacketIncomingBuffer = some d) (hd : d < 2) :
    r.closeGap = (r, none) := by
  unfold closeGap
  rw [hgap]
  dsimp only
  rw [if_neg hd.ne, if_neg (not_lt.mpr hd.le)]

/-- More than one packet is missing. -/
lemma closeGap_of_gt (hgap : gap r.jpegPacketIncomingBuffer = some d) (hd : 2 < d) :
    r.closeGap = ({ r with uncorrectable := r.uncorrectable + 1 }, none) := by
  unfold closeGap
  rw [hgap]
  dsimp only
  rw [if_neg hd.ne', if_pos hd]

/-- One packet is missing. -/
lemma closeGap_of_eq (hgap : gap r.jpegPacketIncomingBuffer = some 2) :
    r.closeGap =
      match recoveredPacket r.jpegPacketIncomingBuffer r.fecPacketIncomingBuffer with
      | .error fault => (r, some fault)
      | .ok none => ({ r with uncorrectable := r.uncorrectable + 1 }, none)
      | .ok (some q) => ({ r with
          jpegPacketIncomingBuffer := r.jpegPacketIncomingBuffer.insertIdx
            (r.jpegPacketIncomingBuffer.length - mediaPacketDelay) q
          corrected := r.corrected + 1 }, none) := by
  unfold closeGap
  rw [hgap]
  dsimp only
  rw [if_pos rfl, recoverPacketByFec]
  rcases recoveredPacket r.jpegPacketIncomingBuffer r.fecPacketIncomingBuffer with
    fault | - | packet
  · rfl
  · rfl
  · rfl

/-- The ways in which a gap is closed. -/
lemma closeGap_cases (r : Receiver) :
    (gap r.jpegPacketIncomingBuffer = none ∧ r.closeGap = (r, some .outsideBuffer)) ∨
    (∃ d, gap r.jpegPacketIncomingBuffer = some d ∧ d < 2 ∧ r.closeGap = (r, none)) ∨
    (∃ d, gap r.jpegPacketIncomingBuffer = some d ∧ 2 < d ∧
      r.closeGap = ({ r with uncorrectable := r.uncorrectable + 1 }, none)) ∨
    gap r.jpegPacketIncomingBuffer = some 2 ∧
      ((∃ fault, recoveredPacket r.jpegPacketIncomingBuffer r.fecPacketIncomingBuffer =
          .error fault ∧ r.closeGap = (r, some fault)) ∨
        (recoveredPacket r.jpegPacketIncomingBuffer r.fecPacketIncomingBuffer = .ok none ∧
          r.closeGap = ({ r with uncorrectable := r.uncorrectable + 1 }, none)) ∨
        ∃ q, recoveredPacket r.jpegPacketIncomingBuffer r.fecPacketIncomingBuffer =
          .ok (some q) ∧ r.closeGap = ({ r with
            jpegPacketIncomingBuffer := r.jpegPacketIncomingBuffer.insertIdx
              (r.jpegPacketIncomingBuffer.length - mediaPacketDelay) q
            corrected := r.corrected + 1 }, none)) := by
  cases hgap : gap r.jpegPacketIncomingBuffer with
  | none =>
    refine Or.inl ⟨rfl, ?_⟩
    unfold closeGap
    rw [hgap]
  | some d =>
    right
    rcases lt_trichotomy d 2 with hlt | rfl | hgt
    · exact Or.inl ⟨d, rfl, hlt, closeGap_of_lt hgap hlt⟩
    · refine Or.inr (Or.inr ⟨rfl, ?_⟩)
      rw [closeGap_of_eq hgap]
      rcases recoveredPacket r.jpegPacketIncomingBuffer r.fecPacketIncomingBuffer with
        fault | - | q
      · exact Or.inl ⟨fault, rfl, rfl⟩
      · exact Or.inr (Or.inl ⟨rfl, rfl⟩)
      · exact Or.inr (Or.inr ⟨q, rfl, rfl⟩)
    · exact Or.inr (Or.inl ⟨d, rfl, hgt, closeGap_of_gt hgap hgt⟩)

end CloseGap

/-! ### Rules for the handlers -/

/-- What holds after each part of its work holds after a JPEG packet, in whichever way its handling
ends. -/
lemma handleNewJpegPacket_rule {P : Receiver → Prop} (h : P r)
    (hutility : ∀ packet utility, mediaPacket r.ssrc message = some packet →
      P { r with jpegSequenceUtility := some utility })
    (happend : ∀ packet utility, r.accepted message = some packet →
      P (r.append utility (packet, message)))
    (hclose : ∀ r' : Receiver, P r' → P r'.closeGap.1)
    (hmove : ∀ r' : Receiver, P r' → P r'.moveFront) : P (r.handleNewJpegPacket message).1 := by
  cases hmedia : mediaPacket r.ssrc message with
  | none =>
    rw [(handleNewJpegPacket_of_no_media hmedia).1]
    exact h
  | some packet =>
    rcases hupdate : updateUtility r.jpegSequenceUtility packet.header.sequenceNumber with
      ⟨utility, - | -⟩
    · rw [handleNewJpegPacket_of_rejected hmedia hupdate]
      exact hutility packet utility hmedia
    · have haccepted := accepted_of_media hmedia (congrArg Prod.snd hupdate)
      rw [handleNewJpegPacket_of_accepted hmedia hupdate]
      by_cases hshort : r.jpegPacketIncomingBuffer.length + 1 < bufferSize
      · rw [if_pos hshort]
        exact happend packet utility haccepted
      · have hclosed := hclose _ (happend packet utility haccepted)
        rw [if_neg hshort]
        rcases hresult : (r.append utility (packet, message)).closeGap with ⟨r', - | fault⟩
        · rw [hresult] at hclosed
          exact hmove r' hclosed
        · rw [hresult] at hclosed
          exact hclosed

/-- The ways in which a FEC packet is handled. -/
lemma handleNewFecPacket_cases (r : Receiver) (message : Octets) :
    ((∀ fec rest, customFecPacketGrammar {} message = .ok (fec, rest) →
        fec.header.payloadTypeField ≠ 100) ∧ r.handleNewFecPacket message = (r, .ok false)) ∨
    (∃ fec rest, customFecPacketGrammar {} message = .ok (fec, rest) ∧
      fec.header.payloadTypeField = 100 ∧ fec.header.ssrc ≠ r.ssrc ∧
        r.handleNewFecPacket message = (r, .error .wrongSsrc)) ∨
    ∃ fec rest, customFecPacketGrammar {} message = .ok (fec, rest) ∧
      fec.header.payloadTypeField = 100 ∧ fec.header.ssrc = r.ssrc ∧
        ∃ utility fecs, r.handleNewFecPacket message = ({ r with
          fecSequenceUtility := some utility
          fecPacketIncomingBuffer := fecs }, .ok true) := by
  unfold handleNewFecPacket
  rcases customFecPacketGrammar {} message with fec | ⟨fec, rest⟩
  · exact Or.inl ⟨fun _ _ h => (by cases h), rfl⟩
  · dsimp only
    by_cases htype : fec.header.payloadTypeField = 100
    · right
      rw [if_neg (not_not.mpr htype)]
      by_cases hssrc : fec.header.ssrc = r.ssrc
      · rw [if_neg (not_not.mpr hssrc)]
        refine Or.inr ⟨fec, rest, rfl, htype, hssrc, ?_⟩
        rcases updateUtility r.fecSequenceUtility fec.header.sequenceNumber with ⟨utility, - | -⟩
        · exact ⟨utility, r.fecPacketIncomingBuffer, rfl⟩
        · exact ⟨utility, _, rfl⟩
      · exact Or.inl ⟨fec, rest, rfl, htype, hssrc, if_pos hssrc⟩
    · rw [if_pos htype]
      refine Or.inl ⟨?_, rfl⟩
      intro fec' rest' h
      cases h
      exact htype

/-- What FEC packets and reports leave alone is changed by a datagram as by its JPEG packet. -/
lemma handleNewIncomingMessage_frame {β : Type} (f : Receiver → β)
    (hfec : ∀ (r : Receiver) utility fecs, f { r with
      fecSequenceUtility := utility
      fecPacketIncomingBuffer := fecs } = f r)
    (hreport : ∀ (r : Receiver) statistics, f { r with reported := statistics } = f r)
    (r : Receiver) (message : Octets) :
    f (r.handleNewIncomingMessage message).1 = f (r.handleNewJpegPacket message).1 := by
  have hreported (r : Receiver) : f r.report.1 = f r := by
    unfold report
    split_ifs
    · split
      · rfl
      · exact hreport r _
    · rfl
  unfold handleNewIncomingMessage
  rcases r.handleNewJpegPacket message with ⟨r', fault | - | -⟩
  · rfl
  · dsimp only
    rcases handleNewFecPacket_cases r' message with ⟨-, hcase⟩ | ⟨_, _, -, -, -, hcase⟩ |
      ⟨_, _, -, -, -, utility, fecs, hcase⟩ <;> rw [hcase]
    · exact hreported r'
    · exact (hreported _).trans (hfec r' _ _)
  · exact hreported r'

/-! ### Everything else -/

/-- The settings of the receiver. -/
def settings (r : Receiver) : UInt32 × Bool := (r.ssrc, r.statisticsHandler)

lemma settings_closeGap (r : Receiver) : r.closeGap.1.settings = r.settings := by
  rcases closeGap_cases r with ⟨-, h⟩ | ⟨d, -, -, h⟩ | ⟨d, -, -, h⟩ |
    ⟨-, ⟨fault, -, h⟩ | ⟨-, h⟩ | ⟨q, -, h⟩⟩ <;> rw [h] <;> rfl

lemma settings_moveFront (r : Receiver) : r.moveFront.settings = r.settings := by
  unfold moveFront
  cases r.jpegPacketIncomingBuffer <;> rfl

lemma settings_handleNewJpegPacket (r : Receiver) (message : Octets) :
    (r.handleNewJpegPacket message).1.settings = r.settings := by
  apply handleNewJpegPacket_rule (P := fun r' => r'.settings = r.settings) rfl
  · exact fun _ _ _ => rfl
  · exact fun _ _ _ => rfl
  · exact fun r' h => (settings_closeGap r').trans h
  · exact fun r' h => (settings_moveFront r').trans h

/-- What only media packets change, with the settings of the receiver. -/
structure MediaPart where
  ssrc : UInt32
  statisticsHandler : Bool
  utility : Option SequenceUtility
  buffer : List MediaPacket
  corrected : UInt64
  uncorrectable : UInt64

def mediaPart (r : Receiver) : MediaPart where
  ssrc := r.ssrc
  statisticsHandler := r.statisticsHandler
  utility := r.jpegSequenceUtility
  buffer := r.jpegPacketIncomingBuffer
  corrected := r.corrected
  uncorrectable := r.uncorrectable

lemma mediaPart_handleNewFecPacket (r : Receiver) (message : Octets) :
    (r.handleNewFecPacket message).1.mediaPart = r.mediaPart := by
  rcases handleNewFecPacket_cases r message with ⟨-, h⟩ | ⟨_, _, -, -, -, h⟩ |
    ⟨_, _, -, -, -, utility, fecs, h⟩
  · rw [h]
  · rw [h]
  · rw [h]
    rfl

lemma mediaPart_displayNextFrameTimerHandler (r : Receiver) (error : Bool) :
    (r.displayNextFrameTimerHandler error).1.mediaPart = r.mediaPart := by
  unfold displayNextFrameTimerHandler
  split_ifs
  · rfl
  · cases r.jpegPacketFrameBuffer <;> rfl

lemma mediaPart_handleNewIncomingMessage (r : Receiver) (message : Octets) :
    (r.handleNewIncomingMessage message).1.mediaPart =
      (r.handleNewJpegPacket message).1.mediaPart := by
  exact handleNewIncomingMessage_frame mediaPart (fun _ _ _ => rfl) (fun _ _ => rfl) r message

lemma settings_handleNewIncomingMessage (r : Receiver) (message : Octets) :
    (r.handleNewIncomingMessage message).1.settings = r.settings := by
  rw [← settings_handleNewJpegPacket r message]
  have hpart := mediaPart_handleNewIncomingMessage r message
  exact congrArg₂ Prod.mk (congrArg MediaPart.ssrc hpart)
    (congrArg MediaPart.statisticsHandler hpart)

end Receiver

end Rtp
