import StreamingLib.Rtp.Receiving

/-!
# The source of the statistics

After each datagram the statistics handler is called with the figures of the sequence utility for
media packets. There is none before the first media packet.
-/

namespace Rtp

namespace Receiver

/-! ### Datagrams before the first media packet -/

/-- Whether the handling of a datagram that is no media packet ends with an exception. -/
def refuses (r : Receiver) (message : Octets) : Bool :=
  match customJpegPacketGrammar {} message with
  | .ok _ => true
  | .error _ =>
    match customFecPacketGrammar {} message with
    | .error _ => false
    | .ok (fecPacket, _) =>
      fecPacket.header.payloadTypeField = 100 ∧ fecPacket.header.ssrc ≠ r.ssrc

/-- The receiver after some datagrams. -/
def receiveAll (r : Receiver) (datagrams : List Octets) : Receiver :=
  datagrams.foldl (fun r message => (r.handleNewIncomingMessage message).1) r

/-- Every datagram before the first media packet is refused. -/
def MediaFirst (r : Receiver) : List Octets → Prop
  | [] => True
  | message :: datagrams =>
    (mediaPacket r.ssrc message).isSome = true ∨ r.refuses message = true ∧ r.MediaFirst datagrams

/-! ### Faults -/

lemma closeGap_ne_noUtility (r : Receiver) : r.closeGap.2 ≠ some .noUtility := by
  rcases closeGap_cases r with ⟨-, h⟩ | ⟨d, -, -, h⟩ | ⟨d, -, -, h⟩ |
    ⟨-, ⟨fault, hrecovered, h⟩ | ⟨-, h⟩ | ⟨q, -, h⟩⟩ <;> rw [h]
  · simp
  · simp
  · simp
  · rcases recoveredPacket_eq_error hrecovered with rfl | rfl | rfl
    · simp
    · simp
    · simp
  · simp
  · simp

/-! ### Readings -/

variable {r : Receiver} {message : Octets}

/-- The utility is there after a media packet, in whichever way its handling ends. -/
lemma isSome_of_media (h : (mediaPacket r.ssrc message).isSome = true) :
    (r.handleNewJpegPacket message).1.jpegSequenceUtility.isSome = true ∧
      ((r.handleNewJpegPacket message).2 = .ok true ∨
        ∃ fault, fault ≠ .noUtility ∧ (r.handleNewJpegPacket message).2 = .error fault) := by
  obtain ⟨packet, hmedia⟩ := Option.isSome_iff_exists.mp h
  rcases hupdate : updateUtility r.jpegSequenceUtility packet.header.sequenceNumber with
    ⟨utility, - | -⟩
  · rw [handleNewJpegPacket_of_rejected hmedia hupdate]
    exact ⟨rfl, Or.inl rfl⟩
  · rw [handleNewJpegPacket_of_accepted hmedia hupdate]
    by_cases hshort : r.jpegPacketIncomingBuffer.length + 1 < bufferSize
    · rw [if_pos hshort]
      exact ⟨rfl, Or.inl rfl⟩
    · have hsame := closeGap_jpegSequenceUtility (r.append utility (packet, message))
      have hfault := closeGap_ne_noUtility (r.append utility (packet, message))
      have hsome : (r.append utility (packet, message)).closeGap.1.jpegSequenceUtility.isSome =
          true := by
        rw [hsame]
        rfl
      rw [if_neg hshort]
      rcases hclose : (r.append utility (packet, message)).closeGap with ⟨r', - | fault⟩
      · rw [hclose] at hsome
        exact ⟨(congrArg Option.isSome (moveFront_jpegSequenceUtility r')).trans hsome, Or.inl rfl⟩
      · rw [hclose] at hsome hfault
        exact ⟨hsome, Or.inr ⟨fault, fun h => hfault (congrArg some h), rfl⟩⟩

lemma report_ne_noUtility_iff (h : r.statisticsHandler = true) :
    r.report.2 ≠ some .noUtility ↔ r.jpegSequenceUtility.isSome = true := by
  unfold report
  rw [if_pos h]
  cases r.jpegSequenceUtility with
  | none => exact iff_of_false (fun h => h rfl) Bool.false_ne_true
  | some utility => exact iff_of_true (fun h => by cases h) rfl

lemma handleNewFecPacket_refuses (h : ∃ error, customJpegPacketGrammar {} message = .error error) :
    (r.refuses message = true ∧ (r.handleNewFecPacket message).2 = .error .wrongSsrc) ∨
      r.refuses message = false ∧ ∃ parsed, (r.handleNewFecPacket message).2 = .ok parsed := by
  obtain ⟨error, hparse⟩ := h
  unfold refuses
  rw [hparse]
  dsimp only
  rcases handleNewFecPacket_cases r message with ⟨htype, h⟩ | ⟨fec, rest, hfec, htype, hssrc, h⟩ |
    ⟨fec, rest, hfec, htype, hssrc, utility, fecs, h⟩
  · refine Or.inr ⟨?_, false, congrArg Prod.snd h⟩
    rcases hfec : customFecPacketGrammar {} message with fec | ⟨fec, rest⟩
    · rfl
    · exact decide_eq_false fun hrefused => htype fec rest hfec hrefused.1
  · rw [hfec]
    exact Or.inl ⟨decide_eq_true ⟨htype, hssrc⟩, congrArg Prod.snd h⟩
  · rw [hfec]
    exact Or.inr ⟨decide_eq_false fun hrefused => hrefused.2 hssrc, true, congrArg Prod.snd h⟩

/-- A datagram is handled without reading an empty utility exactly if there is one, or the datagram
is a media packet, or it is refused. -/
lemma handleNewIncomingMessage_ne_noUtility_iff (h : r.statisticsHandler = true) :
    (r.handleNewIncomingMessage message).2 ≠ some .noUtility ↔
      r.jpegSequenceUtility.isSome = true ∨ (mediaPacket r.ssrc message).isSome = true ∨
        r.refuses message = true := by
  have hsettings := settings_handleNewJpegPacket r message
  unfold handleNewIncomingMessage
  by_cases hmedia : (mediaPacket r.ssrc message).isSome = true
  · obtain ⟨hsome, hend⟩ := isSome_of_media hmedia
    refine iff_of_true ?_ (Or.inr (Or.inl hmedia))
    rcases hjpeg : r.handleNewJpegPacket message with ⟨r', result⟩
    rw [hjpeg] at hsettings hsome hend
    have hhandler : r'.statisticsHandler = true := (congrArg Prod.snd hsettings).trans h
    dsimp only at hsome hend
    rcases hend with rfl | ⟨fault, hfault, rfl⟩
    · exact (report_ne_noUtility_iff hhandler).mpr hsome
    · exact fun h => hfault (Option.some.inj h)
  · obtain ⟨hsame, hend⟩ :=
      handleNewJpegPacket_of_no_media (Option.not_isSome_iff_eq_none.mp hmedia)
    rcases hjpeg : r.handleNewJpegPacket message with ⟨r', result⟩
    rw [hjpeg] at hsame hend
    dsimp only at hsame hend
    subst hsame
    rcases hend with ⟨error, hparse, rfl⟩ | ⟨⟨parsed, hparse⟩, fault, hfault, rfl⟩
    · have hpart := mediaPart_handleNewFecPacket r' message
      dsimp only
      rcases handleNewFecPacket_refuses (r := r') ⟨error, hparse⟩ with ⟨hrefuses, hfec⟩ |
        ⟨hrefuses, parsed, hfec⟩
      · refine iff_of_true ?_ (Or.inr (Or.inr hrefuses))
        rcases hpacket : r'.handleNewFecPacket message with ⟨r'', fec⟩
        rw [hpacket] at hfec
        dsimp only at hfec
        subst hfec
        exact fun h => by cases h
      · rcases hpacket : r'.handleNewFecPacket message with ⟨r'', fec⟩
        rw [hpacket] at hfec hpart
        dsimp only at hfec
        subst hfec
        have hhandler : r''.statisticsHandler = true :=
          (congrArg MediaPart.statisticsHandler hpart).trans h
        have hutility : r''.jpegSequenceUtility = r'.jpegSequenceUtility :=
          congrArg MediaPart.utility hpart
        dsimp only
        rw [report_ne_noUtility_iff hhandler, hutility, hrefuses]
        simp [hmedia]
    · refine iff_of_true (fun h => hfault (Option.some.inj h)) (Or.inr (Or.inr ?_))
      unfold refuses
      rw [hparse]

/-- The utility is there exactly after a media packet. -/
lemma isSome_handleNewIncomingMessage (r : Receiver) (message : Octets) :
    (r.handleNewIncomingMessage message).1.jpegSequenceUtility.isSome = true ↔
      r.jpegSequenceUtility.isSome = true ∨ (mediaPacket r.ssrc message).isSome = true := by
  have hpart := congrArg MediaPart.utility (mediaPart_handleNewIncomingMessage r message)
  have hutility : (r.handleNewIncomingMessage message).1.jpegSequenceUtility =
      (r.handleNewJpegPacket message).1.jpegSequenceUtility := hpart
  rw [hutility]
  by_cases hmedia : (mediaPacket r.ssrc message).isSome = true
  · exact iff_of_true (isSome_of_media hmedia).1 (Or.inr hmedia)
  · rw [(handleNewJpegPacket_of_no_media (Option.not_isSome_iff_eq_none.mp hmedia)).1]
    exact ⟨Or.inl, fun h => h.resolve_right hmedia⟩

/-! ### Sequences of datagrams -/

/-- Only the ssrc of the receiver matters. -/
lemma mediaFirst_congr {r' : Receiver} (h : r'.settings = r.settings) (datagrams : List Octets) :
    r'.MediaFirst datagrams ↔ r.MediaFirst datagrams := by
  have hssrc : r'.ssrc = r.ssrc := congrArg Prod.fst h
  induction datagrams with
  | nil => exact Iff.rfl
  | cons message datagrams ih =>
    refine or_congr ?_ (and_congr ?_ ih)
    · rw [hssrc]
    · simp only [refuses, hssrc]

/-- Every reading of the utility while some datagrams are handled finds a value. -/
def ReadsValue (r : Receiver) (datagrams : List Octets) : Prop :=
  ∀ before message after, datagrams = before ++ message :: after →
    ((r.receiveAll before).handleNewIncomingMessage message).2 ≠ some .noUtility

lemma readsValue_cons (datagrams : List Octets) :
    r.ReadsValue (message :: datagrams) ↔
      (r.handleNewIncomingMessage message).2 ≠ some .noUtility ∧
        (r.handleNewIncomingMessage message).1.ReadsValue datagrams := by
  constructor
  · intro h
    refine ⟨h [] message datagrams rfl, ?_⟩
    rintro before message' after rfl
    exact h (message :: before) message' after rfl
  · rintro ⟨hfirst, hrest⟩ (- | ⟨_, before⟩) message' after heq
    · cases heq
      exact hfirst
    · cases heq
      exact hrest before message' after rfl

lemma readsValue_of_isSome (hhandler : r.statisticsHandler = true)
    (h : r.jpegSequenceUtility.isSome = true) (datagrams : List Octets) :
    r.ReadsValue datagrams := by
  induction datagrams generalizing r with
  | nil =>
    intro before message after heq
    exact absurd heq (by simp)
  | cons message datagrams ih =>
    have hsettings := r.settings_handleNewIncomingMessage message
    rw [readsValue_cons, handleNewIncomingMessage_ne_noUtility_iff hhandler]
    refine ⟨Or.inl h, ih ?_ ?_⟩
    · exact (congrArg Prod.snd hsettings).trans hhandler
    · exact (r.isSome_handleNewIncomingMessage message).mpr (Or.inl h)

lemma readsValue_iff_mediaFirst (hhandler : r.statisticsHandler = true)
    (h : r.jpegSequenceUtility = none) (datagrams : List Octets) :
    r.ReadsValue datagrams ↔ r.MediaFirst datagrams := by
  induction datagrams generalizing r with
  | nil =>
    refine iff_of_true ?_ trivial
    intro before message after heq
    exact absurd heq (by simp)
  | cons message datagrams ih =>
    have hsettings := r.settings_handleNewIncomingMessage message
    have hhandler' : (r.handleNewIncomingMessage message).1.statisticsHandler = true :=
      (congrArg Prod.snd hsettings).trans hhandler
    have hsome := r.isSome_handleNewIncomingMessage message
    rw [readsValue_cons, handleNewIncomingMessage_ne_noUtility_iff hhandler, MediaFirst]
    rw [h] at hsome ⊢
    simp only [Option.isSome_none, Bool.false_eq_true, false_or] at hsome ⊢
    by_cases hmedia : (mediaPacket r.ssrc message).isSome = true
    · refine iff_of_true ⟨Or.inl hmedia, ?_⟩ (Or.inl hmedia)
      exact readsValue_of_isSome hhandler' (hsome.mpr hmedia) datagrams
    · have hnone := Option.not_isSome_iff_eq_none.mp fun h => hmedia (hsome.mp h)
      rw [ih hhandler' hnone, mediaFirst_congr hsettings]
      simp only [hmedia, Bool.false_eq_true, false_or]

/-- From the start, every reading of the utility finds a value exactly if every datagram before the
first media packet is refused. -/
theorem statistics_source_iff (ssrc : UInt32) (datagrams : List Octets) :
    ({ ssrc := ssrc, statisticsHandler := true } : Receiver).ReadsValue datagrams ↔
      ({ ssrc := ssrc, statisticsHandler := true } : Receiver).MediaFirst datagrams :=
  readsValue_iff_mediaFirst rfl rfl datagrams

/-- The first datagram is empty. -/
theorem statistics_source_missing :
    ¬∀ (ssrc : UInt32) (datagrams : List Octets),
      ({ ssrc := ssrc, statisticsHandler := true } : Receiver).ReadsValue datagrams := by
  intro h
  apply h 7 [[]] [] [] [] rfl
  decide

end Receiver

end Rtp
