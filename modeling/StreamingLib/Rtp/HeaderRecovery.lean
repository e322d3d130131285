import StreamingLib.Rtp.ReconstructionBounds

/-!
# Recovery of the header

The parities of a group and of the packets that arrived differ by the lost packet alone. So the
header that the receiver writes in front of a recovered packet has all the fields that a FEC packet
protects, of whatever contents and lengths the packets of the group are.
-/

namespace Rtp

/-! ### The header in front -/

/-- The protected fields are read back from a header that is written. -/
lemma protectedFields_fixedHeader {h : Header} (hversion : h.version = 2)
    (hcsrc : h.csrc.toNat < 16) (htype : h.payloadTypeField.toNat < 128) (rest : Octets) :
    protectedFields (fixedHeader h ++ rest) =
      { paddingSet := h.paddingSet, extensionBit := h.extensionBit, csrc := h.csrc,
        marker := h.marker, payloadTypeField := h.payloadTypeField, timestamp := h.timestamp } := by
  obtain ⟨s₀, s₁, t₀, t₁, t₂, t₃, r₀, r₁, r₂, r₃, -, ht, -, hfix⟩ := fixedHeader_eq h
  obtain ⟨-, hp, he, hc⟩ :=
    @firstOctet_fields 2 h.csrc h.paddingSet h.extensionBit (by decide) hcsrc
  obtain ⟨hm, ht'⟩ := secondOctet_fields h.marker htype
  have htimestamp := readDword_bigDword h.timestamp ht
  rw [hfix, hversion]
  simp only [protectedFields, List.cons_append, List.getD_cons_zero, List.getD_cons_succ, hp, he,
    hc, hm, ht', htimestamp]

/-- The octets of the two parities give the protected fields of the lost packet. -/
lemma recoveredHeader_eq (fecK base base' : UInt16) (mask mask' : Octets)
    {bits bits' lost : Octets} (hbits : 12 ≤ bits.length) (hbits' : 12 ≤ bits'.length)
    (hlost : ∀ j < 8, bits'.getD j 0 ^^^ bits.getD j 0 = lost.getD j 0) :
    recoveredHeader (List.zipWith (· ^^^ ·) ((fecPacketOctets fecK base' mask' bits').take 10)
      ((fecPacketOctets fecK base mask bits).take 10)) = protectedFields lost := by
  obtain ⟨s₀, s₁, hoctets⟩ := fecPacketOctets_eq fecK base mask hbits
  obtain ⟨s₀', s₁', hoctets'⟩ := fecPacketOctets_eq fecK base' mask' hbits'
  obtain ⟨-, -, hpadding, hextension, hcsrc⟩ := fecFirstOctet_fields fecK bits
  obtain ⟨-, -, hpadding', hextension', hcsrc'⟩ := fecFirstOctet_fields fecK bits'
  rw [hoctets, hoctets']
  simp only [List.take_succ_cons, List.zipWith_cons_cons, recoveredHeader, protectedFields,
    List.getD_cons_zero, List.getD_cons_succ, xor_and_right (fecFirstOctet fecK bits'), hpadding,
    hpadding', hextension, hextension', hcsrc, hcsrc']
  simp only [← xor_and_right]
  rw [hlost 0 (by decide), hlost 1 (by decide), hlost 4 (by decide), hlost 5 (by decide),
    hlost 6 (by decide), hlost 7 (by decide)]

/-! ### The reconstruction -/

/-- What is put together where `fec_reconstruction` completes. -/
lemma exists_of_fecReconstruction {fec : CustomFecPacket × Octets} {media : List MediaPacket}
    {result : CustomJpegPacket × Octets} (h : fecReconstruction fec media = some result) :
    ∃ step₁ bits, receivedParity media = some step₁ ∧
      result.2 = (standardRtpHeaderGenerator (recoveredHeader (List.zipWith (· ^^^ ·)
        (step₁.take 10) ((fec.2.drop (12 + 4 * fec.1.header.csrc.toNat)).take 10)))).2 ++ bits := by
  simp only [fecReconstruction, Option.bind_eq_bind, Option.bind_eq_some_iff] at h
  obtain ⟨step₁, hstep₁, h⟩ := h
  split_ifs at h
  simp only [Option.bind_eq_some_iff] at h
  obtain ⟨level, -, bits, -, bits', -, h⟩ := h
  refine ⟨step₁, bits', hstep₁, ?_⟩
  split at h
  · cases h
    rfl
  · cases h
    rfl

/-- The twelve octets of the recovered header are written even where it counts sources that it does
not list. -/
lemma exists_generated_protectedFields (lost : Octets) :
    ∃ rest, (standardRtpHeaderGenerator (protectedFields lost)).2 =
      fixedHeader (protectedFields lost) ++ rest := by
  have hversion : ¬(protectedFields lost).version ≠ 2 := not_not.mpr rfl
  rw [standardRtpHeaderGenerator, if_neg hversion]
  split_ifs
  · exact ⟨[], (List.append_nil _).symm⟩
  · exact ⟨_, rfl⟩

section Group

variable {before after : List (Octets × UInt16)} {lost : Octets × UInt16}

lemma mem_group (lost : Octets × UInt16) {p : Octets × UInt16} (hp : p ∈ before ++ after) :
    p ∈ before ++ lost :: after := by
  rw [List.mem_append, List.mem_cons]
  rcases List.mem_append.mp hp with hp | hp
  · exact .inl hp
  · exact .inr (.inr hp)

/-- The parities of the group and of the packets that arrived differ by the lost packet. -/
lemma xor_columns (hsize : ∀ p ∈ before ++ lost :: after, 12 ≤ p.1.length) {bits : Octets}
    {j : ℕ} (hj : j < 8)
    (hcolumn : bits.getD j 0 = Parity.column (· ^^^ ·) 0 ((before ++ after).map (·.1)) j) :
    bits.getD j 0 ^^^ (Parity.sum (· ^^^ ·)
      ((before ++ lost :: after).map fun p => fecRow p.1)).getD j 0 = lost.1.getD j 0 := by
  have hgroup : Parity.column (· ^^^ ·) 0 ((before ++ lost :: after).map fun p => fecRow p.1) j =
      Parity.column (· ^^^ ·) 0 ((before ++ lost :: after).map (·.1)) j :=
    Parity.column_map_congr _ _ fun p hp => getD_fecRow_of_lt (hsize p hp) hj
  rw [Parity.getD_sum, hgroup, hcolumn, UInt8.xor_comm, List.map_append, List.map_append,
    List.map_cons]
  exact Parity.column_recover _ _ (fun a => UInt8.xor_self) _ _ _ _

/-- The FEC packet of a group and all its packets but one are enough. -/
lemma reconstructible_group (hk : 2 ≤ (before ++ lost :: after).length)
    (hk' : (before ++ lost :: after).length ≤ 48)
    (hsize : ∀ p ∈ before ++ lost :: after, 12 ≤ p.1.length) {media : List MediaPacket}
    (hmedia : media.map (·.2) = (before ++ after).map (·.1)) {fec : CustomFecPacket × Octets}
    (hfec : 22 + 4 * fec.1.header.csrc.toNat ≤ fec.2.length) {level : CustomFecLevelHeader}
    {payload : Octets} (hlevels : fec.1.levels = [(level, payload)])
    (hpayload : payload.length ≤ level.protectionLengthField.toNat)
    (hlevel : (Parity.sum (· ^^^ ·) ((before ++ lost :: after).map fun p => fecRow p.1)).length ≤
      level.protectionLengthField.toNat + 12) : Reconstructible fec media := by
  have hlength : media.length = (before ++ after).length := by
    rw [← List.length_map (f := (·.2)), hmedia, List.length_map]
  have hgroup : (before ++ lost :: after).length = (before ++ after).length + 1 := by
    simp only [List.length_append, List.length_cons, Nat.add_assoc]
  have hmem : ∀ p ∈ media, ∃ q ∈ before ++ lost :: after, q.1 = p.2 := by
    intro p hp
    have hp' : p.2 ∈ (before ++ after).map (·.1) := hmedia ▸ List.mem_map_of_mem hp
    obtain ⟨q, hq, heq⟩ := List.mem_map.mp hp'
    exact ⟨q, mem_group lost hq, heq⟩
  refine ⟨List.ne_nil_of_length_pos (by omega), by omega, fun p hp => ?_, hfec, level, payload,
    by rw [hlevels]; rfl, hpayload, fun p hp => ?_⟩
  · obtain ⟨q, hq, heq⟩ := hmem p hp
    exact heq ▸ hsize q hq
  · obtain ⟨q, hq, heq⟩ := hmem p hp
    have hrow := length_fecRow (hsize q hq)
    have hle := Parity.length_le_sum (· ^^^ ·)
      (List.mem_map_of_mem (f := fun p : Octets × UInt16 => fecRow p.1) hq)
    rw [← heq]
    omega

/-- From the FEC packet of a group and the packets of the group but one, a packet is put together
whose RTP header has the padding, extension and marker bits, the CSRC count, the payload type and
the timestamp of the packet that is missing. -/
theorem header_recovery (hk : 2 ≤ (before ++ lost :: after).length)
    (hk' : (before ++ lost :: after).length ≤ 48)
    (hsize : ∀ p ∈ before ++ lost :: after, 12 ≤ p.1.length ∧ p.1.length ≤ 65507)
    {media : List MediaPacket} (hmedia : media.map (·.2) = (before ++ after).map (·.1))
    (sequenceNumber : UInt16) (ssrc timestamp : UInt32) :
    ∃ fec packet recovered,
      ((FecGenerator.new (UInt16.ofNat (before ++ lost :: after).length)).generateAll
        (before ++ lost :: after)).2 = .ok (some fec) ∧
      customFecPacketGrammar {} ((standardRtpHeaderGenerator
        (fecRtpHeader sequenceNumber ssrc timestamp)).2 ++ fec) = .ok (packet, []) ∧
      fecReconstruction (packet, (standardRtpHeaderGenerator
        (fecRtpHeader sequenceNumber ssrc timestamp)).2 ++ fec) media = some recovered ∧
      12 ≤ recovered.2.length ∧ protectedFields recovered.2 = protectedFields lost.1 := by
  have hlength : media.length + 1 = (before ++ lost :: after).length := by
    rw [← List.length_map (f := (·.2)), hmedia, List.length_map]
    simp only [List.length_append, List.length_cons, Nat.add_assoc]
  obtain ⟨fecK, hfecK⟩ : ∃ fecK, fecK = UInt16.ofNat (before ++ lost :: after).length := ⟨_, rfl⟩
  have hcount : fecK.toNat = (before ++ lost :: after).length := by
    rw [hfecK, UInt16.toNat_ofNat']
    omega
  have hshort := fun p hp => (hsize p hp).1
  obtain ⟨base, mask, snBase, -, hbits, hsmall, hwritten, hgen, hparse⟩ := exists_fecPacket
    (by omega) (by omega) hcount.symm hsize sequenceNumber ssrc timestamp
  have hxor : ∀ bits' : Octets, (∀ j < 8, bits'.getD j 0 =
      Parity.column (· ^^^ ·) 0 (media.map (·.2)) j) → ∀ j < 8, bits'.getD j 0 ^^^
        (Parity.sum (· ^^^ ·) ((before ++ lost :: after).map fun p => fecRow p.1)).getD j 0 =
          lost.1.getD j 0 := by
    intro bits' hcolumn j hj
    exact xor_columns hshort hj (hmedia ▸ hcolumn j hj)
  have hready := fun fec => @reconstructible_group before after lost hk hk' hshort media hmedia fec
  obtain ⟨bits, hsum⟩ : ∃ bits, bits = Parity.sum (· ^^^ ·)
    ((before ++ lost :: after).map fun p => fecRow p.1) := ⟨_, rfl⟩
  rw [← hsum] at hbits hsmall hgen hparse hxor hready
  have hfit : (generatedLevel fecK mask bits).protectionLengthField.toNat = bits.length - 12 := by
    rw [protectionLength_generatedLevel, Nat.mod_eq_of_lt hsmall]
  obtain ⟨packet, hparse, hcsrc, hlevels⟩ : ∃ packet : CustomFecPacket,
      customFecPacketGrammar {} (fixedHeader (fecRtpHeader sequenceNumber ssrc timestamp) ++
        fecPacketOctets fecK base mask bits) = .ok (packet, []) ∧ packet.header.csrc.toNat = 0 ∧
      packet.levels = [(generatedLevel fecK mask bits, bits.drop 12)] := ⟨_, hparse, rfl, rfl⟩
  have hpacket : 22 + 4 * packet.header.csrc.toNat ≤
      (fixedHeader (fecRtpHeader sequenceNumber ssrc timestamp) ++
        fecPacketOctets fecK base mask bits).length := by
    rw [hcsrc, List.length_append, length_fixedHeader]
    exact Nat.add_le_add_left (length_fecPacketOctets hbits) 12
  have hcomplete := hready (packet, _) hpacket hlevels
    (by rw [hfit, List.length_drop]) (by omega)
  obtain ⟨recovered, hrecovered⟩ := Option.isSome_iff_exists.mp
    ((fecReconstruction_isSome_iff (by omega)).mpr hcomplete)
  -- the header in front of the recovered packet
  obtain ⟨step₁, rest, hstep₁, hbuffer⟩ := exists_of_fecReconstruction hrecovered
  obtain ⟨base', mask', bits', hbits', hcolumn, hparity⟩ :=
    receivedParity_columns hcomplete.nonempty (by omega) hcomplete.headers
  rw [hlength, ← hfecK] at hparity
  obtain rfl := Option.some.inj (hstep₁.symm.trans hparity)
  have hdrop : (fixedHeader (fecRtpHeader sequenceNumber ssrc timestamp) ++
      fecPacketOctets fecK base mask bits).drop (12 + 4 * packet.header.csrc.toNat) =
        fecPacketOctets fecK base mask bits := by
    rw [hcsrc]
    exact List.drop_left' (length_fixedHeader _)
  obtain ⟨sources, hsources⟩ := exists_generated_protectedFields lost.1
  rw [hdrop, recoveredHeader_eq fecK base base' mask mask' hbits hbits' (hxor bits' hcolumn),
    hsources, List.append_assoc] at hbuffer
  rw [← hfecK, hwritten]
  refine ⟨_, packet, recovered, hgen, hparse, hrecovered, ?_, ?_⟩
  · rw [hbuffer, List.length_append, length_fixedHeader]
    exact Nat.le_add_right 12 _
  · rw [hbuffer]
    exact protectedFields_fixedHeader rfl (low_nibble_lt _) (seven_bits_lt _) _

end Group

/-- The second of two packets of different lengths, with all the bits that the first one has not. -/
theorem header_recovery_second :
    ∃ fec packet recovered,
      ((FecGenerator.new 2).generateAll
        [(List.replicate 12 0x5A, 1), (List.replicate 13 0xA5, 2)]).2 = .ok (some fec) ∧
      customFecPacketGrammar {} ((standardRtpHeaderGenerator (fecRtpHeader 7 1 7200)).2 ++ fec) =
        .ok (packet, []) ∧
      fecReconstruction (packet, (standardRtpHeaderGenerator (fecRtpHeader 7 1 7200)).2 ++ fec)
        [({}, List.replicate 12 0x5A)] = some recovered ∧
      12 ≤ recovered.2.length ∧ protectedFields recovered.2 =
        { paddingSet := true, extensionBit := false, csrc := 5, marker := true,
          payloadTypeField := 0x25, timestamp := 0xA5A5A5A5 } :=
  @header_recovery [(List.replicate 12 0x5A, 1)] [] (List.replicate 13 0xA5, 2) (by decide)
    (by decide) (by simp) [({}, List.replicate 12 0x5A)] rfl 7 1 7200

end Rtp
