import StreamingLib.Rtp.ReconstructionBounds

/-!
# The number of a recovered packet

`fec_reconstruction` writes a header in front of what it recovers, without a sequence number, and
reads the packet again. So a recovered packet has the number zero, even where it can not be read to
its end.
-/

namespace Rtp

/-! ### Reading the number -/

/-- The header of a packet, as far as it was read. -/
def readHeader : Except Header (Header × Octets) → Header
  | .ok (h, _) => h
  | .error h => h

lemma parseCsrcs_sequenceNumber (n : ℕ) (h : Header) (bs : Octets) :
    (parseCsrcs n h bs).1.sequenceNumber = h.sequenceNumber := by
  induction n generalizing h bs with
  | zero => rfl
  | succ n ih =>
    rcases bs with - | ⟨a, - | ⟨b, - | ⟨c, - | ⟨d, bs⟩⟩⟩⟩
    case cons.cons.cons.cons => exact ih { h with csrcs := h.csrcs ++ [readDword a b c d] } bs
    all_goals rfl

lemma parseExtension_sequenceNumber (h : Header) (bs : Octets) :
    (readHeader (parseExtension h bs)).sequenceNumber = h.sequenceNumber := by
  unfold parseExtension
  rcases bs with - | ⟨a, - | ⟨b, - | ⟨c, - | ⟨d, bs⟩⟩⟩⟩
  case cons.cons.cons.cons =>
    dsimp only
    rcases bs with - | ⟨e, - | ⟨f, bs⟩⟩
    · rfl
    · rfl
    · dsimp only
      split_ifs <;> rfl
  all_goals rfl

/-- Bytes that hold the sequence number zero. -/
lemma parseRtpHeader_sequenceNumber {h : Header} (hzero : h.sequenceNumber = 0) (o₀ o₁ : UInt8)
    (bs : Octets) :
    (readHeader (parseRtpHeader h (o₀ :: o₁ :: 0 :: 0 :: bs))).sequenceNumber = 0 := by
  unfold parseRtpHeader
  split
  case h_2 => exact hzero
  case h_1 o₀ o₁ s₀ s₁ t₀ t₁ t₂ t₃ r₀ r₁ r₂ r₃ bs heq =>
    obtain ⟨-, -, rfl, rfl, -⟩ := by simpa only [List.cons.injEq] using heq
    dsimp only
    split_ifs
    · exact hzero
    · rfl
    · rw [parseExtension_sequenceNumber, parseCsrcs_sequenceNumber]
      rfl
    · exact parseCsrcs_sequenceNumber _ _ _

/-- The packet of the grammar, as far as it was read. -/
def readPacket : Except CustomJpegPacket (CustomJpegPacket × Octets) → CustomJpegPacket
  | .ok (p, _) => p
  | .error p => p

lemma customJpegPacketGrammar_sequenceNumber (o₀ o₁ : UInt8) (bs : Octets) :
    (readPacket (customJpegPacketGrammar {} (o₀ :: o₁ :: 0 :: 0 :: bs))).header.sequenceNumber =
      0 := by
  have hheader := parseRtpHeader_sequenceNumber (h := {}) rfl o₀ o₁ bs
  unfold customJpegPacketGrammar
  rcases hparse : parseRtpHeader {} (o₀ :: o₁ :: 0 :: 0 :: bs) with h | ⟨h, r⟩
  · rw [hparse] at hheader
    exact hheader
  · rw [hparse] at hheader
    dsimp only
    unfold parseJpegProfile
    split_ifs
    · exact hheader
    · split
      · exact hheader
      · exact hheader

/-! ### Recovered packets -/

lemma fecReconstruction_sequenceNumber {fec : CustomFecPacket × Octets} {media : List MediaPacket}
    {packet : MediaPacket} (h : fecReconstruction fec media = some packet) :
    packet.1.header.sequenceNumber = 0 := by
  simp only [fecReconstruction, Option.bind_eq_bind, Option.bind_eq_some_iff] at h
  obtain ⟨step₁, -, h⟩ := h
  split_ifs at h
  simp only [Option.bind_eq_some_iff] at h
  obtain ⟨level, -, filled, -, bits, -, h⟩ := h
  obtain ⟨header, hheader⟩ : ∃ header, header = recoveredHeader (List.zipWith (· ^^^ ·)
    (step₁.take 10) ((fec.2.drop (12 + 4 * fec.1.header.csrc.toNat)).take 10)) := ⟨_, rfl⟩
  have hversion : header.version = 2 := by rw [hheader]; rfl
  have hnumber : header.sequenceNumber = 0 := by rw [hheader]; rfl
  obtain ⟨o₀, o₁, bs, hbuffer⟩ : ∃ o₀ o₁ bs,
      (standardRtpHeaderGenerator header).2 ++ bits = o₀ :: o₁ :: 0 :: 0 :: bs := by
    unfold standardRtpHeaderGenerator
    rw [if_neg (not_not.mpr hversion), fixedHeader, hnumber]
    split_ifs
    · exact ⟨_, _, _, rfl⟩
    · exact ⟨_, _, _, rfl⟩
  have hpacket := customJpegPacketGrammar_sequenceNumber o₀ o₁ bs
  rw [← hheader, hbuffer] at h
  split at h
  · next heq =>
      rw [heq] at hpacket
      cases h
      exact hpacket
  · next heq =>
      rw [heq] at hpacket
      cases h
      exact hpacket

lemma removePadding_header (packet : MediaPacket) :
    (removePadding packet).1.header = packet.1.header := by
  unfold removePadding
  cases findEnd [0xFF, 0xD9] packet.1.data <;> rfl

/-- A recovered packet has the sequence number zero, whichever packet was lost. -/
theorem recoveredPacket_sequenceNumber {buffer : List MediaPacket}
    {fecBuffer : List (CustomFecPacket × Octets)} {packet : MediaPacket}
    (h : recoveredPacket buffer fecBuffer = .ok (some packet)) :
    packet.1.header.sequenceNumber = 0 := by
  obtain ⟨-, fec, -, media, recovered, -, -, -, hpacket, rfl⟩ := recoveredPacket_eq_some h
  rw [removePadding_header]
  exact fecReconstruction_sequenceNumber hpacket

end Rtp
