import StreamingLib.Rtp.FecLevels

/-!
# RTP header extensions

An extension is a profile word, a length word and as many 32 bit words as this says. The grammars
take the two octets behind the first four for the length and do not keep them, so that they never
stop where the extension does: the difference is two more than a multiple of four.
-/

namespace Rtp

open Bytes

/-! ### Layout -/

/-- The octets of a header extension. -/
def extensionOctets (profile length : UInt16) (content : Octets) : Octets :=
  bigWord profile.toNat ++ (bigWord length.toNat ++ content)

/-- An RTP header with an extension that fits its wire format. -/
structure Header.Extended (h : Header) : Prop where
  version : h.version = 2
  extensionBit : h.extensionBit = true
  csrc : h.csrc.toNat = h.csrcs.length
  csrcs : h.csrcs.length ≤ 15
  payloadType : h.payloadTypeField.toNat < 128
  headerExtension : ∃ profile length content,
    h.headerExtension = extensionOctets profile length content ∧
      content.length = 4 * length.toNat

/-- The octets of such a header. -/
def Header.octets (h : Header) : Octets :=
  fixedHeader h ++ (bigDwords h.csrcs ++ h.headerExtension)

lemma length_extensionOctets (profile length : UInt16) (content : Octets) :
    (extensionOctets profile length content).length = 4 + content.length := by
  simp only [extensionOctets, bigWord, List.length_append, length_bigEndian]
  omega

lemma length_octets {h : Header} (hh : h.Extended) :
    ∃ words, h.octets.length = 12 + 4 * h.csrc.toNat + (4 + 4 * words) := by
  obtain ⟨profile, length, content, hextension, hcontent⟩ := hh.headerExtension
  refine ⟨length.toNat, ?_⟩
  rw [Header.octets, List.length_append, List.length_append, length_fixedHeader,
    length_bigDwords, hextension, length_extensionOctets, hh.csrc, hcontent, Nat.add_assoc]

/-- The grammars go on two octets behind a word of the extension or of what follows it. -/
lemma rtpHeaderEnd_octets {h : Header} (hh : h.Extended) (rest : Octets) :
    ∃ words, rtpHeaderEnd (h.octets ++ rest) = 12 + 4 * h.csrc.toNat + (6 + 4 * words) := by
  obtain ⟨s₀, s₁, t₀, t₁, t₂, t₃, r₀, r₁, r₂, r₃, -, -, -, hfix⟩ := fixedHeader_eq h
  have hle := hh.csrcs
  obtain ⟨-, -, hbit, hcsrc⟩ := firstOctet_fields (v := h.version) (c := h.csrc) h.paddingSet
    h.extensionBit (by rw [hh.version]; decide) (by rw [hh.csrc]; omega)
  have hfirst : (h.octets ++ rest).getD 0 0 =
      firstOctet h.version h.paddingSet h.extensionBit h.csrc := by
    rw [Header.octets, hfix]
    rfl
  have hset : (h.octets ++ rest).getD 0 0 &&& 0b00010000 ≠ 0 := by
    rw [hfirst]
    rwa [extensionBit_ne_zero, hh.extensionBit, decide_eq_true_eq, ← hh.extensionBit] at hbit
  rw [rtpHeaderEnd]
  simp only [if_neg hset]
  rw [hfirst, hcsrc]
  exact ⟨_, rfl⟩

/-- The grammars never stop where the extension does. -/
lemma parseRtpHeader_octets_length {h : Header} (hh : h.Extended) {h₀ h' : Header}
    {rest r : Octets} (hp : parseRtpHeader h₀ (h.octets ++ rest) = .ok (h', r))
    (hr : 2 ≤ r.length) : r.length ≠ rest.length := by
  obtain ⟨words, hlength⟩ := length_octets hh
  obtain ⟨words', hend⟩ := rtpHeaderEnd_octets hh rest
  have hdrop := congrArg List.length (parseRtpHeader_rest hp hr)
  rw [List.length_drop, List.length_append, hlength, hend] at hdrop
  omega

/-! ### Behind the RTP header -/

/-- The JPEG header has eight octets and the data are all that follow. -/
lemma parseJpegProfile_length {p p' : CustomJpegPacket} (hp : p.data = []) {bs r : Octets}
    (h : parseJpegProfile p bs = .ok (p', r)) : bs.length = 8 + p'.data.length := by
  unfold parseJpegProfile at h
  split_ifs at h
  split at h
  case h_2 => cases h
  case h_1 typeSpecific f₁ f₂ f₃ jpegType table width height data =>
    obtain ⟨rfl, -⟩ := Prod.mk.inj (Except.ok.inj h)
    simp only [hp, List.nil_append, List.length_cons]
    omega

/-- The levels tell how many octets they were read from. -/
lemma parseFecLevels_length {size n : ℕ} {p fec : CustomFecPacket} (hp : p.levels = [])
    {bs r : Octets} (h : parseFecLevels size (n + 1) p bs = .ok (fec, r)) :
    bs.length = match fec.levels with
      | [] => r.length
      | (_, payload) :: _ => size + payload.length := by
  rw [parseFecLevels] at h
  dsimp only at h
  split_ifs at h with hshort hfits
  · obtain ⟨rfl, rfl⟩ := Prod.mk.inj (Except.ok.inj h)
    rw [hp]
  · obtain ⟨⟨more, hmore⟩, -⟩ := parseFecLevels_levels _ _ h
    rw [← hmore, hp]
    simp only [List.nil_append, List.cons_append, List.length_drop]
    omega

/-- What is read of a FEC packet tells how many octets it was read from. -/
lemma parseFecProfile_length {p fec : CustomFecPacket} (hp : p.levels = []) {bs r : Octets}
    (h : parseFecProfile p bs = .ok (fec, r)) :
    bs.length = 10 + match fec.levels with
      | [] => r.length
      | (_, payload) :: _ => (if fec.header.longMaskFlag then 8 else 4) + payload.length := by
  unfold parseFecProfile at h
  split at h
  case h_2 => cases h
  case h_1 o₀ o₁ s₀ s₁ t₀ t₁ t₂ t₃ l₀ l₁ bs =>
    dsimp only at h
    have hlength := parseFecLevels_length (by exact hp) h
    rw [(parseFecLevels_levels _ _ h).2, ← hlength]
    simp only [List.length_cons]
    omega

/-- A JPEG packet with a header extension is never read with its payload, and the FEC grammar never
reads what it reads of the octets behind the extension. -/
theorem header_extension_misread {h : Header} (hh : h.Extended) :
    (h.payloadTypeField = 26 → ∀ jpegHeader payload : Octets, jpegHeader.length = 8 →
      ∀ p r, customJpegPacketGrammar {} (h.octets ++ (jpegHeader ++ payload)) = .ok (p, r) →
        p.data ≠ payload) ∧
    ∀ h' fecOctets fec r,
      parseFecProfile (({} : CustomFecPacket).withRtpHeader h') fecOctets = .ok (fec, r) →
        customFecPacketGrammar {} (h.octets ++ fecOctets) ≠ .ok (fec, r) := by
  constructor
  · rintro - jpegHeader payload hjpeg p r hp rfl
    unfold customJpegPacketGrammar at hp
    split at hp
    case h_1 => cases hp
    case h_2 h' r' hheader =>
      have hlength := parseJpegProfile_length rfl hp
      apply parseRtpHeader_octets_length hh hheader (by omega)
      rw [hlength, List.length_append, hjpeg]
  · intro h' fecOctets fec r hprofile hp
    unfold customFecPacketGrammar at hp
    split at hp
    case h_1 => cases hp
    case h_2 h'' r' hheader =>
      have hlength := parseFecProfile_length rfl hp
      apply parseRtpHeader_octets_length hh hheader (by omega)
      rw [hlength, parseFecProfile_length rfl hprofile]

/-- A packet whose extension has no word loses the first two octets of its JPEG header. -/
theorem header_extension_misread_empty :
    let h : Header :=
      { extensionBit := true
        payloadTypeField := 26
        headerExtension := extensionOctets 0xBEDE 0 [] }
    let payload : Octets := [0xFF, 0xD8, 0xFF, 0xD9]
    let read : CustomJpegPacket :=
      { header := { toHeader := h, fragmentOffset := 256, jpegType := 48, quantizationTable := 36,
                    imageWidth := 0xFF, imageHeight := 0xD8 }
        data := [0xFF, 0xD9] }
    customJpegPacketGrammar {} (h.octets ++ ([0, 0, 0, 0, 1, 0, 48, 36] ++ payload)) =
      .ok (read, []) ∧ read.data ≠ payload := by
  intro h payload read
  have hh : h.Extended := ⟨rfl, rfl, rfl, by decide, by decide, 0xBEDE, 0, [], rfl, rfl⟩
  have hread : customJpegPacketGrammar {} (h.octets ++
      ([0, 0, 0, 0, 1, 0, 48, 36] ++ payload)) = .ok (read, []) := by decide
  exact ⟨hread, (header_extension_misread hh).1 rfl _ payload rfl _ _ hread⟩

/-- Of an extension of one word the first half is taken for a length that does not fit. -/
theorem header_extension_refused :
    let h : Header :=
      { extensionBit := true
        payloadTypeField := 26
        headerExtension := extensionOctets 0xBEDE 1 [0x10, 0xFF, 0, 0] }
    ∃ p, customJpegPacketGrammar {} (h.octets ++
      ([0, 0, 0, 0, 1, 0, 48, 36] ++ [0xFF, 0xD8, 0xFF, 0xD9])) = .error p := ⟨_, rfl⟩

end Rtp
