import StreamingLib.Rtp.Packet

/-!
# The JPEG codec without header extensions

The grammar reads what the generator writes and nothing else. Both halves go part by part: the
CSRC list, the RTP header, the JPEG profile.
-/

namespace Rtp

open Bytes

/-- An RTP header without extension that fits its wire format. -/
structure Header.Plain (h : Header) : Prop where
  version : h.version = 2
  extensionBit : h.extensionBit = false
  headerExtension : h.headerExtension = []
  csrc : h.csrc.toNat = h.csrcs.length
  csrcs : h.csrcs.length ≤ 15
  payloadType : h.payloadTypeField.toNat < 128

/-- A JPEG packet without header extension. -/
structure CustomJpegPacket.Plain (p : CustomJpegPacket) : Prop where
  version : p.header.version = 2
  extensionBit : p.header.extensionBit = false
  headerExtension : p.header.headerExtension = []
  payloadType : p.header.payloadTypeField = 26
  csrc : p.header.csrc.toNat = p.header.csrcs.length
  csrcs : p.header.csrcs.length ≤ 15
  fragmentOffset : p.header.fragmentOffset.toNat < 2 ^ 24

instance (p : CustomJpegPacket) : Decidable p.Plain :=
  decidable_of_iff (p.header.version = 2 ∧ p.header.extensionBit = false ∧
    p.header.headerExtension = [] ∧ p.header.payloadTypeField = 26 ∧
    p.header.csrc.toNat = p.header.csrcs.length ∧ p.header.csrcs.length ≤ 15 ∧
    p.header.fragmentOffset.toNat < 2 ^ 24)
    ⟨fun ⟨h₁, h₂, h₃, h₄, h₅, h₆, h₇⟩ => ⟨h₁, h₂, h₃, h₄, h₅, h₆, h₇⟩,
      fun ⟨h₁, h₂, h₃, h₄, h₅, h₆, h₇⟩ => ⟨h₁, h₂, h₃, h₄, h₅, h₆, h₇⟩⟩

lemma CustomJpegPacket.Plain.rtpHeader {p : CustomJpegPacket} (h : p.Plain) :
    p.header.toHeader.Plain := by
  refine ⟨h.version, h.extensionBit, h.headerExtension, h.csrc, h.csrcs, ?_⟩
  rw [h.payloadType]
  decide

/-- The X bit of the first octet is clear. -/
def ExtensionBitClear (bs : Octets) : Prop := ∀ o ∈ bs.head?, o &&& 0b00010000 = 0

/-! ### The RTP header -/

/-- The written CSRC list. -/
def bigDwords (cs : List UInt32) : Octets := cs.flatMap fun c => bigDword c.toNat

lemma length_bigDwords (cs : List UInt32) : (bigDwords cs).length = 4 * cs.length := by
  induction cs with
  | nil => rfl
  | cons c cs ih =>
    rw [bigDwords, List.flatMap_cons, List.length_append, bigDword, length_bigEndian,
      List.length_cons]
    change 4 + (bigDwords cs).length = _
    omega

lemma parseCsrcs_bigDwords (cs : List UInt32) (h : Header) (bs : Octets) :
    parseCsrcs cs.length h (bigDwords cs ++ bs) = ({ h with csrcs := h.csrcs ++ cs }, bs) := by
  induction cs generalizing h with
  | nil => simp [parseCsrcs, bigDwords]
  | cons c cs ih =>
    obtain ⟨w, x, y, z, hc⟩ := exists_bigDword c.toNat
    have hcons : bigDwords (c :: cs) ++ bs = w :: x :: y :: z :: (bigDwords cs ++ bs) := by
      simp [bigDwords, hc]
    rw [hcons, List.length_cons, parseCsrcs, readDword_bigDword c hc, ih]
    simp

/-- Any bytes are the written form of a CSRC list. -/
lemma exists_bigDwords {n : ℕ} {bs : Octets} (h : 4 * n ≤ bs.length) :
    ∃ cs r, cs.length = n ∧ bs = bigDwords cs ++ r := by
  induction n generalizing bs with
  | zero => exact ⟨[], bs, rfl, rfl⟩
  | succ n ih =>
    rcases bs with - | ⟨w, - | ⟨x, - | ⟨y, - | ⟨z, bs⟩⟩⟩⟩
    all_goals simp only [List.length_nil, List.length_cons] at h
    iterate 4 omega
    obtain ⟨cs, r, hcs, rfl⟩ := ih (show 4 * n ≤ bs.length by omega)
    refine ⟨readDword w x y z :: cs, r, by simp [hcs], ?_⟩
    have hw := bigDword_readDword w x y z
    simp [bigDwords, hw]

lemma fixedHeader_eq (h : Header) : ∃ s₀ s₁ t₀ t₁ t₂ t₃ r₀ r₁ r₂ r₃,
    bigWord h.sequenceNumber.toNat = [s₀, s₁] ∧ bigDword h.timestamp.toNat = [t₀, t₁, t₂, t₃] ∧
    bigDword h.ssrc.toNat = [r₀, r₁, r₂, r₃] ∧
    fixedHeader h = [firstOctet h.version h.paddingSet h.extensionBit h.csrc,
      secondOctet h.marker h.payloadTypeField, s₀, s₁, t₀, t₁, t₂, t₃, r₀, r₁, r₂, r₃] := by
  obtain ⟨s₀, s₁, hs⟩ := exists_bigWord h.sequenceNumber.toNat
  obtain ⟨t₀, t₁, t₂, t₃, ht⟩ := exists_bigDword h.timestamp.toNat
  obtain ⟨r₀, r₁, r₂, r₃, hr⟩ := exists_bigDword h.ssrc.toNat
  exact ⟨s₀, s₁, t₀, t₁, t₂, t₃, r₀, r₁, r₂, r₃, hs, ht, hr, by simp [fixedHeader, hs, ht, hr]⟩

/-- A written header is read back, whatever follows it. -/
lemma parseRtpHeader_generated {h : Header} (hh : h.Plain) (bs : Octets) :
    parseRtpHeader {} (fixedHeader h ++ (bigDwords h.csrcs ++ bs)) = .ok (h, bs) := by
  obtain ⟨s₀, s₁, t₀, t₁, t₂, t₃, r₀, r₁, r₂, r₃, hs, ht, hr, hfix⟩ := fixedHeader_eq h
  obtain ⟨hversion, hextension, hlist, hcsrc, hle, htype⟩ := hh
  obtain ⟨hv, hp, he, hc⟩ := firstOctet_fields (v := h.version) (c := h.csrc) h.paddingSet
    h.extensionBit (by rw [hversion]; decide) (by omega)
  obtain ⟨hm, hpt⟩ := secondOctet_fields h.marker htype
  have hlen : ¬(bigDwords h.csrcs ++ bs).length < 4 * h.csrc.toNat := by
    rw [List.length_append, length_bigDwords]
    omega
  have hrest : parseCsrcs h.csrc.toNat { h with csrcs := [], headerExtension := [] }
      (bigDwords h.csrcs ++ bs) = (h, bs) := by
    rw [hcsrc, parseCsrcs_bigDwords, List.nil_append, ← hlist]
  rw [hversion, hextension] at hv hp he hc hfix
  rw [hversion, hextension] at hrest
  simp only [hfix, List.cons_append, List.nil_append, parseRtpHeader, hv, hp, he, hc, hm, hpt,
    readWord_bigWord _ hs, readDword_bigDword _ ht, readDword_bigDword _ hr, if_neg hlen, hrest,
    hextension]
  rfl

/-- What is read as a header without extension was written as that header. -/
lemma parseRtpHeader_ok {bs r : Octets} {h : Header} (hx : ExtensionBitClear bs)
    (hp : parseRtpHeader {} bs = .ok (h, r)) :
    h.Plain ∧ bs = fixedHeader h ++ (bigDwords h.csrcs ++ r) := by
  unfold parseRtpHeader at hp
  split at hp
  case h_2 => cases hp
  case h_1 o₀ o₁ s₀ s₁ t₀ t₁ t₂ t₃ r₀ r₁ r₂ r₃ bs =>
    have hx₀ : o₀ &&& 0b00010000 = 0 := hx o₀ rfl
    simp only at hp
    by_cases hversion : (o₀ &&& 0b11000000) >>> 6 = 2
    case neg => rw [if_pos hversion] at hp; cases hp
    by_cases hshort : bs.length < 4 * (o₀ &&& 0x0F).toNat
    case pos => rw [if_neg (not_not.mpr hversion), if_pos hshort] at hp; cases hp
    obtain ⟨cs, r', hcs, rfl⟩ := exists_bigDwords (not_lt.mp hshort)
    rw [if_neg (not_not.mpr hversion), if_neg hshort, ← hcs, parseCsrcs_bigDwords,
      if_neg (by simp [hx₀])] at hp
    simp only [Except.ok.injEq, Prod.mk.injEq] at hp
    obtain ⟨rfl, rfl⟩ := hp
    have hlow := low_nibble_lt o₀
    refine ⟨⟨hversion, by simp [hx₀], rfl, hcs.symm, ?_, seven_bits_lt o₁⟩, ?_⟩
    · simp only [List.nil_append]
      omega
    · simp [fixedHeader, firstOctet_eq, secondOctet_eq, bigWord_readWord, bigDword_readDword]

/-! ### JPEG packets -/

lemma fragmentOffset_tail {v : UInt64} (hv : v.toNat < 2 ^ 24) :
    ∃ f₁ f₂ f₃, (bigDword v.toNat).tail = [f₁, f₂, f₃] ∧
      UInt64.ofNat (ofBigEndian [0, f₁, f₂, f₃]) = v := by
  have h := ofBigEndian_bigEndian 3 v.toNat
  rw [Nat.mod_eq_of_lt (by simpa using hv)] at h
  refine ⟨_, _, _, rfl, ?_⟩
  rw [ofBigEndian_cons]
  change UInt64.ofNat (0 * _ + ofBigEndian (bigEndian 3 v.toNat)) = v
  rw [h, zero_mul, zero_add, UInt64.ofNat_toNat]

lemma bigDword_fragmentOffset (f₁ f₂ f₃ : UInt8) :
    (UInt64.ofNat (ofBigEndian [0, f₁, f₂, f₃])).toNat < 2 ^ 24 ∧
      (bigDword (UInt64.ofNat (ofBigEndian [0, f₁, f₂, f₃])).toNat).tail = [f₁, f₂, f₃] := by
  have hlt := ofBigEndian_lt [f₁, f₂, f₃]
  have hcons := ofBigEndian_cons 0 [f₁, f₂, f₃]
  simp only [UInt8.toNat_zero, zero_mul, zero_add] at hcons
  have hnat : (UInt64.ofNat (ofBigEndian [0, f₁, f₂, f₃])).toNat = ofBigEndian [f₁, f₂, f₃] := by
    rw [hcons, UInt64.toNat_ofNat', Nat.mod_eq_of_lt]
    refine lt_trans hlt ?_
    simp
  rw [hnat]
  refine ⟨lt_of_lt_of_eq hlt ?_, bigEndian_ofBigEndian [f₁, f₂, f₃]⟩
  simp

/-- What the generator writes of a packet without header extension. -/
lemma customJpegPacketGenerator_plain {p : CustomJpegPacket} (hp : p.Plain) :
    customJpegPacketGenerator p = (true, fixedHeader p.header.toHeader ++
      (bigDwords p.header.csrcs ++ (jpegProfile p.header ++ p.data))) := by
  simp [customJpegPacketGenerator, standardRtpHeaderGenerator, hp.version, hp.csrc, bigDwords]

/-- A written packet is read back. -/
lemma customJpegPacketGrammar_generated {p : CustomJpegPacket} (hp : p.Plain) :
    customJpegPacketGrammar {} (customJpegPacketGenerator p).2 = .ok (p, []) := by
  obtain ⟨f₁, f₂, f₃, htail, hoffset⟩ := fragmentOffset_tail hp.fragmentOffset
  rw [customJpegPacketGenerator_plain hp]
  simp only [customJpegPacketGrammar, parseRtpHeader_generated hp.rtpHeader, parseJpegProfile,
    CustomJpegPacket.withRtpHeader, hp.payloadType, jpegProfile, htail, List.cons_append,
    List.nil_append, hoffset]
  rfl

/-- What is read as a packet was written as that packet. -/
lemma customJpegPacketGrammar_ok {bs r : Octets} {p : CustomJpegPacket}
    (hx : ExtensionBitClear bs) (hp : customJpegPacketGrammar {} bs = .ok (p, r)) :
    p.Plain ∧ customJpegPacketGenerator p = (true, bs) ∧ r = [] := by
  unfold customJpegPacketGrammar at hp
  split at hp
  case h_1 => cases hp
  case h_2 h bs' hh =>
    obtain ⟨hplain, rfl⟩ := parseRtpHeader_ok hx hh
    unfold parseJpegProfile at hp
    split_ifs at hp with htype
    split at hp
    case h_2 => cases hp
    case h_1 typeSpecific f₁ f₂ f₃ jpegType table width height data =>
      simp only [CustomJpegPacket.withRtpHeader, Except.ok.injEq, Prod.mk.injEq] at hp htype
      obtain ⟨hpacket, rfl⟩ := hp
      obtain ⟨hlt, htail⟩ := bigDword_fragmentOffset f₁ f₂ f₃
      have hp : p.Plain := by
        rw [← hpacket]
        exact ⟨hplain.version, hplain.extensionBit, hplain.headerExtension, not_not.mp htype,
          hplain.csrc, hplain.csrcs, hlt⟩
      refine ⟨hp, ?_, rfl⟩
      rw [customJpegPacketGenerator_plain hp, ← hpacket]
      simp only [jpegProfile, htail, List.nil_append, List.cons_append]

/-- The codec is a bijection between the packets without header extension and the accepted byte
strings with a clear X bit. -/
theorem jpeg_codec_bijection :
    (∀ p : CustomJpegPacket, p.Plain →
      (customJpegPacketGenerator p).1 = true ∧
      customJpegPacketGrammar {} (customJpegPacketGenerator p).2 = .ok (p, [])) ∧
    (∀ bs, ExtensionBitClear bs →
      ((∃ p r, customJpegPacketGrammar {} bs = .ok (p, r)) ↔
        ∃ p : CustomJpegPacket, p.Plain ∧ customJpegPacketGenerator p = (true, bs)) ∧
      ∀ p r, customJpegPacketGrammar {} bs = .ok (p, r) →
        customJpegPacketGenerator p = (true, bs)) := by
  refine ⟨fun p hp => ⟨?_, customJpegPacketGrammar_generated hp⟩, fun bs hx => ⟨⟨?_, ?_⟩, ?_⟩⟩
  · rw [customJpegPacketGenerator_plain hp]
  · rintro ⟨p, r, h⟩
    obtain ⟨hp, hgen, -⟩ := customJpegPacketGrammar_ok hx h
    exact ⟨p, hp, hgen⟩
  · rintro ⟨p, hp, hgen⟩
    have h := customJpegPacketGrammar_generated hp
    rw [hgen] at h
    exact ⟨p, [], h⟩
  · intro p r h
    exact (customJpegPacketGrammar_ok hx h).2.1

/-- A packet with a contributing source. -/
theorem jpeg_codec_bijection_csrc :
    let p : CustomJpegPacket :=
      { header := { csrc := 1, csrcs := [7], payloadTypeField := 26, sequenceNumber := 300,
                    fragmentOffset := 66000, imageWidth := 48 }
        data := [0xFF, 0xD9] }
    customJpegPacketGrammar {} (customJpegPacketGenerator p).2 = .ok (p, []) :=
  (jpeg_codec_bijection.1 _ (by decide)).2

end Rtp
