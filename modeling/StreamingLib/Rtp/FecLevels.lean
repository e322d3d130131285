import StreamingLib.Rtp.ReconstructionBounds

/-!
# Levels of FEC packets

A level is a header and as many octets as this announces. `custom_fec_packet_grammar` skips a level
by that size, yet it stores all octets that are left as the payload.
-/

namespace Rtp

open Bytes

/-! ### Where the headers end -/

/-- The number of octets that both grammars take for the RTP header. -/
def rtpHeaderEnd (bs : Octets) : ℕ :=
  let sources := 12 + 4 * (bs.getD 0 0 &&& 0x0F).toNat
  if bs.getD 0 0 &&& 0b00010000 = 0 then sources
  else sources + (6 + 4 * ofBigEndian ((bs.drop (sources + 4)).take 2))

/-- The octets behind the FEC header. -/
def fecLevelOctets (bs : Octets) : Octets := bs.drop (rtpHeaderEnd bs + 10)

/-- The size of a level header, which the long mask flag decides. -/
def fecLevelHeaderSize (bs : Octets) : ℕ :=
  if (bs.getD (rtpHeaderEnd bs) 0 &&& 0b01000000) >>> 6 != 0 then 8 else 4

lemma fecLevelHeaderSize_pos (bs : Octets) : 2 ≤ fecLevelHeaderSize bs := by
  unfold fecLevelHeaderSize
  split_ifs <;> decide

lemma parseCsrcs_rest {n : ℕ} (h : Header) {bs : Octets} (hle : 4 * n ≤ bs.length) :
    (parseCsrcs n h bs).2 = bs.drop (4 * n) := by
  obtain ⟨cs, r, rfl, rfl⟩ := exists_bigDwords hle
  rw [parseCsrcs_bigDwords, List.drop_left' (length_bigDwords cs)]

lemma parseExtension_rest {h h' : Header} {bs r : Octets} (hp : parseExtension h bs = .ok (h', r))
    (hr : 2 ≤ r.length) : r = bs.drop (6 + 4 * ofBigEndian ((bs.drop 4).take 2)) := by
  rcases bs with - | ⟨a, - | ⟨b, - | ⟨c, - | ⟨d, - | ⟨e, - | ⟨f, bs⟩⟩⟩⟩⟩⟩
  case cons.cons.cons.cons.cons.cons =>
    simp only [parseExtension] at hp
    split_ifs at hp
    cases hp
    rw [← List.drop_drop]
    rfl
  -- Fewer octets than the length word leave at most one.
  all_goals cases hp
  all_goals simp at hr

lemma extensionBit_ne_zero (o : UInt8) :
    ((o &&& 0b00010000) >>> 4 != 0) = decide (o &&& 0b00010000 ≠ 0) := by
  have h : ∀ o : Fin 256, ((UInt8.ofNat o &&& 0b00010000) >>> 4 != 0) =
      decide (UInt8.ofNat o &&& 0b00010000 ≠ 0) := by decide +kernel
  simpa using h ⟨o.toNat, o.toNat_lt⟩

lemma parseRtpHeader_rest {h h' : Header} {bs r : Octets}
    (hp : parseRtpHeader h bs = .ok (h', r)) (hr : 2 ≤ r.length) :
    r = bs.drop (rtpHeaderEnd bs) := by
  unfold parseRtpHeader at hp
  split at hp
  case h_2 => cases hp
  case h_1 o₀ o₁ s₀ s₁ t₀ t₁ t₂ t₃ r₀ r₁ r₂ r₃ bs =>
    have hdrop : ∀ n, (o₀ :: o₁ :: s₀ :: s₁ :: t₀ :: t₁ :: t₂ :: t₃ :: r₀ :: r₁ :: r₂ :: r₃ ::
        bs).drop (12 + n) = bs.drop n := fun n => by rw [Nat.add_comm]; rfl
    dsimp only at hp
    split_ifs at hp with hversion hshort hext
    all_goals rw [(parseCsrcs_csrc _ _ bs).2.1, extensionBit_ne_zero, decide_eq_true_eq] at hext
    · rw [parseCsrcs_rest _ (not_lt.mp hshort)] at hp
      rw [parseExtension_rest hp hr, rtpHeaderEnd]
      simp only [List.getD_cons_zero, if_neg hext, List.drop_drop, Nat.add_assoc, hdrop]
    · obtain ⟨-, rfl⟩ := Prod.mk.inj (Except.ok.inj hp)
      rw [parseCsrcs_rest _ (not_lt.mp hshort), rtpHeaderEnd]
      simp only [List.getD_cons_zero, if_pos (not_not.mp hext), hdrop]

/-! ### One level after the other -/

/-- What a level header says. -/
def fecLevelHeader (head : Octets) : CustomFecLevelHeader where
  protectionLengthField := UInt16.ofNat (ofBigEndian (head.take 2))
  maskField := fecMask (head.drop 2)

/-- Each level has its header and then exactly the octets that this announces as its payload. -/
def LevelsLaidOut (size : ℕ) : List (CustomFecLevelHeader × Octets) → Octets → Octets → Prop
  | [], bs, r => bs = r
  | (level, payload) :: levels, bs, r => ∃ head rest, bs = head ++ (payload ++ rest) ∧
    head.length = size ∧ level = fecLevelHeader head ∧
    payload.length = level.protectionLengthField.toNat ∧ LevelsLaidOut size levels rest r

/-- No level, or one that ends the packet. -/
def AtMostOneLevel (size : ℕ) (bs : Octets) : Prop :=
  bs.length < size ∨ bs.length = size + ofBigEndian (bs.take 2)

instance (size : ℕ) (bs : Octets) : Decidable (AtMostOneLevel size bs) :=
  inferInstanceAs (Decidable (_ ∨ _))

lemma toNat_ofBigEndian_two {bs : Octets} :
    (UInt16.ofNat (ofBigEndian (bs.take 2))).toNat = ofBigEndian (bs.take 2) := by
  have hlt := ofBigEndian_lt (bs.take 2)
  have hpow : 256 ^ (bs.take 2).length ≤ 256 ^ 2 :=
    Nat.pow_le_pow_right (by decide) (List.length_take_le 2 bs)
  rw [UInt16.toNat_ofNat']
  exact Nat.mod_eq_of_lt (lt_of_lt_of_le hlt hpow)

lemma protectionLength_fecLevelHeader {size : ℕ} (hsize : 2 ≤ size) (bs : Octets) :
    (fecLevelHeader (bs.take size)).protectionLengthField.toNat = ofBigEndian (bs.take 2) := by
  rw [fecLevelHeader, toNat_ofBigEndian_two, List.take_take, Nat.min_eq_left hsize]

/-- One turn of the loop over the levels. -/
lemma parseFecLevels_succ {size : ℕ} (hsize : 2 ≤ size) (n : ℕ) (p : CustomFecPacket)
    (bs : Octets) : parseFecLevels size (n + 1) p bs =
      if bs.length < size then .ok (p, bs)
      else if (bs.drop size).length < ofBigEndian (bs.take 2) then .error p
      else parseFecLevels size n
        { p with levels := p.levels ++ [(fecLevelHeader (bs.take size), bs.drop size)] }
        ((bs.drop size).drop (ofBigEndian (bs.take 2))) := by
  have hhead : fecLevelHeader (bs.take size) = {
      protectionLengthField := UInt16.ofNat (ofBigEndian (bs.take 2))
      maskField := fecMask ((bs.take size).drop 2) } := by
    rw [fecLevelHeader, List.take_take, Nat.min_eq_left hsize]
  rw [parseFecLevels, hhead]
  dsimp only
  rw [toNat_ofBigEndian_two]

/-- The levels are laid out as they are read where one level at most fills the packet. -/
lemma parseFecLevels_laidOut_iff {size : ℕ} (hsize : 2 ≤ size) {n : ℕ} {p fec : CustomFecPacket}
    (hp : p.levels = []) {bs r : Octets} (hfec : parseFecLevels size (n + 1) p bs = .ok (fec, r)) :
    LevelsLaidOut size fec.levels bs r ↔ AtMostOneLevel size bs := by
  rw [parseFecLevels_succ hsize] at hfec
  split_ifs at hfec with hshort hfits
  · obtain ⟨rfl, rfl⟩ := Prod.mk.inj (Except.ok.inj hfec)
    rw [hp]
    exact iff_of_true rfl (Or.inl hshort)
  · obtain ⟨⟨more, hmore⟩, -⟩ := parseFecLevels_levels _ _ hfec
    rw [hp, List.nil_append] at hmore
    constructor
    · intro hlaid
      rw [← hmore] at hlaid
      obtain ⟨-, -, -, -, -, hpayload, -⟩ := hlaid
      rw [protectionLength_fecLevelHeader hsize, List.length_drop] at hpayload
      exact Or.inr (by omega)
    · rintro (hlt | hlength)
      · exact absurd hlt hshort
      · have hpayload : (bs.drop size).length = ofBigEndian (bs.take 2) := by
          rw [List.length_drop]
          omega
        rw [List.drop_of_length_le hpayload.le, parseFecLevels_nil (by omega)] at hfec
        obtain ⟨rfl, rfl⟩ := Prod.mk.inj (Except.ok.inj hfec)
        rw [hp]
        refine ⟨bs.take size, [], ?_, ?_, rfl, ?_, rfl⟩
        · rw [List.append_nil, List.take_append_drop]
        · exact List.length_take_of_le (not_lt.mp hshort)
        · rw [protectionLength_fecLevelHeader hsize, hpayload]

/-! ### Accepted packets -/

/-- An accepted packet, cut at the ends of its headers. -/
lemma customFecPacketGrammar_levels {bs r : Octets} {fec : CustomFecPacket}
    (hfec : customFecPacketGrammar {} bs = .ok (fec, r)) : ∃ (p : CustomFecPacket) (n : ℕ),
      p.levels = [] ∧ parseFecLevels (fecLevelHeaderSize bs) (n + 1) p (fecLevelOctets bs) =
        .ok (fec, r) := by
  unfold customFecPacketGrammar at hfec
  rcases hheader : parseRtpHeader ({} : CustomFecPacket).header.toHeader bs with h | ⟨h, rest⟩
  · rw [hheader] at hfec
    cases hfec
  · rw [hheader] at hfec
    dsimp only at hfec
    unfold parseFecProfile at hfec
    split at hfec
    case h_2 => cases hfec
    case h_1 o₀ o₁ s₀ s₁ t₀ t₁ t₂ t₃ l₀ l₁ bs' =>
      have hrest := parseRtpHeader_rest hheader (by simp)
      have hoctets : fecLevelOctets bs = bs' := by
        rw [fecLevelOctets, ← List.drop_drop, ← hrest]
        rfl
      have hflag : bs.getD (rtpHeaderEnd bs) 0 = o₀ := by
        rw [List.getD_eq_getElem?_getD, ← List.head?_drop, ← hrest]
        rfl
      rw [fecLevelHeaderSize, hoctets, hflag]
      exact ⟨_, _, rfl, hfec⟩

/-- The payloads of an accepted packet are what their headers announce, and the levels make up the
octets behind the FEC header, exactly where there is one level at most and it ends the packet. -/
theorem fec_levels_laidOut_iff {bs r : Octets} {fec : CustomFecPacket}
    (hfec : customFecPacketGrammar {} bs = .ok (fec, r)) :
    LevelsLaidOut (fecLevelHeaderSize bs) fec.levels (fecLevelOctets bs) r ↔
      AtMostOneLevel (fecLevelHeaderSize bs) (fecLevelOctets bs) := by
  obtain ⟨p, n, hp, hlevels⟩ := customFecPacketGrammar_levels hfec
  exact parseFecLevels_laidOut_iff (fecLevelHeaderSize_pos bs) hp hlevels

/-- A packet with one level of two octets. -/
theorem fec_levels_laidOut_iff_one :
    let bs : Octets := fixedHeader { payloadTypeField := 100 } ++
      [0, 0, 0, 1, 0, 0, 0, 0, 0, 2] ++ [0, 2, 0x80, 0, 0xAA, 0xBB]
    let fec : CustomFecPacket :=
      { header := { payloadTypeField := 100, snBaseField := 1, lengthRecoveryField := 2 }
        levels := [({ protectionLengthField := 2, maskField := 0x8000000000000000 },
          [0xAA, 0xBB])] }
    customFecPacketGrammar {} bs = .ok (fec, []) ∧
      LevelsLaidOut (fecLevelHeaderSize bs) fec.levels (fecLevelOctets bs) [] :=
  have hfec : customFecPacketGrammar {} (fixedHeader { payloadTypeField := 100 } ++
      [0, 0, 0, 1, 0, 0, 0, 0, 0, 2] ++ [0, 2, 0x80, 0, 0xAA, 0xBB]) = .ok (_, []) := rfl
  ⟨hfec, (fec_levels_laidOut_iff hfec).mpr (by decide)⟩

/-- A second level, here of no octets, is also in the payload of the first. -/
theorem fec_levels_not_laidOut :
    let bs : Octets := fixedHeader { payloadTypeField := 100 } ++
      [0, 0, 0, 1, 0, 0, 0, 0, 0, 2] ++ [0, 2, 0x80, 0, 0xAA, 0xBB] ++ [0, 0, 0x40, 0]
    ∃ fec, customFecPacketGrammar {} bs = .ok (fec, []) ∧
      ¬LevelsLaidOut (fecLevelHeaderSize bs) fec.levels (fecLevelOctets bs) [] := by
  refine ⟨_, rfl, ?_⟩
  rintro ⟨head, rest, -, -, -, hpayload, -⟩
  exact absurd hpayload (by decide)

end Rtp
