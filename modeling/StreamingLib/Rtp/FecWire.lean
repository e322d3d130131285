import StreamingLib.Rtp.FecGenerator
import StreamingLib.Rtp.JpegCodec

/-!
# FEC packets on the wire

What `fec_generator` writes for a group is read by `custom_fec_packet_grammar`: one level with the
mask of the group, and in the recovery fields the exclusive or of the fields of its packets.
-/

namespace Rtp

open Bytes

/-! ### Levels -/

/-- Further levels only come after the ones already read. -/
lemma parseFecLevels_levels (size n : ℕ) {p p' : CustomFecPacket} {bs r : Octets}
    (h : parseFecLevels size n p bs = .ok (p', r)) :
    p.levels <+: p'.levels ∧ p'.header = p.header := by
  induction n generalizing p bs with
  | zero =>
    simp only [parseFecLevels, Except.ok.injEq, Prod.mk.injEq] at h
    rw [← h.1]
    exact ⟨List.prefix_rfl, rfl⟩
  | succ n ih =>
    simp only [parseFecLevels] at h
    split_ifs at h
    · simp only [Except.ok.injEq, Prod.mk.injEq] at h
      rw [← h.1]
      exact ⟨List.prefix_rfl, rfl⟩
    · obtain ⟨hpre, hheader⟩ := ih h
      exact ⟨(List.prefix_append _ _).trans hpre, hheader⟩

lemma parseFecLevels_nil {size : ℕ} (hsize : 0 < size) (n : ℕ) (p : CustomFecPacket) :
    parseFecLevels size n p [] = .ok (p, []) := by
  cases n with
  | zero => rfl
  | succ n => rw [parseFecLevels, List.length_nil, if_pos hsize]

/-! ### The FEC header -/

/-- The first octet of a FEC packet. -/
def fecFirstOctet (fecK : UInt16) (bits : Octets) : UInt8 :=
  bits.getD 0 0 &&& 0b00111111 ||| if fecK > 16 then 0b01000000 else 0

lemma fecFirstOctet_fields (fecK : UInt16) (bits : Octets) :
    ((fecFirstOctet fecK bits &&& 0b10000000) >>> 7 != 0) = false ∧
    ((fecFirstOctet fecK bits &&& 0b01000000) >>> 6 != 0) = decide (fecK > 16) ∧
    fecFirstOctet fecK bits &&& 0b00100000 = bits.getD 0 0 &&& 0b00100000 ∧
    fecFirstOctet fecK bits &&& 0b00010000 = bits.getD 0 0 &&& 0b00010000 ∧
    fecFirstOctet fecK bits &&& 0b00001111 = bits.getD 0 0 &&& 0b00001111 := by
  have h : ∀ (o : Fin 256) (b : Bool),
      (((UInt8.ofNat o &&& 0b00111111 ||| if b then 0b01000000 else 0) &&& 0b10000000) >>> 7 != 0) =
        false ∧
      (((UInt8.ofNat o &&& 0b00111111 ||| if b then 0b01000000 else 0) &&& 0b01000000) >>> 6 != 0) =
        b ∧
      (UInt8.ofNat o &&& 0b00111111 ||| if b then 0b01000000 else 0) &&& 0b00100000 =
        UInt8.ofNat o &&& 0b00100000 ∧
      (UInt8.ofNat o &&& 0b00111111 ||| if b then 0b01000000 else 0) &&& 0b00010000 =
        UInt8.ofNat o &&& 0b00010000 ∧
      (UInt8.ofNat o &&& 0b00111111 ||| if b then 0b01000000 else 0) &&& 0b00001111 =
        UInt8.ofNat o &&& 0b00001111 := by decide +kernel
  have := h ⟨(bits.getD 0 0).toNat, UInt8.toNat_lt _⟩ (decide (fecK > 16))
  simpa [fecFirstOctet] using this

/-- The part of the mask that is written. -/
def writtenMask (fecK : UInt16) (mask : Octets) : Octets :=
  if fecK > 16 then mask else mask.take 2

/-- The parts of a FEC packet. -/
lemma fecPacketOctets_eq (fecK base : UInt16) (mask : Octets) {bits : Octets}
    (hbits : 12 ≤ bits.length) :
    ∃ s₀ s₁, fecPacketOctets fecK base mask bits =
      fecFirstOctet fecK bits :: bits.getD 1 0 :: s₀ :: s₁ :: bits.getD 4 0 :: bits.getD 5 0 ::
        bits.getD 6 0 :: bits.getD 7 0 :: bits.getD 8 0 :: bits.getD 9 0 ::
          (bigWord (bits.length - 12) ++ writtenMask fecK mask ++ bits.drop 12) := by
  obtain ⟨s₀, s₁, hs⟩ := exists_bigWord base.toNat
  have hsix : (bits.drop 4).take 6 = [bits.getD 4 0, bits.getD 5 0, bits.getD 6 0, bits.getD 7 0,
      bits.getD 8 0, bits.getD 9 0] := by
    rcases bits with - | ⟨b₀, - | ⟨b₁, - | ⟨b₂, - | ⟨b₃, - | ⟨b₄, - | ⟨b₅, - | ⟨b₆, - | ⟨b₇, - |
      ⟨b₈, - | ⟨b₉, bits⟩⟩⟩⟩⟩⟩⟩⟩⟩⟩
    case cons.cons.cons.cons.cons.cons.cons.cons.cons.cons => rfl
    all_goals exact absurd hbits (by simp)
  exact ⟨s₀, s₁, by simp [fecPacketOctets, fecFirstOctet, writtenMask, hs, hsix]⟩

lemma length_fecPacketOctets {fecK base : UInt16} {mask bits : Octets}
    (hbits : 12 ≤ bits.length) : 10 ≤ (fecPacketOctets fecK base mask bits).length := by
  obtain ⟨s₀, s₁, h⟩ := fecPacketOctets_eq fecK base mask hbits
  rw [h]
  simp

/-- What is read of the first ten octets. -/
def CustomFecHeader.withRecovery (h : CustomFecHeader) (fecK snBase : UInt16) (bits : Octets) :
    CustomFecHeader :=
  { h with
    extensionFlag := false
    longMaskFlag := fecK > 16
    pRecoveryField := (bits.getD 0 0 &&& 0b00100000) >>> 5 != 0
    xRecoveryField := (bits.getD 0 0 &&& 0b00010000) >>> 4 != 0
    ccRecoveryField := bits.getD 0 0 &&& 0b00001111
    mRecoveryField := (bits.getD 1 0 &&& 0b10000000) >>> 7 != 0
    ptRecoveryField := bits.getD 1 0 &&& 0b01111111
    snBaseField := snBase
    tsRecoveryField := readDword (bits.getD 4 0) (bits.getD 5 0) (bits.getD 6 0) (bits.getD 7 0)
    lengthRecoveryField := readWord (bits.getD 8 0) (bits.getD 9 0) }

/-- The level of a generated packet. -/
def generatedLevel (fecK : UInt16) (mask bits : Octets) : CustomFecLevelHeader where
  protectionLengthField := UInt16.ofNat (bits.length - 12)
  maskField := fecMask (writtenMask fecK mask)

lemma protectionLength_generatedLevel (fecK : UInt16) (mask bits : Octets) :
    (generatedLevel fecK mask bits).protectionLengthField.toNat =
      (bits.length - 12) % 2 ^ 16 := UInt16.toNat_ofNat'

/-- The generated level is read with all octets behind its header, and the loop goes on behind as
many of them as fit its length field. -/
lemma parseFecLevels_generated (fecK : UInt16) (mask bits : Octets) (n : ℕ) (p : CustomFecPacket) :
    parseFecLevels (2 + (writtenMask fecK mask).length) (n + 1) p
        (bigWord (bits.length - 12) ++ writtenMask fecK mask ++ bits.drop 12) =
      parseFecLevels (2 + (writtenMask fecK mask).length) n
        { p with levels := p.levels ++ [(generatedLevel fecK mask bits, bits.drop 12)] }
        ((bits.drop 12).drop (generatedLevel fecK mask bits).protectionLengthField.toNat) := by
  have hword : (bigWord (bits.length - 12)).length = 2 := length_bigWord _
  have htwo : (bigWord (bits.length - 12) ++ writtenMask fecK mask).length =
      2 + (writtenMask fecK mask).length := by
    rw [List.length_append, hword]
  have hvalue : UInt16.ofNat (ofBigEndian (bigWord (bits.length - 12))) =
      UInt16.ofNat (bits.length - 12) := by
    apply UInt16.toNat_inj.mp
    rw [UInt16.toNat_ofNat', UInt16.toNat_ofNat', bigWord, ofBigEndian_bigEndian]
    exact Nat.mod_mod _ _
  have hlength : (UInt16.ofNat (bits.length - 12)).toNat ≤ (bits.drop 12).length := by
    rw [UInt16.toNat_ofNat', List.length_drop]
    exact Nat.mod_le _ _
  have hmaskOctets : ((bigWord (bits.length - 12) ++ writtenMask fecK mask ++ bits.drop 12).take
      (2 + (writtenMask fecK mask).length)).drop 2 = writtenMask fecK mask := by
    rw [List.take_left' htwo, List.drop_left' hword]
  rw [parseFecLevels, if_neg (by rw [List.length_append]; omega)]
  dsimp only
  rw [hmaskOctets, List.drop_left' htwo, List.append_assoc, List.take_left' hword, hvalue,
    if_neg (not_lt.mpr hlength)]
  rfl

/-- The first level of a generated packet is read with the payload that was written. -/
lemma parseFecProfile_generated (p : CustomFecPacket) (fecK base : UInt16) {mask bits : Octets}
    (hmask : mask.length = 6) (hbits : 12 ≤ bits.length) :
    ∃ snBase size n, 0 < size ∧ parseFecProfile p (fecPacketOctets fecK base mask bits) =
      parseFecLevels size n
        { header := p.header.withRecovery fecK snBase bits
          levels := p.levels ++ [(generatedLevel fecK mask bits, bits.drop 12)] }
        ((bits.drop 12).drop (generatedLevel fecK mask bits).protectionLengthField.toNat) := by
  obtain ⟨s₀, s₁, h⟩ := fecPacketOctets_eq fecK base mask hbits
  obtain ⟨hext, hlong, hp, hx, hcc⟩ := fecFirstOctet_fields fecK bits
  have hwritten : (writtenMask fecK mask).length = if fecK > 16 then 6 else 2 := by
    unfold writtenMask
    split_ifs
    · exact hmask
    · rw [List.length_take, hmask]
      rfl
  have hsize : (if decide (fecK > 16) = true then 8 else 4) =
      2 + (writtenMask fecK mask).length := by
    rw [hwritten]
    simp only [decide_eq_true_eq]
    split_ifs <;> rfl
  have hprofile : parseFecProfile p (fecPacketOctets fecK base mask bits) =
      parseFecLevels (2 + (writtenMask fecK mask).length)
        ((bigWord (bits.length - 12) ++ writtenMask fecK mask ++ bits.drop 12).length + 1)
        { p with header := p.header.withRecovery fecK (readWord s₀ s₁) bits }
        (bigWord (bits.length - 12) ++ writtenMask fecK mask ++ bits.drop 12) := by
    rw [h]
    simp only [parseFecProfile, hext, hlong, hp, hx, hcc, hsize, CustomFecHeader.withRecovery]
  exact ⟨_, _, _, Nat.add_pos_left two_pos _,
    hprofile.trans (parseFecLevels_generated fecK mask bits _ _)⟩

/-! ### Columns -/

lemma getD_fecRow {m : Octets} (h : 12 ≤ m.length) (j : ℕ) :
    (fecRow m).getD (12 + j) 0 = m.getD (10 + j) 0 := by
  have hlen : (m.take 8 ++ bigWord (m.length - 12)).length = 10 := by
    rw [List.length_append, List.length_take, length_bigWord]
    omega
  rw [fecRow, ← List.append_assoc, List.getD_append_right _ _ _ _ (by omega), hlen,
    List.getD_eq_getElem?_getD, List.getElem?_drop, List.getD_eq_getElem?_getD]
  congr 2
  omega

lemma getD_fecRow_of_lt {m : Octets} (h : 12 ≤ m.length) {j : ℕ} (hj : j < 8) :
    (fecRow m).getD j 0 = m.getD j 0 := by
  have hlen : (m.take 8).length = 8 := by
    rw [List.length_take]
    omega
  rw [fecRow, List.getD_append _ _ _ _ (by omega), List.getD_eq_getElem?_getD,
    List.getElem?_take_of_lt hj, List.getD_eq_getElem?_getD]

lemma getD_fecRow_length {m : Octets} (h : 12 ≤ m.length) :
    [(fecRow m).getD 8 0, (fecRow m).getD 9 0] = bigWord (m.length - 12) := by
  obtain ⟨a, b, hword⟩ := exists_bigWord (m.length - 12)
  have hlen : (m.take 8).length = 8 := by
    rw [List.length_take]
    omega
  have hcolumn : ∀ j, (fecRow m).getD (8 + j) 0 = ([a, b] ++ m.drop 8).getD j 0 := by
    intro j
    rw [fecRow, hword, List.getD_append_right _ _ _ _ (by omega), hlen, Nat.add_sub_cancel_left]
  rw [hword]
  exact congrArg₂ (fun x y => [x, y]) (hcolumn 0) (hcolumn 1)

lemma bit_xor (i : Fin 8) (a b : UInt8) :
    (a ^^^ b).toNat.testBit i = xor (a.toNat.testBit i) (b.toNat.testBit i) := by
  rw [UInt8.toNat_xor, Nat.testBit_xor]

lemma and_shiftRight_ne_zero (o : UInt8) :
    ((o &&& 0b00100000) >>> 5 != 0) = o.toNat.testBit 5 ∧
    ((o &&& 0b00010000) >>> 4 != 0) = o.toNat.testBit 4 ∧
    ((o &&& 0b10000000) >>> 7 != 0) = o.toNat.testBit 7 := by
  have h : ∀ o : Fin 256, ((UInt8.ofNat o &&& 0b00100000) >>> 5 != 0) = o.val.testBit 5 ∧
      ((UInt8.ofNat o &&& 0b00010000) >>> 4 != 0) = o.val.testBit 4 ∧
      ((UInt8.ofNat o &&& 0b10000000) >>> 7 != 0) = o.val.testBit 7 := by decide +kernel
  simpa using h ⟨o.toNat, o.toNat_lt⟩

lemma xor_and_right (a b c : UInt8) : (a ^^^ b) &&& c = (a &&& c) ^^^ (b &&& c) := by
  apply UInt8.toNat_inj.mp
  simp only [UInt8.toNat_and, UInt8.toNat_xor, Nat.and_xor_distrib_right]

lemma readDword_xor (a b c d a' b' c' d' : UInt8) :
    readDword (a ^^^ a') (b ^^^ b') (c ^^^ c') (d ^^^ d') =
      readDword a b c d ^^^ readDword a' b' c' d' := by
  have h := @ofBigEndian_zipWith_xor [a, b, c, d] [a', b', c', d'] rfl
  simp only [List.zipWith_cons_cons, List.zipWith_nil_left] at h
  rw [readDword, h]
  apply UInt32.toNat_inj.mp
  have hlt : ∀ w x y z : UInt8, ofBigEndian [w, x, y, z] < 2 ^ 32 := fun w x y z => by
    simpa using ofBigEndian_lt [w, x, y, z]
  rw [UInt32.toNat_xor, readDword, readDword, UInt32.toNat_ofNat', UInt32.toNat_ofNat',
    UInt32.toNat_ofNat', Nat.mod_eq_of_lt (hlt a b c d), Nat.mod_eq_of_lt (hlt a' b' c' d'),
    Nat.mod_eq_of_lt (Nat.xor_lt_two_pow (hlt a b c d) (hlt a' b' c' d'))]

/-! ### Groups -/

/-- The fields of the RTP header that a FEC packet protects, where a packet has them. -/
def protectedFields (media : Octets) : Header :=
  { paddingSet := (media.getD 0 0 &&& 0b00100000) >>> 5 != 0
    extensionBit := (media.getD 0 0 &&& 0b00010000) >>> 4 != 0
    csrc := media.getD 0 0 &&& 0x0F
    marker := (media.getD 1 0 &&& 0b10000000) >>> 7 != 0
    payloadTypeField := media.getD 1 0 &&& 0b01111111
    timestamp := readDword (media.getD 4 0) (media.getD 5 0) (media.getD 6 0) (media.getD 7 0) }

/-- One level that covers the group, and the exclusive or of its fields. -/
structure CustomFecPacket.Protects (packet : CustomFecPacket) (media : List Octets) : Prop where
  longMask : packet.header.longMaskFlag = decide (16 < media.length)
  level : ∃ level payload, packet.levels = [(level, payload)] ∧
    level.protectionLengthField.toNat = payload.length ∧
    ∀ i < 64, level.maskField.toNat.testBit (63 - i) = decide (i < media.length)
  padding : packet.header.pRecoveryField =
    (media.map fun m => (protectedFields m).paddingSet).foldr xor false
  extension : packet.header.xRecoveryField =
    (media.map fun m => (protectedFields m).extensionBit).foldr xor false
  csrcCount : packet.header.ccRecoveryField =
    (media.map fun m => (protectedFields m).csrc).foldr (· ^^^ ·) 0
  marker : packet.header.mRecoveryField =
    (media.map fun m => (protectedFields m).marker).foldr xor false
  payloadType : packet.header.ptRecoveryField =
    (media.map fun m => (protectedFields m).payloadTypeField).foldr (· ^^^ ·) 0
  timestamp : packet.header.tsRecoveryField =
    (media.map fun m => (protectedFields m).timestamp).foldr (· ^^^ ·) 0
  length : packet.header.lengthRecoveryField.toNat =
    (media.map fun m => m.length - 12).foldr (· ^^^ ·) 0

/-- The header that `send_next_packet_handler` puts in front of a FEC packet. -/
def fecRtpHeader (sequenceNumber : UInt16) (ssrc timestamp : UInt32) : Header :=
  { sequenceNumber := sequenceNumber, ssrc := ssrc, payloadTypeField := 100,
    timestamp := timestamp }

/-- A FEC packet behind a header without contributing sources. -/
lemma customFecPacketGrammar_fixedHeader {header : Header} (hheader : header.Plain)
    (hcsrcs : header.csrcs = []) (fec : Octets) :
    customFecPacketGrammar {} (fixedHeader header ++ fec) =
      parseFecProfile (({} : CustomFecPacket).withRtpHeader header) fec := by
  have hread : parseRtpHeader ({} : CustomFecPacket).header.toHeader (fixedHeader header ++ fec) =
      .ok (header, fec) := by
    have h := parseRtpHeader_generated hheader fec
    rwa [hcsrcs] at h
  rw [customFecPacketGrammar, hread]

/-- The written part of the mask has the first bits set, one for each packet. -/
lemma testBit_writtenMask {fecK : UInt16} (hk : fecK.toNat ≤ 48) {mask : Octets}
    (hmask : fecMaskOctets fecK = some mask) {i : ℕ} (hi : i < 64) :
    (fecMask (writtenMask fecK mask)).toNat.testBit (63 - i) = decide (i < fecK.toNat) := by
  have h : ∀ (k : Fin 49) (i : Fin 64), (fecMaskOctets (UInt16.ofNat k)).map (fun mask =>
      (fecMask (writtenMask (UInt16.ofNat k) mask)).toNat.testBit (63 - i)) =
        some (decide (i.val < k)) := by
    decide
  have := h ⟨fecK.toNat, Nat.lt_succ_of_le hk⟩ ⟨i, hi⟩
  rwa [UInt16.ofNat_toNat, hmask, Option.map_some, Option.some.injEq] at this

section Media

variable {media : List Octets}

/-- The bit string of a group has its columns. -/
lemma getD_sum_fecRow (h : ∀ m ∈ media, 12 ≤ m.length) {j : ℕ} (hj : j < 8) :
    (Parity.sum (· ^^^ ·) (media.map fecRow)).getD j 0 = Parity.column (· ^^^ ·) 0 media j := by
  rw [Parity.getD_sum]
  conv_rhs => rw [← List.map_id media]
  exact Parity.column_map_congr _ _ fun m hm => getD_fecRow_of_lt (h m hm) hj

lemma readDword_columns (media : List Octets) (j : ℕ) :
    readDword (Parity.column (· ^^^ ·) 0 media j) (Parity.column (· ^^^ ·) 0 media (j + 1))
      (Parity.column (· ^^^ ·) 0 media (j + 2)) (Parity.column (· ^^^ ·) 0 media (j + 3)) =
    (media.map fun m => readDword (m.getD j 0) (m.getD (j + 1) 0) (m.getD (j + 2) 0)
      (m.getD (j + 3) 0)).foldr (· ^^^ ·) 0 := by
  induction media with
  | nil => exact (by decide : readDword 0 0 0 0 = 0)
  | cons m media ih =>
    simp only [Parity.column_cons, readDword_xor, ih, List.map_cons, List.foldr_cons]

/-- The length columns hold the exclusive or of the lengths, which fit. -/
lemma readWord_lengthColumns (h : ∀ m ∈ media, 12 ≤ m.length ∧ m.length < 2 ^ 16 + 12) :
    (readWord (Parity.column (· ^^^ ·) 0 (media.map fecRow) 8)
      (Parity.column (· ^^^ ·) 0 (media.map fecRow) 9)).toNat =
    (media.map fun m => m.length - 12).foldr (· ^^^ ·) 0 := by
  have hlt : ∀ x y : UInt8, ofBigEndian [x, y] < 2 ^ 16 := fun x y => by
    simpa using ofBigEndian_lt [x, y]
  rw [readWord, UInt16.toNat_ofNat', Nat.mod_eq_of_lt (hlt _ _)]
  induction media with
  | nil => rfl
  | cons m media ih =>
    have hm := h m List.mem_cons_self
    have hvalue : ofBigEndian [(fecRow m).getD 8 0, (fecRow m).getD 9 0] = m.length - 12 := by
      rw [getD_fecRow_length hm.1, bigWord, ofBigEndian_bigEndian]
      exact Nat.mod_eq_of_lt (by omega)
    have hxor := @ofBigEndian_zipWith_xor [(fecRow m).getD 8 0, (fecRow m).getD 9 0]
      [Parity.column (· ^^^ ·) 0 (media.map fecRow) 8,
        Parity.column (· ^^^ ·) 0 (media.map fecRow) 9] rfl
    simp only [List.zipWith_cons_cons, List.zipWith_nil_left] at hxor
    rw [List.map_cons, Parity.column_cons, Parity.column_cons, hxor, hvalue,
      ih fun m' hm' => h m' (List.mem_cons_of_mem m hm'), List.map_cons, List.foldr_cons]

/-- The header of the packet for a group has the recovery fields of the group. -/
lemma withRecovery_protects {fecK : UInt16} (snBase : UInt16) (hk : fecK.toNat ≤ 48)
    (hlength : media.length = fecK.toNat)
    (h : ∀ m ∈ media, 12 ≤ m.length ∧ m.length ≤ 65507) (header : CustomFecHeader) {mask : Octets}
    (hmask : fecMaskOctets fecK = some mask) (hbits : 12 ≤
      (Parity.sum (· ^^^ ·) (media.map fecRow)).length) :
    CustomFecPacket.Protects
      { header := header.withRecovery fecK snBase (Parity.sum (· ^^^ ·) (media.map fecRow))
        levels := [(generatedLevel fecK mask (Parity.sum (· ^^^ ·) (media.map fecRow)),
          (Parity.sum (· ^^^ ·) (media.map fecRow)).drop 12)] } media := by
  have hcolumn : ∀ j < 8, (Parity.sum (· ^^^ ·) (media.map fecRow)).getD j 0 =
      Parity.column (· ^^^ ·) 0 media j := fun j hj =>
    getD_sum_fecRow (fun m hm => (h m hm).1) hj
  have hbit : ∀ (i : Fin 8) (j : ℕ), j < 8 →
      ((Parity.sum (· ^^^ ·) (media.map fecRow)).getD j 0).toNat.testBit i =
        (media.map fun m => (m.getD j 0).toNat.testBit i).foldr xor false := by
    intro i j hj
    rw [hcolumn j hj]
    exact @Parity.map_column UInt8 (· ^^^ ·) 0 Bool xor false (fun o => o.toNat.testBit i)
      (Nat.zero_testBit _) (bit_xor i) media j
  have hand : ∀ (c : UInt8) (j : ℕ), j < 8 →
      (Parity.sum (· ^^^ ·) (media.map fecRow)).getD j 0 &&& c =
        (media.map fun m => m.getD j 0 &&& c).foldr (· ^^^ ·) 0 := by
    intro c j hj
    rw [hcolumn j hj]
    exact Parity.map_column _ _ (· &&& c) UInt8.zero_and (fun a b => xor_and_right a b c) media j
  have hmax : (Parity.sum (· ^^^ ·) (media.map fecRow)).length ≤ 65509 := by
    apply Parity.length_sum_le
    intro row hrow
    obtain ⟨m, hm, rfl⟩ := List.mem_map.mp hrow
    rw [length_fecRow (h m hm).1]
    exact Nat.add_le_add_right (h m hm).2 2
  constructor
  · rw [hlength]
    rfl
  · refine ⟨_, _, rfl, ?_, ?_⟩
    · rw [protectionLength_generatedLevel, List.length_drop]
      exact Nat.mod_eq_of_lt (by omega)
    · intro i hi
      rw [hlength]
      exact testBit_writtenMask hk hmask hi
  · simp only [CustomFecHeader.withRecovery, protectedFields, and_shiftRight_ne_zero]
    exact hbit 5 0 (by decide)
  · simp only [CustomFecHeader.withRecovery, protectedFields, and_shiftRight_ne_zero]
    exact hbit 4 0 (by decide)
  · exact hand 0x0F 0 (by decide)
  · simp only [CustomFecHeader.withRecovery, protectedFields, and_shiftRight_ne_zero]
    exact hbit 7 1 (by decide)
  · exact hand 0b01111111 1 (by decide)
  · simp only [CustomFecHeader.withRecovery]
    rw [hcolumn 4 (by decide), hcolumn 5 (by decide), hcolumn 6 (by decide), hcolumn 7 (by decide)]
    exact readDword_columns media 4
  · simp only [CustomFecHeader.withRecovery, Parity.getD_sum]
    exact readWord_lengthColumns fun m hm => ⟨(h m hm).1, lt_of_le_of_lt (h m hm).2 (by decide)⟩

end Media

/-- The FEC packet of a group, and what is read of it behind its RTP header. -/
lemma exists_fecPacket {fecK : UInt16} (hpos : 1 ≤ fecK.toNat) (hk : fecK.toNat ≤ 48)
    {packets : List (Octets × UInt16)} (hlength : packets.length = fecK.toNat)
    (hsize : ∀ p ∈ packets, 12 ≤ p.1.length ∧ p.1.length ≤ 65507) (sequenceNumber : UInt16)
    (ssrc timestamp : UInt32) :
    let bits := Parity.sum (· ^^^ ·) (packets.map fun p => fecRow p.1)
    let header := fecRtpHeader sequenceNumber ssrc timestamp
    ∃ base mask snBase, fecMaskOctets fecK = some mask ∧ 12 ≤ bits.length ∧
      bits.length - 12 < 2 ^ 16 ∧ (standardRtpHeaderGenerator header).2 = fixedHeader header ∧
      ((FecGenerator.new fecK).generateAll packets).2 =
        .ok (some (fecPacketOctets fecK base mask bits)) ∧
      customFecPacketGrammar {} (fixedHeader header ++ fecPacketOctets fecK base mask bits) =
        .ok ({
          header := (({} : CustomFecPacket).withRtpHeader header).header.withRecovery fecK snBase
            bits
          levels := [(generatedLevel fecK mask bits, bits.drop 12)] }, []) := by
  intro bits header
  have hne : packets ≠ [] := List.ne_nil_of_length_pos (by omega)
  obtain ⟨mask, hmask⟩ := Option.isSome_iff_exists.mp ((fecMaskOctets_isSome fecK).mpr hk)
  obtain ⟨base, hgen⟩ := @generateAll_of_length (.new fecK) packets hne hlength.symm mask hmask
    (fun p hp => (hsize p hp).1) (Or.inl rfl)
  obtain ⟨p, hp⟩ := List.exists_mem_of_length_pos (show 0 < packets.length by omega)
  have hbits : 12 ≤ bits.length := by
    have hrow := length_fecRow (hsize p hp).1
    have hle := Parity.length_le_sum (· ^^^ ·)
      (List.mem_map_of_mem (f := fun p : Octets × UInt16 => fecRow p.1) hp)
    exact le_trans (by rw [hrow]; exact Nat.le_add_right_of_le (hsize p hp).1) hle
  have hmax : bits.length ≤ 65509 := by
    apply Parity.length_sum_le
    intro row hrow
    obtain ⟨q, hq, rfl⟩ := List.mem_map.mp hrow
    rw [length_fecRow (hsize q hq).1]
    exact Nat.add_le_add_right (hsize q hq).2 2
  have hplain : header.Plain :=
    ⟨rfl, rfl, rfl, rfl, by simp [header, fecRtpHeader], by simp [header, fecRtpHeader]⟩
  have hwritten : (standardRtpHeaderGenerator header).2 = fixedHeader header := by
    rw [standardRtpHeaderGenerator, if_neg (by simp [hplain.version]),
      if_neg (by simp [hplain.csrc])]
    exact List.append_nil _
  obtain ⟨snBase, size, n, hsizePos, hparse⟩ := parseFecProfile_generated
    (({} : CustomFecPacket).withRtpHeader header) fecK base (length_fecMaskOctets hmask) hbits
  have hfit : (generatedLevel fecK mask bits).protectionLengthField.toNat =
      (bits.drop 12).length := by
    rw [protectionLength_generatedLevel, List.length_drop]
    exact Nat.mod_eq_of_lt (by omega)
  refine ⟨base, mask, snBase, hmask, hbits, by omega, hwritten, congrArg Prod.snd hgen, ?_⟩
  rw [customFecPacketGrammar_fixedHeader hplain rfl, hparse, hfit, List.drop_length,
    parseFecLevels_nil hsizePos]
  rfl

/-- The FEC packet of a group of `fec_k` media packets, with its RTP header in front, is accepted
and protects the group. -/
theorem fec_wire_agreement {fecK : UInt16} (hpos : 1 ≤ fecK.toNat) (hk : fecK.toNat ≤ 48)
    {packets : List (Octets × UInt16)} (hlength : packets.length = fecK.toNat)
    (hsize : ∀ p ∈ packets, 12 ≤ p.1.length ∧ p.1.length ≤ 65507) (sequenceNumber : UInt16)
    (ssrc timestamp : UInt32) :
    ∃ fec packet, ((FecGenerator.new fecK).generateAll packets).2 = .ok (some fec) ∧
      customFecPacketGrammar {} ((standardRtpHeaderGenerator
        (fecRtpHeader sequenceNumber ssrc timestamp)).2 ++ fec) = .ok (packet, []) ∧
      packet.Protects (packets.map (·.1)) := by
  obtain ⟨base, mask, snBase, hmask, hbits, -, hwritten, hgen, hparse⟩ :=
    exists_fecPacket hpos hk hlength hsize sequenceNumber ssrc timestamp
  have hrows : packets.map (fun p => fecRow p.1) = (packets.map (·.1)).map fecRow := by
    rw [List.map_map]
    rfl
  have hsize' : ∀ m ∈ packets.map (·.1), 12 ≤ m.length ∧ m.length ≤ 65507 := by
    intro m hm
    obtain ⟨p, hp, rfl⟩ := List.mem_map.mp hm
    exact hsize p hp
  rw [hrows] at hbits hgen hparse
  refine ⟨_, _, hgen, hwritten ▸ hparse, ?_⟩
  exact withRecovery_protects snBase hk ((List.length_map _).trans hlength) hsize' _ hmask hbits

/-- Two packets of different lengths. -/
theorem fec_wire_agreement_two :
    ∃ fec packet, ((FecGenerator.new 2).generateAll
        [(List.replicate 12 128, 1), (List.replicate 13 129, 2)]).2 = .ok (some fec) ∧
      customFecPacketGrammar {} ((standardRtpHeaderGenerator (fecRtpHeader 7 1 7200)).2 ++ fec) =
        .ok (packet, []) ∧
      packet.Protects [List.replicate 12 128, List.replicate 13 129] :=
  fec_wire_agreement (by decide) (by decide) rfl (by simp) 7 1 7200

end Rtp
