import StreamingLib.Rtp.FecRecovery
import StreamingLib.Rtp.FecWire

/-!
# When recovery is exact

The payload of the received FEC packet and the remaining packets are combined, and the outcome is
written as columns of the group.
-/

namespace Rtp

open Bytes

/-! ### Media packets -/

lemma length_fixedHeader (h : Header) : (fixedHeader h).length = 12 := by
  obtain ⟨_, _, _, _, _, _, _, _, _, _, -, -, -, hfix⟩ := fixedHeader_eq h
  rw [hfix]
  rfl

lemma length_jpegProfile (h : CustomJpegPayloadHeader) : (jpegProfile h).length = 8 := by
  obtain ⟨_, _, _, _, hd⟩ := exists_bigDword h.fragmentOffset.toNat
  rw [jpegProfile, hd]
  rfl

lemma raw_eq {p : CustomJpegPacket} (hp : p.Plain) (hc : p.header.csrcs = []) :
    raw p = (fixedHeader p.header.toHeader ++ jpegProfile p.header) ++ p.data := by
  rw [raw, customJpegPacketGenerator_plain hp, hc]
  simp [bigDwords]

lemma length_raw {p : CustomJpegPacket} (hp : p.Plain) (hc : p.header.csrcs = []) :
    (raw p).length = 20 + p.data.length := by
  rw [raw_eq hp hc, List.length_append, List.length_append, length_fixedHeader, length_jpegProfile]

/-- The image data starts at the twenty-first byte. -/
lemma getD_raw {p : CustomJpegPacket} (hp : p.Plain) (hc : p.header.csrcs = []) (j : ℕ) :
    (raw p).getD (20 + j) 0 = p.data.getD j 0 := by
  have hlen : (fixedHeader p.header.toHeader ++ jpegProfile p.header).length = 20 := by
    rw [List.length_append, length_fixedHeader, length_jpegProfile]
  rw [raw_eq hp hc, List.getD_append_right _ _ _ _ (by omega), hlen, Nat.add_sub_cancel_left]

/-- The bits that a recovered header depends on. -/
lemma raw_octets {p : CustomJpegPacket} (hp : p.Plain) (hc : p.header.csrcs = []) :
    (raw p).getD 0 0 &&& 0b00011111 = 0 ∧ (raw p).getD 1 0 &&& 0b01111111 = 26 := by
  have hcsrc : p.header.csrc = 0 := by
    apply UInt8.toNat_inj.mp
    rw [hp.csrc, hc]
    rfl
  have hbits : ∀ b : Bool, firstOctet 2 b false 0 &&& 0b00011111 = 0 := by decide
  obtain ⟨s₀, s₁, t₀, t₁, t₂, t₃, r₀, r₁, r₂, r₃, -, -, -, hfix⟩ := fixedHeader_eq p.header.toHeader
  rw [raw_eq hp hc, hfix, hp.version, hp.extensionBit, hp.payloadType, hcsrc]
  exact ⟨hbits _, (secondOctet_fields p.header.marker (t := 26) (by decide)).2⟩

/-! ### Columns of a group -/

/-- The parity of column `j` of some packets. -/
def packetColumn (packets : List CustomJpegPacket) (j : ℕ) : UInt8 :=
  Parity.column (· ^^^ ·) 0 (packets.map raw) j

/-- The bit string of a group. -/
def groupBits (packets : List CustomJpegPacket) : Octets :=
  Parity.sum (· ^^^ ·) (packets.map fun p => fecRow (raw p))

/-- The length of the longest packet. -/
def maxLength (packets : List CustomJpegPacket) : ℕ :=
  (Parity.sum (· ^^^ ·) (packets.map raw)).length

section Packets

variable {packets : List CustomJpegPacket}

lemma length_groupBits (hne : packets ≠ []) (h : ∀ p ∈ packets, 12 ≤ (raw p).length) :
    (groupBits packets).length = maxLength packets + 2 :=
  Parity.length_sum_map _ hne fun p hp => length_fecRow (h p hp)

lemma getD_groupBits (h : ∀ p ∈ packets, 12 ≤ (raw p).length) (j : ℕ) :
    (groupBits packets).getD (12 + j) 0 = packetColumn packets (10 + j) := by
  rw [groupBits, Parity.getD_sum]
  exact Parity.column_map_congr _ _ fun p hp => getD_fecRow (h p hp) j

lemma getD_groupBits_of_lt (h : ∀ p ∈ packets, 12 ≤ (raw p).length) {j : ℕ} (hj : j < 8) :
    (groupBits packets).getD j 0 = packetColumn packets j := by
  rw [groupBits, Parity.getD_sum]
  exact Parity.column_map_congr _ _ fun p hp => getD_fecRow_of_lt (h p hp) hj

lemma length_raw_le_maxLength {p : CustomJpegPacket} (hp : p ∈ packets) :
    (raw p).length ≤ maxLength packets :=
  Parity.length_le_sum _ (List.mem_map_of_mem hp)

/-- The column of the missing packet. -/
lemma packetColumn_recover (before after : List CustomJpegPacket) (lost : CustomJpegPacket)
    (j : ℕ) :
    packetColumn (before ++ lost :: after) j ^^^ packetColumn (before ++ after) j =
      (raw lost).getD j 0 := by
  simp only [packetColumn, List.map_append, List.map_cons]
  exact Parity.column_recover _ _ (fun a => UInt8.xor_self) _ _ _ _

end Packets

/-! ### Reconstruction -/

/-- The parity that the receiver computes has the columns of the packets that arrived. -/
lemma receivedParity_columns {media : List (CustomJpegPacket × Octets)} (hne : media ≠ [])
    (hk : media.length + 1 ≤ 48) (hlen : ∀ p ∈ media, 12 ≤ p.2.length) :
    ∃ base mask bits, 12 ≤ bits.length ∧
      (∀ j < 8, bits.getD j 0 = Parity.column (· ^^^ ·) 0 (media.map (·.2)) j) ∧
      receivedParity media =
        some (fecPacketOctets (UInt16.ofNat (media.length + 1)) base mask bits) := by
  obtain ⟨p, ps, hps⟩ := List.exists_cons_of_ne_nil hne
  have hfirst : media[0]? = some p := by simp [hps]
  have hcount : (UInt16.ofNat (media.length + 1)).toNat = media.length + 1 := by
    rw [UInt16.toNat_ofNat']
    omega
  obtain ⟨calls, hcalls⟩ : ∃ calls, calls = (media.map fun p => (p.2, p.1.header.sequenceNumber)) ++
      [(List.replicate 12 0, p.1.header.sequenceNumber)] := ⟨_, rfl⟩
  have hall : ∀ q ∈ calls, 12 ≤ q.1.length := by
    intro q hq
    rcases List.mem_append.mp (hcalls ▸ hq) with hq | hq
    · obtain ⟨q', hq', rfl⟩ := List.mem_map.mp hq
      exact hlen q' hq'
    · rw [List.mem_singleton.mp hq, List.length_replicate]
  obtain ⟨base, mask, -, hgen⟩ := generateAll_group
    (UInt16.ofNat (media.length + 1)) (by omega) (by simp [hcalls])
    (by rw [hcount, hcalls]; simp) hall
  refine ⟨base, mask, Parity.sum (· ^^^ ·) (calls.map fun p => fecRow p.1), ?_, ?_, ?_⟩
  · have hzeros : (List.replicate 12 0, p.1.header.sequenceNumber) ∈ calls := by simp [hcalls]
    have hrow := length_fecRow (hall _ hzeros)
    refine le_trans ?_ (Parity.length_le_sum _ (List.mem_map_of_mem hzeros))
    rw [hrow, List.length_replicate]
    omega
  · intro j hj
    have hzero : (fecRow (List.replicate 12 0)).getD j 0 = 0 := by
      rw [getD_fecRow_of_lt (by simp) hj]
      interval_cases j <;> rfl
    rw [Parity.getD_sum, hcalls, List.map_append, Parity.column_append, List.map_singleton,
      Parity.column_cons, Parity.column_nil, hzero, List.map_map]
    simp only [UInt8.xor_zero]
    exact Parity.column_map_congr _ _ fun q hq => getD_fecRow_of_lt (hlen q hq) hj
  · simp only [receivedParity, hfirst, Option.bind_eq_bind, Option.bind_some, ← hcalls, hgen]

lemma receivedParity_eq {received : List CustomJpegPacket} (hne : received ≠ [])
    (hk : received.length + 1 ≤ 48) (hlen : ∀ p ∈ received, 12 ≤ (raw p).length) :
    ∃ base mask bits, 12 ≤ bits.length ∧
      (∀ j < 8, bits.getD j 0 = packetColumn received j) ∧
      receivedParity (received.map fun p => (p, raw p)) =
        some (fecPacketOctets (UInt16.ofNat (received.length + 1)) base mask bits) := by
  obtain ⟨base, mask, bits, hbits, hcolumn, hparity⟩ :=
    @receivedParity_columns (received.map fun p => (p, raw p)) (by simpa using hne)
      (by simpa using hk) (by simpa using hlen)
  rw [List.length_map] at hparity
  rw [List.map_map] at hcolumn
  exact ⟨base, mask, bits, hbits, hcolumn, hparity⟩

/-- The packet that the sender sends for a group. -/
lemma fullFecPacket_eq {packets : List CustomJpegPacket} (hne : packets ≠ [])
    (hk : packets.length ≤ 48) (hlen : ∀ p ∈ packets, 12 ≤ (raw p).length) (n : UInt16) :
    ∃ base mask, ∃ header : Header, mask.length = 6 ∧ header.Plain ∧ header.csrcs = [] ∧
      fullFecPacket packets n = some (fixedHeader header ++
        fecPacketOctets (UInt16.ofNat packets.length) base mask (groupBits packets)) := by
  obtain ⟨last, hlast⟩ : ∃ last, packets.getLast? = some last :=
    ⟨_, List.getLast?_eq_some_getLast hne⟩
  have hcount : (UInt16.ofNat packets.length).toNat = packets.length := by
    rw [UInt16.toNat_ofNat']
    omega
  have hall : ∀ q ∈ packets.map fun p => (raw p, p.header.sequenceNumber), 12 ≤ q.1.length := by
    intro q hq
    obtain ⟨q', hq', rfl⟩ := List.mem_map.mp hq
    exact hlen q' hq'
  obtain ⟨base, mask, hmask, hgen⟩ :=
    generateAll_group (UInt16.ofNat packets.length) (by omega) (by simpa using hne)
      (by rw [hcount]; simp) hall
  refine ⟨base, mask,
    { sequenceNumber := n, ssrc := last.header.ssrc, payloadTypeField := 100,
      timestamp := last.header.timestamp }, hmask,
    ⟨rfl, rfl, rfl, rfl, by simp, by simp⟩, rfl, ?_⟩
  simp only [fullFecPacket, hlast, Option.bind_eq_bind, Option.bind_some, hgen, groupBits,
    List.map_map, Function.comp_def]
  simp [standardRtpHeaderGenerator]

lemma xorMediaPacket_eq {bits media : Octets} (h : media.length - 12 ≤ bits.length) :
    xorMediaPacket bits media = some (Parity.pad (· ^^^ ·) bits (media.drop 12)) := by
  have hlen : (media.drop 12).length ≤ bits.length := by rwa [List.length_drop]
  have htrans := transformAt_append (n := 0) (a := []) rfl hlen
  rw [List.nil_append, List.nil_append] at htrans
  rw [xorMediaPacket, if_neg (not_lt.mpr hlen), htrans, Parity.pad_comm]

/-- All media packets are combined with the payload, which is long enough for each. -/
lemma foldlM_xorMediaPacket (received : List CustomJpegPacket) {bits : Octets}
    (h : ∀ p ∈ received, (raw p).length - 12 ≤ bits.length) :
    (received.map fun p => (p, raw p)).foldlM (fun bits p => xorMediaPacket bits p.2) bits =
      some ((received.map fun p => (raw p).drop 12).foldl (Parity.pad (· ^^^ ·)) bits) := by
  induction received generalizing bits with
  | nil => rfl
  | cons p received ih =>
    have hp := xorMediaPacket_eq (h p (by simp))
    have hlen : ∀ q ∈ received, (raw q).length - 12 ≤
        (Parity.pad (· ^^^ ·) bits ((raw p).drop 12)).length := by
      intro q hq
      rw [Parity.length_pad]
      exact le_trans (h q (List.mem_cons_of_mem p hq)) (le_max_left _ _)
    simp only [List.map_cons, List.foldlM_cons, hp, Option.bind_eq_bind, Option.bind_some, ih hlen,
      List.foldl_cons]

lemma getD_drop (bs : Octets) (n j : ℕ) : (bs.drop n).getD j 0 = bs.getD (n + j) 0 := by
  rw [List.getD_eq_getElem?_getD, List.getElem?_drop, List.getD_eq_getElem?_getD]

/-- The recovered header has no extension, no contributing sources and the JPEG payload type. -/
lemma recoveredHeader_plain {o₀ o₁ : UInt8} (bits : Octets) (h₀ : o₀ &&& 0b00011111 = 0)
    (h₁ : o₁ &&& 0b01111111 = 26) :
    (recoveredHeader (o₀ :: o₁ :: bits)).Plain ∧
      (recoveredHeader (o₀ :: o₁ :: bits)).payloadTypeField = 26 := by
  have hbits : ∀ o : Fin 256, UInt8.ofNat o &&& 0b00011111 = 0 →
      ((UInt8.ofNat o &&& 0b00010000) >>> 4 != 0) = false ∧ UInt8.ofNat o &&& 0b00001111 = 0 := by
    decide +kernel
  obtain ⟨hext, hcsrc⟩ := hbits ⟨o₀.toNat, o₀.toNat_lt⟩ (by simpa using h₀)
  simp only [UInt8.ofNat_toNat] at hext hcsrc
  refine ⟨⟨rfl, hext, rfl, ?_, by simp [recoveredHeader], ?_⟩, h₁⟩
  · simp [recoveredHeader, hcsrc]
  · simp only [recoveredHeader, List.getD_cons_succ, List.getD_cons_zero, h₁]
    decide

/-- The first octets of two FEC packets of the same group size differ as their columns do. -/
lemma fecFirstOctet_xor (fecK : UInt16) (bits bits' : Octets) :
    (fecFirstOctet fecK bits ^^^ fecFirstOctet fecK bits') &&& 0b00011111 =
      (bits.getD 0 0 ^^^ bits'.getD 0 0) &&& 0b00011111 := by
  have h : ∀ bits : Octets, fecFirstOctet fecK bits &&& 0b00011111 =
      bits.getD 0 0 &&& 0b00011111 := by
    intro bits
    have hall : ∀ (o : Fin 256) (b : Bool), (UInt8.ofNat o &&& 0b00111111 |||
        if b then 0b01000000 else 0) &&& 0b00011111 = UInt8.ofNat o &&& 0b00011111 := by
      decide +kernel
    have := hall ⟨(bits.getD 0 0).toNat, UInt8.toNat_lt _⟩ (decide (fecK > 16))
    simpa [fecFirstOctet] using this
  rw [xor_and_right, h, h, ← xor_and_right]

section Group

variable {before after : List CustomJpegPacket} {lost : CustomJpegPacket}

lemma IsGroup.le_length_raw {packets : List CustomJpegPacket} (hg : IsGroup packets)
    {p : CustomJpegPacket} (hp : p ∈ packets) : 22 ≤ (raw p).length := by
  obtain ⟨d, hd⟩ := hg.endOfImage p hp
  rw [length_raw (hg.plain p hp) (hg.csrcs p hp), hd, List.length_append]
  exact Nat.add_le_add_left (Nat.le_add_left 2 d.length) 20

lemma mem_of_received (lost : CustomJpegPacket) {p : CustomJpegPacket} (hp : p ∈ before ++ after) :
    p ∈ before ++ lost :: after := by
  rcases List.mem_append.mp hp with hp | hp
  · exact List.mem_append_left _ hp
  · exact List.mem_append_right _ (List.mem_cons_of_mem _ hp)

lemma exists_of_length_eight {l : Octets} (h : l.length = 8) :
    ∃ o₀ o₁ o₂ o₃ o₄ o₅ o₆ o₇, l = [o₀, o₁, o₂, o₃, o₄, o₅, o₆, o₇] := by
  rcases l with - | ⟨o₀, - | ⟨o₁, - | ⟨o₂, - | ⟨o₃, - | ⟨o₄, - | ⟨o₅, - | ⟨o₆, - | ⟨o₇, l⟩⟩⟩⟩⟩⟩⟩⟩
  case cons.cons.cons.cons.cons.cons.cons.cons =>
    obtain rfl := List.length_eq_zero_iff.mp (Nat.add_right_cancel (m := 8) h)
    exact ⟨o₀, o₁, o₂, o₃, o₄, o₅, o₆, o₇, rfl⟩
  all_goals cases h

/-- The parsed packet of a JPEG buffer with a plain header. -/
lemma customJpegPacketGrammar_buffer {h : Header} (hh : h.Plain) (hc : h.csrcs = [])
    (ht : h.payloadTypeField = 26) {bits : Octets} (hbits : 8 ≤ bits.length) :
    ∃ packet r, customJpegPacketGrammar {} ((standardRtpHeaderGenerator h).2 ++ bits) =
      .ok (packet, r) ∧ packet.data = bits.drop 8 := by
  have hgen : (standardRtpHeaderGenerator h).2 ++ bits =
      fixedHeader h ++ (bigDwords h.csrcs ++ bits) := by
    simp [standardRtpHeaderGenerator, hh.version, hh.csrc, hc, bigDwords]
  rw [hgen]
  simp only [customJpegPacketGrammar, parseRtpHeader_generated hh, parseJpegProfile,
    CustomJpegPacket.withRtpHeader, ht]
  obtain ⟨profile, data, hprofile, rfl⟩ : ∃ profile data : Octets, profile.length = 8 ∧
      bits = profile ++ data :=
    ⟨bits.take 8, bits.drop 8, List.length_take_of_le hbits, (List.take_append_drop 8 bits).symm⟩
  obtain ⟨o₀, o₁, o₂, o₃, o₄, o₅, o₆, o₇, rfl⟩ := exists_of_length_eight hprofile
  exact ⟨_, _, rfl, rfl⟩

/-- The payload combined with the packets that arrived, from their thirteenth byte on. -/
lemma combined_columns (hg : IsGroup (before ++ lost :: after)) {bits : Octets}
    (hbits : ((before ++ after).map fun p => (raw p).drop 12).foldl (Parity.pad (· ^^^ ·))
      ((groupBits (before ++ lost :: after)).drop 12) = bits) :
    bits.length = maxLength (before ++ lost :: after) - 10 ∧
    ∀ j, bits.getD j 0 = packetColumn (before ++ lost :: after) (10 + j) ^^^
      packetColumn (before ++ lost :: after) (12 + j) ^^^ (raw lost).getD (12 + j) 0 := by
  have hall : ∀ p ∈ before ++ lost :: after, 12 ≤ (raw p).length := fun p hp =>
    le_trans (by decide) (hg.le_length_raw hp)
  constructor
  · rw [← hbits, Parity.length_foldl_pad, List.length_drop, length_groupBits (by simp) hall,
      max_eq_left]
    · omega
    · apply Parity.length_sum_le
      intro r hr
      obtain ⟨p, hp, rfl⟩ := List.mem_map.mp hr
      have := length_raw_le_maxLength (mem_of_received lost hp)
      rw [List.length_drop]
      omega
  · intro j
    have hcolumn : Parity.column (· ^^^ ·) 0 ((before ++ after).map fun p => (raw p).drop 12) j =
        packetColumn (before ++ after) (12 + j) :=
      Parity.column_map_congr _ _ fun p _ => getD_drop (raw p) 12 j
    rw [← hbits, Parity.getD_foldl_pad, getD_drop, getD_groupBits hall, hcolumn, UInt8.xor_assoc,
      ← packetColumn_recover before after lost, ← UInt8.xor_assoc (packetColumn _ (12 + j)),
      UInt8.xor_self, UInt8.zero_xor]

lemma fillUp_of_lt {n : ℕ} {bits : Octets} (h : n < bits.length) : fillUp n bits = none := if_pos h

lemma fillUp_length (bits : Octets) : fillUp bits.length bits = some bits := by
  rw [fillUp, if_neg (lt_irrefl _), Nat.sub_self, List.replicate_zero, List.append_nil]

/-- The header that the two parities give is that of a JPEG packet, whatever their sequence number
bases and masks are: its first two octets have the bits of the lost packet. -/
lemma recoveredHeader_group (hall : ∀ p ∈ before ++ lost :: after, 12 ≤ (raw p).length)
    (hplain : lost.Plain) (hcsrcs : lost.header.csrcs = []) (fecK base base' : UInt16)
    (mask mask' : Octets) {bits : Octets}
    (hcolumn : ∀ j < 8, bits.getD j 0 = packetColumn (before ++ after) j) :
    let h := recoveredHeader (List.zipWith (· ^^^ ·)
      ((fecPacketOctets fecK base' mask' bits).take 10)
      ((fecPacketOctets fecK base mask (groupBits (before ++ lost :: after))).take 10))
    h.Plain ∧ h.payloadTypeField = 26 := by
  obtain ⟨hoctet₀, hoctet₁⟩ := raw_octets hplain hcsrcs
  have h₀ : (fecFirstOctet fecK bits ^^^ fecFirstOctet fecK (groupBits (before ++ lost :: after)))
      &&& 0b00011111 = 0 := by
    rw [fecFirstOctet_xor, hcolumn 0 (by decide), getD_groupBits_of_lt hall (by decide),
      UInt8.xor_comm, packetColumn_recover, hoctet₀]
  have h₁ : (bits.getD 1 0 ^^^ (groupBits (before ++ lost :: after)).getD 1 0)
      &&& 0b01111111 = 26 := by
    rw [hcolumn 1 (by decide), getD_groupBits_of_lt hall (by decide), UInt8.xor_comm,
      packetColumn_recover, hoctet₁]
  exact recoveredHeader_plain _ h₀ h₁

/-- The packet that is read behind a recovered header has the data of the lost packet up to the
columns two apart. -/
lemma exists_recoveredPacket (hg : IsGroup (before ++ lost :: after)) {h : Header}
    (hplain : h.Plain) (hcsrcs : h.csrcs = []) (htype : h.payloadTypeField = 26) :
    ∃ packet r, customJpegPacketGrammar {} ((standardRtpHeaderGenerator h).2 ++
        ((before ++ after).map fun p => (raw p).drop 12).foldl (Parity.pad (· ^^^ ·))
          ((groupBits (before ++ lost :: after)).drop 12)) = .ok (packet, r) ∧
      packet.data.length = maxLength (before ++ lost :: after) - 18 ∧
      ∀ j < maxLength (before ++ lost :: after) - 18, packet.data.getD j 0 =
        packetColumn (before ++ lost :: after) (18 + j) ^^^
        packetColumn (before ++ lost :: after) (20 + j) ^^^ lost.data.getD j 0 := by
  have hlost : lost ∈ before ++ lost :: after := List.mem_append_right _ List.mem_cons_self
  have hmax := length_raw_le_maxLength hlost
  have hraw := hg.le_length_raw hlost
  generalize hbits : ((before ++ after).map fun p => (raw p).drop 12).foldl
    (Parity.pad (· ^^^ ·)) ((groupBits (before ++ lost :: after)).drop 12) = bits
  obtain ⟨hlen, hget⟩ := combined_columns hg hbits
  obtain ⟨packet, r, hpacket, hdata⟩ := customJpegPacketGrammar_buffer hplain hcsrcs htype
    (show 8 ≤ bits.length by omega)
  refine ⟨packet, r, hpacket, ?_, ?_⟩
  · rw [hdata, List.length_drop, hlen]
    omega
  · intro j _
    rw [hdata, getD_drop, hget, ← getD_raw (hg.plain lost hlost) (hg.csrcs lost hlost)]
    have h₁₈ : 10 + (8 + j) = 18 + j := by omega
    have h₂₀ : 12 + (8 + j) = 20 + j := by omega
    rw [h₁₈, h₂₀]

/-- The outcome of a reconstruction. It throws if the protection length is shorter than the
payload, else the data are those of the lost packet up to the columns two apart. -/
lemma fecReconstruction_spec (hg : IsGroup (before ++ lost :: after)) {fec : CustomFecPacket}
    {full mask : Octets} {base : UInt16} {level : CustomFecLevelHeader}
    (hfull : full.drop 12 = fecPacketOctets (UInt16.ofNat (before ++ lost :: after).length) base
      mask (groupBits (before ++ lost :: after)))
    (hcsrc : fec.header.csrc = 0)
    (hlevel : fec.levels[0]? = some (level, (groupBits (before ++ lost :: after)).drop 12)) :
    (level.protectionLengthField.toNat < maxLength (before ++ lost :: after) - 10 →
      fecReconstruction (fec, full) ((before ++ after).map fun p => (p, raw p)) = none) ∧
    (level.protectionLengthField.toNat = maxLength (before ++ lost :: after) - 10 →
      ∃ r, fecReconstruction (fec, full) ((before ++ after).map fun p => (p, raw p)) = some r ∧
        r.1.data.length = maxLength (before ++ lost :: after) - 18 ∧
        ∀ j < maxLength (before ++ lost :: after) - 18, r.1.data.getD j 0 =
          packetColumn (before ++ lost :: after) (18 + j) ^^^
          packetColumn (before ++ lost :: after) (20 + j) ^^^ lost.data.getD j 0) := by
  have hlost : lost ∈ before ++ lost :: after := List.mem_append_right _ List.mem_cons_self
  have hcount : (before ++ lost :: after).length = (before ++ after).length + 1 := by
    simp only [List.length_append, List.length_cons]
    omega
  have hall : ∀ p ∈ before ++ lost :: after, 12 ≤ (raw p).length := fun p hp =>
    le_trans (by decide) (hg.le_length_raw hp)
  have hreceived : before ++ after ≠ [] := by
    have := hg.two_le
    rw [← List.length_pos_iff]
    omega
  have hmax := length_raw_le_maxLength hlost
  have hraw := hg.le_length_raw hlost
  have hlenBits := length_groupBits (List.append_ne_nil_of_right_ne_nil before (by simp)) hall
  have hpayload : ((groupBits (before ++ lost :: after)).drop 12).length =
      maxLength (before ++ lost :: after) - 10 := by
    rw [List.length_drop, hlenBits]
    omega
  obtain ⟨base', mask', bits', hbits', hcolumn, hparity⟩ :=
    receivedParity_eq hreceived (hcount ▸ hg.le_48) fun p hp => hall p (mem_of_received lost hp)
  have hrecovery : full.drop (12 + 4 * fec.header.csrc.toNat) = fecPacketOctets
      (UInt16.ofNat ((before ++ after).length + 1)) base mask
        (groupBits (before ++ lost :: after)) := by
    rw [hcsrc, ← hcount]
    exact hfull
  -- both parities are long enough to combine their first ten octets
  have hstep : ¬((fecPacketOctets (UInt16.ofNat ((before ++ after).length + 1)) base' mask'
      bits').length < 10 ∨ (fecPacketOctets (UInt16.ofNat ((before ++ after).length + 1)) base mask
        (groupBits (before ++ lost :: after))).length < 10) := by
    rw [not_or, not_lt, not_lt]
    exact ⟨length_fecPacketOctets hbits', length_fecPacketOctets (by omega)⟩
  obtain ⟨hplain, htype⟩ := recoveredHeader_group hall (hg.plain lost hlost) (hg.csrcs lost hlost)
    (UInt16.ofNat ((before ++ after).length + 1)) base base' mask mask' hcolumn
  simp only [fecReconstruction, hparity, hrecovery, Option.bind_eq_bind, Option.bind_some,
    if_neg hstep, hlevel]
  rw [← hpayload]
  constructor
  · intro hshort
    rw [fillUp_of_lt hshort]
    rfl
  · intro hexact
    have hfits : ∀ p ∈ before ++ after, (raw p).length - 12 ≤
        ((groupBits (before ++ lost :: after)).drop 12).length := by
      intro p hp
      have := length_raw_le_maxLength (mem_of_received lost hp)
      omega
    obtain ⟨packet, r, hpacket, hdata⟩ := exists_recoveredPacket hg hplain rfl htype
    rw [hexact, fillUp_length, Option.bind_some, foldlM_xorMediaPacket (before ++ after) hfits,
      Option.bind_some, hpacket]
    exact ⟨_, rfl, hdata⟩

/-! ### Exactness -/

/-- The condition for exact recovery, in columns of the packets of the group: the length of the
payload fits its field, columns two apart agree below the length of the lost data, and their
differences from there on contain no end marker. -/
structure Recoverable (packets : List CustomJpegPacket) (lost : CustomJpegPacket) : Prop where
  protection : maxLength packets - 10 < 2 ^ 16
  columns : ∀ j < lost.data.length, packetColumn packets (18 + j) = packetColumn packets (20 + j)
  padding : ∀ j, lost.data.length ≤ j → j + 1 < maxLength packets - 18 →
    ¬(packetColumn packets (18 + j) ^^^ packetColumn packets (20 + j) = 0xFF ∧
      packetColumn packets (18 + (j + 1)) ^^^ packetColumn packets (20 + (j + 1)) = 0xD9)

/-- The sent FEC packet is read as its header and its first level, or not at all if its payload
is too long for the protection length. -/
lemma customFecPacketGrammar_full (hg : IsGroup (before ++ lost :: after)) (n : UInt16) :
    ∃ full mask base level,
      fullFecPacket (before ++ lost :: after) n = some full ∧
      full.drop 12 = fecPacketOctets (UInt16.ofNat (before ++ lost :: after).length) base mask
        (groupBits (before ++ lost :: after)) ∧
      level.protectionLengthField.toNat = (maxLength (before ++ lost :: after) - 10) % 2 ^ 16 ∧
      (∀ fec r, customFecPacketGrammar {} full = .ok (fec, r) → fec.header.csrc = 0 ∧
        fec.levels[0]? = some (level, (groupBits (before ++ lost :: after)).drop 12)) ∧
      (maxLength (before ++ lost :: after) - 10 < 2 ^ 16 →
        ∃ fec r, customFecPacketGrammar {} full = .ok (fec, r)) := by
  have hall : ∀ p ∈ before ++ lost :: after, 12 ≤ (raw p).length := fun p hp =>
    le_trans (by decide) (hg.le_length_raw hp)
  have hlost : lost ∈ before ++ lost :: after := List.mem_append_right _ List.mem_cons_self
  have hmax := length_raw_le_maxLength hlost
  have hraw := hg.le_length_raw hlost
  have hlenBits := length_groupBits (List.append_ne_nil_of_right_ne_nil before (by simp)) hall
  obtain ⟨base, mask, header, hmask, hheader, hcsrcs, hfull⟩ :=
    fullFecPacket_eq (by simp) hg.le_48 hall n
  obtain ⟨snBase, size, m, hsize, hparse⟩ := parseFecProfile_generated
    (({} : CustomFecPacket).withRtpHeader header)
    (UInt16.ofNat (before ++ lost :: after).length) base hmask
    (show 12 ≤ (groupBits (before ++ lost :: after)).length by omega)
  have hgrammar := (customFecPacketGrammar_fixedHeader hheader hcsrcs _).trans hparse
  have hcount : (groupBits (before ++ lost :: after)).length - 12 =
      maxLength (before ++ lost :: after) - 10 := by omega
  have hlength := protectionLength_generatedLevel
    (UInt16.ofNat (before ++ lost :: after).length) mask (groupBits (before ++ lost :: after))
  rw [hcount] at hlength
  refine ⟨_, mask, base, _, hfull, ?_, hlength, ?_, ?_⟩
  · exact List.drop_left' (length_fixedHeader header)
  · intro fec r hok
    rw [hgrammar] at hok
    obtain ⟨hpre, hsame⟩ := parseFecLevels_levels size m hok
    have hcsrc : header.csrc = 0 := by
      apply UInt8.toNat_inj.mp
      rw [hheader.csrc, hcsrcs]
      rfl
    refine ⟨?_, ?_⟩
    · rw [hsame]
      exact hcsrc
    · obtain ⟨more, hmore⟩ := hpre
      rw [← hmore]
      rfl
  · intro hfit
    have hend : ((groupBits (before ++ lost :: after)).drop 12).drop
        (maxLength (before ++ lost :: after) - 10) = [] := by
      apply List.drop_of_length_le
      rw [List.length_drop, hcount]
    rw [hgrammar, hlength, Nat.mod_eq_of_lt hfit, hend, parseFecLevels_nil hsize]
    exact ⟨_, _, rfl⟩

lemma xor_xor_eq_iff (a b c : UInt8) : a ^^^ b ^^^ c = c ↔ a = b := by
  constructor
  · intro h
    have h' : a ^^^ b = 0 := by
      rw [← UInt8.xor_zero (a := a ^^^ b), ← UInt8.xor_self (a := c), ← UInt8.xor_assoc, h]
    exact UInt8.xor_eq_zero_iff.mp h'
  · rintro rfl
    rw [UInt8.xor_self, UInt8.zero_xor]

/-- `Recoverable` is what the trim of the padding asks of the reconstructed data. -/
lemma recoverable_iff {packets : List CustomJpegPacket} {recovered : Octets}
    (hprotection : maxLength packets - 10 < 2 ^ 16)
    (hlength : recovered.length = maxLength packets - 18)
    (hle : lost.data.length ≤ recovered.length)
    (hget : ∀ j < maxLength packets - 18, recovered.getD j 0 =
      packetColumn packets (18 + j) ^^^ packetColumn packets (20 + j) ^^^ lost.data.getD j 0) :
    ((∀ j < lost.data.length, recovered.getD j 0 = lost.data.getD j 0) ∧
      ∀ j, lost.data.length ≤ j → j + 1 < recovered.length →
        ¬(recovered.getD j 0 = 0xFF ∧ recovered.getD (j + 1) 0 = 0xD9)) ↔
      Recoverable packets lost := by
  -- behind the lost data only the columns are left
  have hbehind : ∀ j, lost.data.length ≤ j → j < maxLength packets - 18 →
      recovered.getD j 0 = packetColumn packets (18 + j) ^^^ packetColumn packets (20 + j) := by
    intro j hj hj'
    rw [hget j hj', List.getD_eq_default _ _ hj, UInt8.xor_zero]
  constructor
  · rintro ⟨hcolumns, hpadding⟩
    refine ⟨hprotection, ?_, ?_⟩
    · intro j hj
      have hcolumn := hcolumns j hj
      rwa [hget j (by omega), xor_xor_eq_iff] at hcolumn
    · intro j hj hj'
      have hmarker := hpadding j hj (by omega)
      rwa [hbehind j hj (by omega), hbehind (j + 1) (by omega) hj'] at hmarker
  · rintro ⟨-, hcolumns, hpadding⟩
    refine ⟨?_, ?_⟩
    · intro j hj
      rw [hget j (by omega), xor_xor_eq_iff]
      exact hcolumns j hj
    · intro j hj hj'
      rw [hbehind j hj (by omega), hbehind (j + 1) (by omega) (by omega)]
      exact hpadding j hj (by omega)

/-- A lost packet of a group is recovered byte for byte exactly under `Recoverable`. -/
theorem fec_recovery_exact_iff (before after : List CustomJpegPacket) (lost : CustomJpegPacket)
    (n : UInt16) (hg : IsGroup (before ++ lost :: after)) :
    recoveredData (before ++ lost :: after) (before ++ after) n = some lost.data ↔
      Recoverable (before ++ lost :: after) lost := by
  obtain ⟨full, mask, base, level, hfull, hdrop, hlength, hok, hfit⟩ :=
    customFecPacketGrammar_full hg n
  have hlost : lost ∈ before ++ lost :: after := List.mem_append_right _ List.mem_cons_self
  have hmax := length_raw_le_maxLength hlost
  rw [length_raw (hg.plain lost hlost) (hg.csrcs lost hlost)] at hmax
  cases hparse : customFecPacketGrammar {} full with
  | error e =>
    constructor
    · intro h
      simp [recoveredData, hfull, hparse] at h
    · intro h
      obtain ⟨fec, r, hfec⟩ := hfit h.protection
      rw [hparse] at hfec
      cases hfec
  | ok res =>
    obtain ⟨fec, rest⟩ := res
    obtain ⟨hcsrc, hlevel⟩ := hok fec rest hparse
    obtain ⟨hthrow, hexact⟩ := fecReconstruction_spec hg hdrop hcsrc hlevel
    by_cases hprotection : maxLength (before ++ lost :: after) - 10 < 2 ^ 16
    · obtain ⟨r, hr, hdata, hget⟩ := hexact (hlength.trans (Nat.mod_eq_of_lt hprotection))
      obtain ⟨d, hd⟩ := hg.endOfImage lost hlost
      have hrecovered : recoveredData (before ++ lost :: after) (before ++ after) n =
          some (removePadding r).1.data := by
        simp only [recoveredData, hfull, hparse, Option.bind_eq_bind, Option.bind_some, hr]
      rw [hrecovered, Option.some.injEq, removePadding_data_eq_iff hd (by omega)]
      exact recoverable_iff hprotection hdata (by omega) hget
    · have hnone := hthrow (by
        rw [hlength]
        exact lt_of_lt_of_le (Nat.mod_lt _ (by decide)) (not_lt.mp hprotection))
      constructor
      · intro h
        simp only [recoveredData, hfull, hparse, hnone, Option.bind_eq_bind, Option.bind_some,
          Option.bind_none, reduceCtorEq] at h
      · intro h
        exact absurd h.protection hprotection

end Group

/-! ### Sent packets -/

lemma sentPacket_plain (ssrc : UInt32) (sequenceNumber : UInt16) (data : Octets) :
    (sentPacket ssrc sequenceNumber data).Plain :=
  ⟨rfl, rfl, rfl, rfl, rfl, by simp [sentPacket], by simp [sentPacket]⟩

/-- The packets that the sender fills one after the other. -/
def sentPackets (ssrc : UInt32) : ℕ → List Octets → List CustomJpegPacket
  | _, [] => []
  | s, data :: frames => sentPacket ssrc (UInt16.ofNat s) data :: sentPackets ssrc (s + 1) frames

lemma mem_sentPackets {ssrc : UInt32} {s : ℕ} {frames : List Octets} {p : CustomJpegPacket}
    (hp : p ∈ sentPackets ssrc s frames) :
    ∃ n, ∃ data ∈ frames, p = sentPacket ssrc n data := by
  induction frames generalizing s with
  | nil => cases hp
  | cons data frames ih =>
    rcases List.mem_cons.mp hp with rfl | hp
    · exact ⟨_, data, by simp, rfl⟩
    · obtain ⟨n, data', hdata', h⟩ := ih hp
      exact ⟨n, data', List.mem_cons_of_mem data hdata', h⟩

lemma sequenceNumbers_sentPackets (ssrc : UInt32) {s : ℕ} {frames : List Octets}
    (h : s + frames.length ≤ 2 ^ 16) :
    (sentPackets ssrc s frames).map (·.header.sequenceNumber.toNat) =
      List.range' s frames.length := by
  induction frames generalizing s with
  | nil => rfl
  | cons data frames ih =>
    rw [List.length_cons] at h
    rw [sentPackets, List.map_cons, ih (by omega), List.length_cons, List.range'_succ]
    congr 1
    simp only [sentPacket, UInt16.toNat_ofNat']
    omega

lemma length_sentPackets (ssrc : UInt32) (s : ℕ) (frames : List Octets) :
    (sentPackets ssrc s frames).length = frames.length := by
  induction frames generalizing s with
  | nil => rfl
  | cons data frames ih => rw [sentPackets, List.length_cons, ih, List.length_cons]

/-- Frames that are sent with non-wrapping sequence numbers from a positive one on are a group. -/
theorem isGroup_sentPackets (ssrc : UInt32) (s : ℕ) (frames : List Octets)
    (htwo : 2 ≤ frames.length) (h48 : frames.length ≤ 48) (hs : 0 < s)
    (hwrap : s + frames.length ≤ 2 ^ 16)
    (hend : ∀ data ∈ frames, ∃ d, data = d ++ [0xFF, 0xD9]) :
    IsGroup (sentPackets ssrc s frames) where
  two_le := by rwa [length_sentPackets]
  le_48 := by rwa [length_sentPackets]
  plain := by
    intro p hp
    obtain ⟨n, data, -, rfl⟩ := mem_sentPackets hp
    exact sentPacket_plain ssrc n data
  csrcs := by
    intro p hp
    obtain ⟨n, data, -, rfl⟩ := mem_sentPackets hp
    rfl
  ssrc := by
    intro p hp q hq
    obtain ⟨n, data, -, rfl⟩ := mem_sentPackets hp
    obtain ⟨n', data', -, rfl⟩ := mem_sentPackets hq
    rfl
  consecutive := ⟨s, hs, by rw [length_sentPackets, sequenceNumbers_sentPackets ssrc hwrap]⟩
  endOfImage := by
    intro p hp
    obtain ⟨n, data, hdata, rfl⟩ := mem_sentPackets hp
    exact hend data hdata

/-- Two equal frames cancel in every column, so either is recovered. -/
theorem fec_recovery_exact_equal_frames :
    recoveredData (sentPackets 7 1 [[5, 0xFF, 0xD9], [5, 0xFF, 0xD9]])
      [sentPacket 7 2 [5, 0xFF, 0xD9]] 9 = some [5, 0xFF, 0xD9] := by
  refine (fec_recovery_exact_iff [] [sentPacket 7 2 [5, 0xFF, 0xD9]]
    (sentPacket 7 1 [5, 0xFF, 0xD9]) 9 (isGroup_sentPackets 7 1
      [[5, 0xFF, 0xD9], [5, 0xFF, 0xD9]] (by decide) (by decide) (by decide)
      (by decide) ?_)).mpr ⟨by decide, by decide, ?_⟩
  · intro data hdata
    exact ⟨[5], by simpa using hdata⟩
  · intro j hj hj'
    have hmax : maxLength ([] ++ sentPacket 7 1 [5, 0xFF, 0xD9] ::
      [sentPacket 7 2 [5, 0xFF, 0xD9]]) = 23 := by decide
    rw [hmax] at hj'
    obtain rfl : j = 3 := le_antisymm (by omega) hj
    decide

/-- The first of two frames of different lengths is not recovered. -/
theorem fec_recovery_not_exact :
    ¬∀ (before after : List CustomJpegPacket) (lost : CustomJpegPacket) (n : UInt16),
      IsGroup (before ++ lost :: after) →
        recoveredData (before ++ lost :: after) (before ++ after) n = some lost.data := by
  intro h
  have hlost := h [] [sentPacket 7 2 [0xFF, 0xD9]] (sentPacket 7 1 [1, 0xFF, 0xD9]) 9
    (isGroup_sentPackets 7 1 [[1, 0xFF, 0xD9], [0xFF, 0xD9]] (by decide)
      (by decide) (by decide) (by decide) ?_)
  · have hdata : recoveredData ([] ++ sentPacket 7 1 [1, 0xFF, 0xD9] ::
        [sentPacket 7 2 [0xFF, 0xD9]]) ([] ++ [sentPacket 7 2 [0xFF, 0xD9]]) 9 =
          some [0xFF, 0xD9] := by decide
    rw [hdata] at hlost
    exact absurd hlost (by decide)
  · intro data hdata
    rcases List.mem_pair.mp hdata with rfl | rfl
    · exact ⟨[1], rfl⟩
    · exact ⟨[], rfl⟩

end Rtp
