import StreamingLib.Rtp.HeaderRecovery
import StreamingLib.Rtp.RecoveredNumber
import StreamingLib.Rtp.RecoveryPlaces
import StreamingLib.Rtp.SequenceBase
import StreamingLib.Rtp.Wire

/-!
# The FEC datagram of a group at the receiver

What the receiver reads of the FEC datagram that the sender has sent for a group, and what it
recovers with it from packets of the movie: a packet without a number, with the data of the lost
packet exactly if they are `Recoverable`.
-/

namespace Rtp

open Groups

/-! ### Reading -/

/-- The levels are read behind the header, which stays as it is. -/
lemma parseFecProfile_header {p fec : CustomFecPacket} {bs r : Octets}
    (h : parseFecProfile p bs = .ok (fec, r)) :
    fec.header.toHeader = p.header.toHeader ∧ fec.header.snBaseField = snBaseField bs := by
  unfold parseFecProfile at h
  split at h
  · obtain ⟨-, hheader⟩ := parseFecLevels_levels _ _ h
    rw [hheader]
    exact ⟨rfl, rfl⟩
  · cases h

section Header

variable {header : Header} {rest : Octets}

/-- A FEC packet behind a header without contributing sources is read with this header. -/
lemma customFecPacketGrammar_header (hheader : header.Plain) (hcsrcs : header.csrcs = [])
    {fec : CustomFecPacket} {r : Octets}
    (h : customFecPacketGrammar {} (fixedHeader header ++ rest) = .ok (fec, r)) :
    fec.header.toHeader = header ∧ fec.header.snBaseField = snBaseField rest := by
  rw [customFecPacketGrammar_fixedHeader hheader hcsrcs] at h
  exact parseFecProfile_header h

/-- A datagram with another payload type than 26 is no JPEG packet. -/
lemma customJpegPacketGrammar_error (hheader : header.Plain) (hcsrcs : header.csrcs = [])
    (htype : header.payloadTypeField ≠ 26) (rest : Octets) :
    ∃ p, customJpegPacketGrammar {} (fixedHeader header ++ rest) = .error p := by
  have hread : parseRtpHeader ({} : CustomJpegPacket).header.toHeader (fixedHeader header ++ rest) =
      .ok (header, rest) := by
    have h := parseRtpHeader_generated hheader rest
    rwa [hcsrcs] at h
  rw [customJpegPacketGrammar, hread]
  exact ⟨_, if_pos htype⟩

end Header

lemma fecRtpHeader_plain (n : UInt16) (ssrc timestamp : UInt32) :
    (fecRtpHeader n ssrc timestamp).Plain :=
  ⟨rfl, rfl, rfl, rfl, by simp [fecRtpHeader], by simp [fecRtpHeader]⟩

lemma fecRtpHeader_generated (n : UInt16) (ssrc timestamp : UInt32) :
    (standardRtpHeaderGenerator (fecRtpHeader n ssrc timestamp)).2 =
      fixedHeader (fecRtpHeader n ssrc timestamp) := by
  have hplain := fecRtpHeader_plain n ssrc timestamp
  rw [standardRtpHeaderGenerator, if_neg (by simp [hplain.version]),
    if_neg (by simp [fecRtpHeader])]
  exact List.append_nil _

/-! ### Groups of a movie -/

section Movie

variable {ssrc : UInt32} {first : ℕ} {frames : List Octets}

lemma drop_sentPackets (ssrc : UInt32) (first : ℕ) (frames : List Octets) (n : ℕ) :
    (sentPackets ssrc first frames).drop n = sentPackets ssrc (first + n) (frames.drop n) := by
  induction n generalizing first frames with
  | zero => rfl
  | succ n ih =>
    cases frames with
    | nil => rfl
    | cons frame frames =>
      simp only [sentPackets, List.drop_succ_cons, ih]
      rw [Nat.add_assoc, Nat.add_comm 1]

lemma take_sentPackets (ssrc : UInt32) (first : ℕ) (frames : List Octets) (n : ℕ) :
    (sentPackets ssrc first frames).take n = sentPackets ssrc first (frames.take n) := by
  induction n generalizing first frames with
  | zero => rfl
  | succ n ih =>
    cases frames with
    | nil => rfl
    | cons frame frames => simp only [sentPackets, List.take_succ_cons, ih]

lemma group_sentPackets (ssrc : UInt32) (first : ℕ) (frames : List Octets) (k j : ℕ) :
    group k j (sentPackets ssrc first frames) =
      sentPackets ssrc (first + j * k) (group k j frames) := by
  rw [group, drop_sentPackets, take_sentPackets, group]

/-- Frames that can be sent one after the other without number zero, and that end like an image. -/
structure Streamable (first : ℕ) (frames : List Octets) : Prop where
  first_pos : 0 < first
  no_wrap : first + frames.length ≤ 2 ^ 16
  endOfImage : ∀ frame ∈ frames, ∃ d, frame = d ++ [0xFF, 0xD9]

lemma Streamable.group (h : Streamable first frames) {k j : ℕ} (hj : (j + 1) * k ≤ frames.length) :
    Streamable (first + j * k) (group k j frames) := by
  have hlength := length_group hj
  refine ⟨Nat.add_pos_left h.first_pos _, ?_, fun frame hframe => ?_⟩
  · have := h.no_wrap
    rw [Nat.add_mul, Nat.one_mul] at hj
    omega
  · exact h.endOfImage frame (mem_of_mem_group hframe)

lemma Streamable.numbers (h : Streamable first frames) :
    (sentPackets ssrc first frames).map CustomJpegPacket.number =
      List.range' first frames.length :=
  sequenceNumbers_sentPackets ssrc h.no_wrap

lemma Streamable.number_pos (h : Streamable first frames) {p : CustomJpegPacket}
    (hp : p ∈ sentPackets ssrc first frames) : 0 < p.number := by
  have hmem := List.mem_map_of_mem (f := CustomJpegPacket.number) hp
  rw [h.numbers, List.mem_range'_1] at hmem
  exact lt_of_lt_of_le h.first_pos hmem.1

/-- A packet of the movie is known by its number. -/
lemma Streamable.eq_of_number (h : Streamable first frames) {p q : CustomJpegPacket}
    (hp : p ∈ sentPackets ssrc first frames) (hq : q ∈ sentPackets ssrc first frames)
    (heq : p.number = q.number) : p = q := by
  have hnodup : ((sentPackets ssrc first frames).map CustomJpegPacket.number).Nodup := by
    rw [h.numbers]
    exact List.nodup_range'
  exact List.inj_on_of_nodup_map hnodup hp hq heq

/-- The number base of a group is the number of its first packet. -/
lemma Streamable.seqBase (h : Streamable first frames) (hne : frames ≠ []) :
    (seqBase ((sentPackets ssrc first frames).map fun p => p.header.sequenceNumber)).toNat =
      first := by
  have hlength : 1 ≤ frames.length := List.length_pos_iff.mpr hne
  have hlt : first < 2 ^ 16 := by
    have := h.no_wrap
    omega
  have hfirst : (UInt16.ofNat first).toNat = first := by
    rw [UInt16.toNat_ofNat']
    exact Nat.mod_eq_of_lt hlt
  have hnumbers : (sentPackets ssrc first frames).map (fun p => p.header.sequenceNumber) =
      numbersFrom (UInt16.ofNat first) frames.length := by
    apply List.ext_getElem?
    intro i
    rw [List.getElem?_map, getElem?_sentPackets, numbersFrom, List.getElem?_map]
    by_cases hi : i < frames.length
    · rw [List.getElem?_eq_getElem hi, List.getElem?_range hi]
      exact congrArg some (UInt16.ofNat_add first i)
    · rw [List.getElem?_eq_none (not_lt.mp hi), List.getElem?_eq_none (by simpa using hi)]
      rfl
  have hne' : UInt16.ofNat first ≠ 0 := by
    intro hzero
    rw [hzero] at hfirst
    exact h.first_pos.ne hfirst
  rw [hnumbers, seqBase_of_not_wrap hne' (by rw [hfirst]; exact h.no_wrap) hlength, hfirst]

end Movie

/-! ### The datagram of a group -/

/-- What the receiver has read of the datagram `full` of a group. -/
structure GroupRead (packets : List CustomJpegPacket) (first : ℕ) (fec : CustomFecPacket)
    (full : Octets) : Prop where
  base : fec.header.snBaseField.toNat = first
  csrc : fec.header.csrc = 0
  level : ∃ level, fec.levels[0]? = some (level, (groupBits packets).drop 12) ∧
    level.protectionLengthField.toNat = (maxLength packets - 10) % 2 ^ 16 ∧
    ∀ i < 64, level.protects i = decide (i < packets.length)
  payload : ∃ base mask, full.drop 12 =
    fecPacketOctets (UInt16.ofNat packets.length) base mask (groupBits packets)

lemma GroupRead.levels_ne_nil {packets : List CustomJpegPacket} {first : ℕ} {fec : CustomFecPacket}
    {full : Octets} (h : GroupRead packets first fec full) : fec.levels ≠ [] := by
  obtain ⟨level, hlevel, -⟩ := h.level
  intro hnil
  rw [hnil] at hlevel
  cases hlevel

section Datagram

variable {ssrc : UInt32} {first : ℕ} {frames : List Octets} {k n : UInt16} {full : Octets}

lemma maxLength_eq (packets : List CustomJpegPacket) (hne : packets ≠ [])
    (h : ∀ p ∈ packets, 12 ≤ (raw p).length) :
    (groupBits packets).length - 12 = maxLength packets - 10 := by
  have hlength := length_groupBits hne h
  obtain ⟨p, hp⟩ := List.exists_mem_of_ne_nil _ hne
  have hmax := length_raw_le_maxLength hp
  have hraw := h p hp
  omega

/-- The datagram that is sent for a group. -/
lemma fullFecPacket_group (ssrc : UInt32) (first : ℕ) (hpos : 1 ≤ k.toNat) (hk : k.toNat ≤ 48)
    (hlength : frames.length = k.toNat) (n : UInt16) :
    ∃ last ∈ sentPackets ssrc first frames, ∃ mask, fecMaskOctets k = some mask ∧
      fullFecPacket (sentPackets ssrc first frames) n =
        some (fixedHeader (fecRtpHeader n last.header.ssrc last.header.timestamp) ++
          fecPacketOctets k
            (seqBase ((sentPackets ssrc first frames).map fun p => p.header.sequenceNumber)) mask
            (groupBits (sentPackets ssrc first frames))) := by
  have hcount : (sentPackets ssrc first frames).length = k.toNat := by
    rw [length_sentPackets, hlength]
  have hne : sentPackets ssrc first frames ≠ [] := by
    apply List.ne_nil_of_length_pos
    rw [hcount]
    exact hpos
  have hsize : ∀ q ∈ sentPackets ssrc first frames, 12 ≤ (raw q).length :=
    fun _ => le_length_raw_of_mem
  obtain ⟨mask, hmask⟩ := Option.isSome_iff_exists.mp ((fecMaskOctets_isSome k).mpr hk)
  refine ⟨_, List.getLast_mem hne, mask, hmask, ?_⟩
  rw [fullFecPacket_of_length hpos hk hcount (List.getLast?_eq_some_getLast hne) hsize,
    fecRtpHeader_generated, groupPacket, hmask, parityBits, groupBits, List.map_map, List.map_map]
  rfl

/-- What is read of the datagram of a group. -/
lemma groupRead_of_grammar (hpos : 1 ≤ k.toNat) (hk : k.toNat ≤ 48)
    (hstream : Streamable first frames) (hlength : frames.length = k.toNat)
    (hfull : fullFecPacket (sentPackets ssrc first frames) n = some full) {fec : CustomFecPacket}
    {r : Octets} (hfec : customFecPacketGrammar {} full = .ok (fec, r)) :
    GroupRead (sentPackets ssrc first frames) first fec full := by
  obtain ⟨last, -, mask, hmask, hsent⟩ :=
    fullFecPacket_group ssrc first hpos hk hlength n
  rw [hfull, Option.some.injEq] at hsent
  have hcount : (sentPackets ssrc first frames).length = k.toNat := by
    rw [length_sentPackets, hlength]
  have hne : frames ≠ [] := by
    apply List.ne_nil_of_length_pos
    rw [hlength]
    exact hpos
  have hpackets : sentPackets ssrc first frames ≠ [] := by
    apply List.ne_nil_of_length_pos
    rw [hcount]
    exact hpos
  have hsize : ∀ q ∈ sentPackets ssrc first frames, 12 ≤ (raw q).length :=
    fun _ => le_length_raw_of_mem
  have hbits : 12 ≤ (groupBits (sentPackets ssrc first frames)).length := by
    obtain ⟨p, hp⟩ := List.exists_mem_of_ne_nil _ hpackets
    rw [length_groupBits hpackets hsize]
    have := (hsize p hp).trans (length_raw_le_maxLength hp)
    omega
  have hplain := fecRtpHeader_plain n last.header.ssrc last.header.timestamp
  subst hsent
  obtain ⟨hheader, hbase⟩ := customFecPacketGrammar_header hplain rfl hfec
  rw [snBaseField_fecPacketOctets] at hbase
  -- the first level is the one that was written
  obtain ⟨snBase, size, m, -, hparse⟩ := parseFecProfile_generated
    (({} : CustomFecPacket).withRtpHeader (fecRtpHeader n last.header.ssrc last.header.timestamp)) k
    (seqBase ((sentPackets ssrc first frames).map fun p => p.header.sequenceNumber))
    (length_fecMaskOctets hmask) hbits
  rw [customFecPacketGrammar_fixedHeader hplain rfl, hparse] at hfec
  obtain ⟨⟨more, hmore⟩, -⟩ := parseFecLevels_levels size m hfec
  refine ⟨?_, ?_, ⟨generatedLevel k mask (groupBits (sentPackets ssrc first frames)), ?_, ?_, ?_⟩,
    ?_⟩
  · rw [hbase]
    exact hstream.seqBase hne
  · rw [hheader]
    rfl
  · rw [← hmore]
    rfl
  · rw [protectionLength_generatedLevel, maxLength_eq _ hpackets hsize]
  · intro i hi
    rw [hcount]
    exact testBit_writtenMask hk hmask hi
  · rw [hcount, UInt16.ofNat_toNat]
    exact ⟨_, mask, List.drop_left' (length_fixedHeader _)⟩

end Datagram

/-! ### The selected media packets -/

/-- Where the mask protects the first `k` places, the media packets are looked for by the numbers of
the other packets of the group. -/
lemma mediaPlaces_numbers {level : CustomFecLevelHeader} {k u : ℕ} (hk : k ≤ 64) (hu : u < k)
    (hlevel : ∀ i < 64, level.protects i = decide (i < k)) (size : ℕ) (base : ℕ) :
    (mediaPlaces level size (base + u) u).map Prod.snd =
      ((List.range' base u) ++ List.range' (base + u + 1) (k - 1 - u)).map
        fun n : ℕ => (n : ℤ) := by
  have hbefore : (List.range u).filter level.protects = List.range u := by
    apply List.filter_eq_self.mpr
    intro i hi
    rw [List.mem_range] at hi
    rw [hlevel i (by omega)]
    exact decide_eq_true (hi.trans hu)
  have hafter : (List.range' (u + 1) (63 - u)).filter level.protects =
      List.range' (u + 1) (k - 1 - u) := by
    have hsplit : 63 - u = (k - 1 - u) + (64 - k) := by omega
    have hcut : List.range' (u + 1) (63 - u) =
        List.range' (u + 1) (k - 1 - u) ++ List.range' k (64 - k) := by
      rw [hsplit, ← List.range'_append_1]
      congr 2
      omega
    rw [hcut, List.filter_append, List.filter_eq_self.mpr, List.filter_eq_nil_iff.mpr,
      List.append_nil]
    · intro i hi
      rw [List.mem_range'_1] at hi
      rw [hlevel i (by omega)]
      simp only [decide_eq_true_eq]
      omega
    · intro i hi
      rw [List.mem_range'_1] at hi
      rw [hlevel i (by omega)]
      exact decide_eq_true (by omega)
  rw [mediaPlaces, hbefore, hafter, List.map_append, List.map_append, List.map_map, List.map_map]
  congr 1
  · apply List.ext_getElem (by simp)
    intro i _ _
    simp
  · apply List.ext_getElem (by simp)
    intro i _ _
    simp only [List.getElem_map, List.getElem_range', Function.comp_apply]
    omega

/-- A packet of the movie with its bytes, or one without a number. -/
def Authentic (packets : List CustomJpegPacket) (e : MediaPacket) : Prop :=
  (∃ p ∈ packets, e = (p, raw p)) ∨ e.1.header.sequenceNumber = 0

/-- The packets that are found by numbers of the movie are those of the movie. -/
lemma media_eq_of_numbers {ssrc : UInt32} {first : ℕ} {frames : List Octets}
    (hstream : Streamable first frames) {buffer : List MediaPacket}
    (hbuffer : ∀ e ∈ buffer, Authentic (sentPackets ssrc first frames) e) {places : List (ℤ × ℤ)}
    {media : List MediaPacket} (hmedia : List.Forall₂ (HasNumber buffer) places media)
    {packets : List CustomJpegPacket} (hpackets : ∀ p ∈ packets, p ∈ sentPackets ssrc first frames)
    (hnumbers : places.map Prod.snd = packets.map fun p => (p.number : ℤ)) :
    media = packets.map fun p => (p, raw p) := by
  induction hmedia generalizing packets with
  | nil =>
    cases packets with
    | nil => rfl
    | cons p packets => cases hnumbers
  | @cons place e places media he hmedia ih =>
    cases packets with
    | nil => cases hnumbers
    | cons p packets =>
      obtain ⟨hnumber, hnumbers⟩ := List.cons.inj hnumbers
      obtain ⟨hp, hpackets⟩ := List.forall_mem_cons.mp hpackets
      obtain ⟨hplace, hsame⟩ := he
      rw [hnumber] at hsame
      have hsame' : e.1.number = p.number := Int.natCast_inj.mp hsame
      have hmem : e ∈ buffer := by
        unfold atPlace at hplace
        split_ifs at hplace
        exact List.mem_of_getElem? hplace
      rw [List.map_cons, ih hpackets hnumbers]
      rcases hbuffer e hmem with ⟨q, hq, rfl⟩ | hzero
      · rw [hstream.eq_of_number hq hp hsame']
      · have hpos := hstream.number_pos hp
        rw [← hsame', CustomJpegPacket.number, hzero] at hpos
        cases hpos

/-! ### Recovery from packets of the movie -/

/-- A datagram that the receiver has read, of the `j`-th group of the packets. -/
structure IsGroupDatagram (k : UInt16) (packets : List CustomJpegPacket)
    (fec : CustomFecPacket × Octets) (j : ℕ) : Prop where
  complete : (j + 1) * k.toNat ≤ packets.length
  sent : ∃ n, fullFecPacket (group k.toNat j packets) n = some fec.2
  read : ∃ r, customFecPacketGrammar {} fec.2 = .ok (fec.1, r)

/-- A packet that stands for the lost packet of a group of the movie. -/
structure StandsFor (k : UInt16) (packets : List CustomJpegPacket) (q : CustomJpegPacket)
    (number : ℕ) : Prop where
  unnumbered : q.header.sequenceNumber = 0
  group : ∃ j before lost after, (j + 1) * k.toNat ≤ packets.length ∧
    group k.toNat j packets = before ++ lost :: after ∧ lost.number = number ∧
    (q.data = lost.data ↔ Recoverable (before ++ lost :: after) lost)

/-- A group with one of its packets taken out. -/
lemma exists_split_of_numbers {packets : List CustomJpegPacket} {base k u : ℕ}
    (hnumbers : packets.map CustomJpegPacket.number = List.range' base k) (hu : u < k) :
    ∃ before lost after, packets = before ++ lost :: after ∧
      before.map CustomJpegPacket.number = List.range' base u ∧ lost.number = base + u ∧
      after.map CustomJpegPacket.number = List.range' (base + u + 1) (k - 1 - u) := by
  have hcount : packets.length = k := by
    have h := congrArg List.length hnumbers
    rwa [List.length_map, List.length_range'] at h
  have hlt : u < packets.length := hcount.symm ▸ hu
  refine ⟨packets.take u, packets[u], packets.drop (u + 1), ?_, ?_, ?_, ?_⟩
  · rw [← List.drop_eq_getElem_cons, List.take_append_drop]
  · rw [List.map_take, hnumbers, List.take_range'_of_length_ge hu.le]
  · have hget : (packets.map CustomJpegPacket.number)[u]? = some packets[u].number := by
      rw [List.getElem?_map, List.getElem?_eq_getElem hlt]
      rfl
    rw [hnumbers, List.getElem?_range' hu, Nat.one_mul] at hget
    exact (Option.some.inj hget).symm
  · rw [List.map_drop, hnumbers, List.drop_range', Nat.mul_one, Nat.add_assoc, Nat.sub_sub,
      Nat.add_comm 1]

section Recovery

variable {ssrc : UInt32} {first : ℕ} {frames : List Octets} {k : UInt16}

/-- A reconstruction with all other packets of the group gives the lost one exactly if it is
`Recoverable`. -/
lemma reconstruction_data_iff {before after : List CustomJpegPacket} {lost : CustomJpegPacket}
    (hg : IsGroup (before ++ lost :: after)) {fec : CustomFecPacket} {full : Octets} {base : ℕ}
    (hread : GroupRead (before ++ lost :: after) base fec full) {packet : MediaPacket}
    (h : fecReconstruction (fec, full) ((before ++ after).map fun p => (p, raw p)) = some packet) :
    (removePadding packet).1.data = lost.data ↔ Recoverable (before ++ lost :: after) lost := by
  obtain ⟨level, hlevel, hprotection, -⟩ := hread.level
  obtain ⟨base', mask, hpayload⟩ := hread.payload
  obtain ⟨hshort, hexact⟩ := fecReconstruction_spec hg hpayload hread.csrc hlevel
  have hlost : lost ∈ before ++ lost :: after := List.mem_append_right _ List.mem_cons_self
  have hmax := length_raw_le_maxLength hlost
  rw [length_raw (hg.plain lost hlost) (hg.csrcs lost hlost)] at hmax
  by_cases hfits : maxLength (before ++ lost :: after) - 10 < 2 ^ 16
  · obtain ⟨r, hr, hdata, hget⟩ := hexact (hprotection.trans (Nat.mod_eq_of_lt hfits))
    obtain rfl : packet = r := Option.some.inj (h.symm.trans hr)
    obtain ⟨d, hd⟩ := hg.endOfImage lost hlost
    rw [removePadding_data_eq_iff hd (by omega)]
    exact recoverable_iff hfits hdata (by omega) hget
  · have hnone := hshort (by
      rw [hprotection]
      exact lt_of_lt_of_le (Nat.mod_lt _ (by decide)) (not_lt.mp hfits))
    rw [hnone] at h
    cases h

/-- The media packets that are found by the mask of a group are its other packets. -/
lemma media_of_group (hstream : Streamable first frames) {buffer : List MediaPacket}
    (hbuffer : ∀ e ∈ buffer, Authentic (sentPackets ssrc first frames) e) {k j u size : ℕ}
    (hcomplete : (j + 1) * k ≤ frames.length) (hk : k ≤ 64) (hu : u < k)
    {level : CustomFecLevelHeader} (hmask : ∀ i < 64, level.protects i = decide (i < k))
    {media : List MediaPacket} (hmedia : List.Forall₂ (HasNumber buffer)
      (mediaPlaces level size (((first + j * k : ℕ) : ℤ) + u) u) media) :
    ∃ before lost after, group k j (sentPackets ssrc first frames) = before ++ lost :: after ∧
      lost.number = first + j * k + u ∧ media = (before ++ after).map fun p => (p, raw p) := by
  have hnumbers : (group k j (sentPackets ssrc first frames)).map CustomJpegPacket.number =
      List.range' (first + j * k) k := by
    rw [group_sentPackets, (hstream.group hcomplete).numbers, length_group hcomplete]
  obtain ⟨before, lost, after, hsplit, hbefore, hlostNumber, hafter⟩ :=
    exists_split_of_numbers hnumbers hu
  refine ⟨before, lost, after, hsplit, hlostNumber, ?_⟩
  apply media_eq_of_numbers hstream hbuffer hmedia
  · intro p hp
    have hmem := mem_of_received lost hp
    rw [← hsplit] at hmem
    exact mem_of_mem_group hmem
  · rw [mediaPlaces_numbers hk hu hmask, ← hbefore, ← hafter, ← List.map_append, List.map_map]
    rfl

/-- What is recovered from packets of a movie and datagrams of its groups stands for the packet
before the one that closes the gap. -/
lemma recoveredPacket_standsFor {fecK : Option UInt16} (hfecK : FitsMask fecK)
    (hstream : Streamable first frames) {buffer : List MediaPacket}
    (hbuffer : ∀ e ∈ buffer, Authentic (sentPackets ssrc first frames) e)
    {fecBuffer : List (CustomFecPacket × Octets)}
    (hfecs : ∀ fec ∈ fecBuffer, ∃ k ∈ fecK, ∃ j,
      IsGroupDatagram k (sentPackets ssrc first frames) fec j)
    {closing packet : MediaPacket} (hclosing : fromEnd buffer mediaPacketDelay = some closing)
    (h : recoveredPacket buffer fecBuffer = .ok (some packet)) :
    ∃ k ∈ fecK, StandsFor k (sentPackets ssrc first frames) packet.1
      (closing.1.number - 1) := by
  obtain ⟨closing', fec, level, media, recovered, hclosing', hfind, hselect, hpacket, rfl⟩ :=
    recoveredPacket_eq_some h
  obtain rfl : closing = closing' := Option.some.inj (hclosing.symm.trans hclosing')
  obtain ⟨⟨newer, older, hsplit, -⟩, ⟨hlow, hhigh⟩, ⟨payload, hlevel⟩, hbit⟩ :=
    (findFecPacket_eq_some_iff (by rw [hfind]; rfl) fec level).mp hfind
  have hmem : fec ∈ fecBuffer := by
    rw [← List.mem_reverse, hsplit]
    exact List.mem_append_right _ List.mem_cons_self
  obtain ⟨k, hk, j, hcomplete, ⟨n, hsent⟩, r, hgrammar⟩ := hfecs fec hmem
  obtain ⟨hpos, hle⟩ := hfecK k hk
  rw [group_sentPackets] at hsent
  rw [length_sentPackets] at hcomplete
  have hgroup := hstream.group hcomplete
  have hlength := length_group hcomplete
  have hread := groupRead_of_grammar hpos hle hgroup hlength hsent hgrammar
  obtain ⟨level', hlevel', -, hmask⟩ := hread.level
  obtain ⟨rfl, -⟩ := Prod.mk.inj (Option.some.inj (hlevel.symm.trans hlevel'))
  -- the lost packet has place `u` in its group
  obtain ⟨u, hu⟩ : ∃ u, u = fec.1.seqI (closing.1.header.sequenceNumber.toNat - 1) := ⟨_, rfl⟩
  rw [← hu] at hbit hselect
  rw [hread.base] at hlow hhigh
  rw [CustomFecPacket.seqI, hread.base] at hu
  have hclosingNumber : closing.1.number = first + j * k.toNat + u + 1 := by
    unfold CustomJpegPacket.number
    omega
  have hlost : ((closing.1.header.sequenceNumber.toNat : ℤ) - 1) =
      ((first + j * k.toNat : ℕ) : ℤ) + u := by
    omega
  rw [length_sentPackets, hlength] at hmask
  have hlt : u < k.toNat := by
    rw [hmask u (by omega)] at hbit
    exact of_decide_eq_true hbit
  rw [hlost] at hselect
  obtain ⟨before, lost, after, hsplit, hlostNumber, rfl⟩ := media_of_group hstream hbuffer hcomplete
    (hle.trans (by decide)) hlt hmask (selectMedia_eq_some_iff.mp hselect)
  have hsplit' := hsplit
  rw [group_sentPackets] at hsplit'
  rw [hsplit'] at hread
  have hcount : (before ++ lost :: after).length = k.toNat := by
    rw [← hsplit', length_sentPackets, hlength]
  have htwo : 2 ≤ k.toNat := by
    by_contra hone
    rw [List.length_append, List.length_cons] at hcount
    obtain rfl : before = [] := List.length_eq_zero_iff.mp (by omega)
    obtain rfl : after = [] := List.length_eq_zero_iff.mp (by omega)
    cases hpacket
  have hg : IsGroup (before ++ lost :: after) := by
    rw [← hsplit']
    exact isGroup_sentPackets ssrc _ _ (hlength.symm ▸ htwo) (hlength.symm ▸ hle) hgroup.first_pos
      hgroup.no_wrap hgroup.endOfImage
  refine ⟨k, hk, ?_, j, before, lost, after, ?_, hsplit, ?_, ?_⟩
  · rw [removePadding_header]
    exact fecReconstruction_sequenceNumber hpacket
  · rwa [length_sentPackets]
  · rw [hlostNumber, hclosingNumber]
    rfl
  · exact reconstruction_data_iff hg hread hpacket

end Recovery

end Rtp
