import StreamingLib.Rtp.FecExactness
import StreamingLib.Rtp.FrameConservation

/-!
# Bounds of the reconstruction

When `fec_reconstruction` completes without an exception and without a step outside a buffer, for
every FEC packet that the grammar accepts and the media packets that the receiver selects for it.
-/

namespace Rtp

open Transition

/-! ### The parity of the media packets -/

/-- A whole group is taken if no packet is short and the mask holds the group. -/
lemma generateAll_isOk {g : FecGenerator} {packets : List (Octets × UInt16)} (hne : packets ≠ [])
    (hk : g.currentFecK.toNat = packets.length) :
    (g.generateAll packets).2.isOk = true ↔
      (∀ p ∈ packets, 12 ≤ p.1.length) ∧ g.fecK.toNat ≤ 48 := by
  induction packets generalizing g with
  | nil => exact absurd rfl hne
  | cons p packets ih =>
    by_cases hp : 12 ≤ p.1.length
    · cases packets with
      | nil =>
        have hlast : ¬g.currentFecK > 1 := by
          change ¬1 < g.currentFecK.toNat
          rw [hk]
          exact lt_irrefl 1
        have hmask := fecMaskOctets_isSome g.fecK
        simp only [FecGenerator.generateAll, FecGenerator.generateNextFecPacket,
          if_neg (not_lt.mpr hp), if_neg hlast, List.mem_singleton, forall_eq, hp, true_and,
          ← hmask]
        cases fecMaskOctets g.fecK <;> simp [Except.isOk, Except.toBool]
      | cons p' packets =>
        have hgt : 1 < g.currentFecK.toNat := by simp [hk]
        have h := generateNextFecPacket_collects hgt hp p.2
        have hcount : (g.currentFecK - 1).toNat = (p' :: packets).length := by
          rw [UInt16.toNat_sub_of_le _ _ (show (1 : UInt16) ≤ g.currentFecK from hgt.le), hk]
          simp
        rw [generateAll_cons (by simp) h, ih (by simp) hcount, List.forall_mem_cons (a := p),
          and_iff_right hp]
    · have herror : (g.generateAll (p :: packets)).2 = .error .shortMediaPacket := by
        simp only [FecGenerator.generateAll, FecGenerator.generateNextFecPacket,
          if_pos (not_le.mp hp)]
      rw [herror]
      exact iff_of_false Bool.false_ne_true fun h => hp (h.1 p List.mem_cons_self)

/-- The parity exists for one to forty-seven packets, none of them short. -/
lemma receivedParity_spec {media : List MediaPacket} (hlen : media.length ≤ 63) :
    if media ≠ [] ∧ media.length ≤ 47 ∧ ∀ p ∈ media, 12 ≤ p.2.length then
      ∃ step₁, receivedParity media = some step₁ ∧ 10 ≤ step₁.length
    else receivedParity media = none := by
  rcases media with - | ⟨first, media⟩
  · exact rfl
  · obtain ⟨packets, hpackets⟩ : ∃ packets, packets =
        ((first :: media).map fun p => (p.2, p.1.header.sequenceNumber)) ++
          [(List.replicate 12 0, first.1.header.sequenceNumber)] := ⟨_, rfl⟩
    have hlength : packets.length = (first :: media).length + 1 := by simp [hpackets]
    obtain ⟨fecK, hfecK⟩ : ∃ fecK, fecK = UInt16.ofNat ((first :: media).length + 1) := ⟨_, rfl⟩
    have hcount : fecK.toNat = packets.length := by
      rw [hfecK, UInt16.toNat_ofNat', hlength]
      exact Nat.mod_eq_of_lt (by omega)
    have hne : packets ≠ [] := List.ne_nil_of_length_pos (by omega)
    have hparity : ∀ {result : Except FecFault (Option Octets)},
        ((FecGenerator.new fecK).generateAll packets).2 = result →
        receivedParity (first :: media) = result.toOption.join := by
      intro result hresult
      rw [← hresult, hpackets, hfecK]
      simp only [receivedParity, List.getElem?_cons_zero, Option.bind_eq_bind, Option.bind_some]
      cases (FecGenerator.generateAll _ _).2 with
      | error fault => rfl
      | ok packet => exact Option.join_some.symm
    have hall : (∀ p ∈ packets, 12 ≤ p.1.length) ↔ ∀ p ∈ first :: media, 12 ≤ p.2.length := by
      rw [hpackets, List.forall_mem_append, List.forall_mem_map]
      exact and_iff_left (by simp)
    have hok := generateAll_isOk (g := .new fecK) hne hcount
    split_ifs with h
    · obtain ⟨hnonempty, hsmall, hshort⟩ := h
      obtain ⟨base, mask, bits, hbits, -, hstep₁⟩ :=
        receivedParity_columns hnonempty (Nat.succ_le_succ hsmall) hshort
      exact ⟨_, hstep₁, length_fecPacketOctets hbits⟩
    · cases hgen : ((FecGenerator.new fecK).generateAll packets).2 with
      | error fault => exact hparity hgen
      | ok packet =>
        rw [hgen] at hok
        obtain ⟨hshort, hsmall⟩ := hok.mp rfl
        refine absurd ⟨by simp, ?_, hall.mp hshort⟩ h
        change fecK.toNat ≤ 48 at hsmall
        rw [hcount, hlength] at hsmall
        exact Nat.le_of_succ_le_succ hsmall

/-- The media packets are combined with a bit string that each of them fits into. -/
lemma foldlM_xorMediaPacket_spec (media : List MediaPacket) (bits : Octets) :
    if ∀ p ∈ media, p.2.length ≤ bits.length + 12 then
      ∃ bits', media.foldlM (fun bits p => xorMediaPacket bits p.2) bits = some bits' ∧
        bits'.length = bits.length
    else media.foldlM (fun bits p => xorMediaPacket bits p.2) bits = none := by
  induction media generalizing bits with
  | nil =>
    rw [if_pos (by simp)]
    exact ⟨bits, rfl, rfl⟩
  | cons p media ih =>
    by_cases hp : p.2.length ≤ bits.length + 12
    · have hxor := @xorMediaPacket_eq bits p.2 (Nat.sub_le_of_le_add hp)
      have hlength : (Parity.pad (· ^^^ ·) bits (p.2.drop 12)).length = bits.length := by
        rw [Parity.length_pad, List.length_drop]
        exact max_eq_left (Nat.sub_le_of_le_add hp)
      have hrest := ih (Parity.pad (· ^^^ ·) bits (p.2.drop 12))
      rw [hlength] at hrest
      simp only [List.forall_mem_cons, hp, true_and, List.foldlM_cons, hxor, Option.bind_eq_bind,
        Option.bind_some]
      exact hrest
    · have hxor : xorMediaPacket bits p.2 = none := by
        apply if_pos
        rw [List.length_drop]
        omega
      rw [if_neg fun h => hp (h p List.mem_cons_self), List.foldlM_cons, hxor]
      rfl

/-! ### The reconstruction -/

/-- When `fec_reconstruction` completes: one to forty-seven media packets with an RTP header, a FEC
packet that is long enough for its headers, and a level whose payload and whose media packets are
not longer than it protects. -/
structure Reconstructible (fec : CustomFecPacket × Octets) (media : List MediaPacket) : Prop where
  nonempty : media ≠ []
  le_47 : media.length ≤ 47
  headers : ∀ p ∈ media, 12 ≤ p.2.length
  fecHeaders : 22 + 4 * fec.1.header.csrc.toNat ≤ fec.2.length
  level : ∃ level payload, fec.1.levels[0]? = some (level, payload) ∧
    payload.length ≤ level.protectionLengthField.toNat ∧
    ∀ p ∈ media, p.2.length ≤ level.protectionLengthField.toNat + 12

lemma reconstructible_iff_of_level {fec : CustomFecPacket × Octets} {media : List MediaPacket}
    {level : CustomFecLevelHeader} {payload : Octets}
    (hlevel : fec.1.levels[0]? = some (level, payload)) :
    Reconstructible fec media ↔
      (media ≠ [] ∧ media.length ≤ 47 ∧ ∀ p ∈ media, 12 ≤ p.2.length) ∧
        22 + 4 * fec.1.header.csrc.toNat ≤ fec.2.length ∧
        payload.length ≤ level.protectionLengthField.toNat ∧
        ∀ p ∈ media, p.2.length ≤ level.protectionLengthField.toNat + 12 := by
  constructor
  · rintro ⟨hne, hle, hshort, hfec, level', payload', hsome, hpayload, hfits⟩
    rw [hlevel] at hsome
    cases hsome
    exact ⟨⟨hne, hle, hshort⟩, hfec, hpayload, hfits⟩
  · rintro ⟨⟨hne, hle, hshort⟩, hfec, hpayload, hfits⟩
    exact ⟨hne, hle, hshort, hfec, level, payload, hlevel, hpayload, hfits⟩

lemma fecReconstruction_isSome_iff {fec : CustomFecPacket × Octets} {media : List MediaPacket}
    (hlen : media.length ≤ 63) :
    (fecReconstruction fec media).isSome = true ↔ Reconstructible fec media := by
  have hparity := receivedParity_spec hlen
  split_ifs at hparity with hmedia
  · obtain ⟨step₁, hstep₁, hten⟩ := hparity
    simp only [fecReconstruction, hstep₁, Option.bind_eq_bind, Option.bind_some, List.length_drop]
    by_cases hfec : 22 + 4 * fec.1.header.csrc.toNat ≤ fec.2.length
    · rw [if_neg (by omega)]
      rcases hlevel : fec.1.levels[0]? with - | ⟨level, payload⟩
      · refine iff_of_false (by simp) ?_
        rintro ⟨-, -, -, -, level, payload, hsome, -⟩
        rw [hlevel] at hsome
        cases hsome
      · rw [reconstructible_iff_of_level hlevel]
        simp only [Option.bind_some, fillUp]
        by_cases hpayload : payload.length ≤ level.protectionLengthField.toNat
        · rw [if_neg (not_lt.mpr hpayload)]
          obtain ⟨bits, hbits⟩ : ∃ bits, bits = payload ++
            List.replicate (level.protectionLengthField.toNat - payload.length) (0 : UInt8) :=
              ⟨_, rfl⟩
          have hlength : bits.length = level.protectionLengthField.toNat := by
            rw [hbits, List.length_append, List.length_replicate]
            exact Nat.add_sub_of_le hpayload
          have hfold := foldlM_xorMediaPacket_spec media bits
          rw [hlength] at hfold
          rw [Option.bind_some, ← hbits]
          split_ifs at hfold with hfits
          · obtain ⟨bits', hbits', -⟩ := hfold
            rw [hbits', Option.bind_some]
            refine iff_of_true ?_ ⟨hmedia, hfec, hpayload, hfits⟩
            split
            · rfl
            · rfl
          · rw [hfold]
            exact iff_of_false (by simp) fun h => hfits h.2.2.2
        · rw [if_pos (not_le.mp hpayload)]
          exact iff_of_false (by simp) fun h => hpayload h.2.2.1
    · rw [if_pos (Or.inr (by omega))]
      exact iff_of_false (by simp) fun h => hfec h.fecHeaders
  · simp only [fecReconstruction, hparity, Option.bind_eq_bind, Option.bind_none]
    exact iff_of_false (by simp) fun h => hmedia ⟨h.nonempty, h.le_47, h.headers⟩

/-! ### Lengths -/

lemma parseCsrcs_csrc (n : ℕ) (h : Header) (bs : Octets) :
    (parseCsrcs n h bs).1.csrc = h.csrc ∧ (parseCsrcs n h bs).1.extensionBit = h.extensionBit ∧
      (4 * n ≤ bs.length → (parseCsrcs n h bs).2.length + 4 * n = bs.length) := by
  induction n generalizing h bs with
  | zero => exact ⟨rfl, rfl, fun _ => rfl⟩
  | succ n ih =>
    rcases bs with - | ⟨a, - | ⟨b, - | ⟨c, - | ⟨d, bs⟩⟩⟩⟩
    case cons.cons.cons.cons =>
      obtain ⟨hcsrc, hext, hlength⟩ := ih { h with csrcs := h.csrcs ++ [readDword a b c d] } bs
      refine ⟨hcsrc, hext, fun hle => ?_⟩
      simp only [List.length_cons] at hle ⊢
      have := hlength (by omega)
      rw [parseCsrcs]
      omega
    all_goals
      refine ⟨rfl, rfl, fun hle => ?_⟩
      simp only [List.length_cons, List.length_nil] at hle
      omega

lemma parseExtension_csrc {h h' : Header} {bs r : Octets}
    (hp : parseExtension h bs = .ok (h', r)) : h'.csrc = h.csrc ∧ r.length ≤ bs.length := by
  rcases bs with - | ⟨a, - | ⟨b, - | ⟨c, - | ⟨d, - | ⟨e, - | ⟨f, bs⟩⟩⟩⟩⟩⟩
  case cons.cons.cons.cons.cons.cons =>
    simp only [parseExtension] at hp
    split_ifs at hp
    cases hp
    refine ⟨rfl, ?_⟩
    simp only [List.length_drop, List.length_cons]
    omega
  all_goals cases hp
  all_goals exact ⟨rfl, by simp⟩

/-- What an RTP header takes at least. -/
lemma parseRtpHeader_length {bs r : Octets} {h h' : Header}
    (hp : parseRtpHeader h bs = .ok (h', r)) : r.length + (12 + 4 * h'.csrc.toNat) ≤ bs.length := by
  unfold parseRtpHeader at hp
  split at hp
  case h_2 => cases hp
  case h_1 o₀ o₁ s₀ s₁ t₀ t₁ t₂ t₃ r₀ r₁ r₂ r₃ bs =>
    dsimp only at hp
    split_ifs at hp with hversion hshort hext
    all_goals
      obtain ⟨hcsrc, -, hlength⟩ := parseCsrcs_csrc (o₀ &&& 0x0F).toNat { h with
        version := (o₀ &&& 0b11000000) >>> 6
        paddingSet := (o₀ &&& 0b00100000) >>> 5 != 0
        extensionBit := (o₀ &&& 0b00010000) >>> 4 != 0
        csrc := o₀ &&& 0x0F
        marker := (o₁ &&& 0b10000000) >>> 7 != 0
        payloadTypeField := o₁ &&& 0b01111111
        sequenceNumber := readWord s₀ s₁
        timestamp := readDword t₀ t₁ t₂ t₃
        ssrc := readDword r₀ r₁ r₂ r₃ } bs
      have hcount := hlength (not_lt.mp hshort)
      simp only [List.length_cons]
    · obtain ⟨hsame, hle⟩ := parseExtension_csrc hp
      rw [hsame, hcsrc]
      dsimp only
      omega
    · obtain ⟨rfl, rfl⟩ := Prod.mk.inj (Except.ok.inj hp)
      rw [hcsrc]
      dsimp only
      omega

/-- The data of a JPEG packet follow its headers. -/
lemma customJpegPacketGrammar_data (bs : Octets) :
    match customJpegPacketGrammar {} bs with
    | .ok (p, _) => p.data.length + 20 ≤ bs.length
    | .error p => p.data = [] := by
  unfold customJpegPacketGrammar
  rcases hheader : parseRtpHeader ({} : CustomJpegPacket).header.toHeader bs with h | ⟨h, r⟩
  · rfl
  · have hlength := parseRtpHeader_length hheader
    unfold parseJpegProfile
    dsimp only
    by_cases htype : h.payloadTypeField ≠ 26
    · have htype' : (({} : CustomJpegPacket).withRtpHeader h).header.payloadTypeField ≠ 26 := htype
      rw [if_pos htype']
      rfl
    · have htype' : ¬(({} : CustomJpegPacket).withRtpHeader h).header.payloadTypeField ≠ 26 := htype
      rw [if_neg htype']
      rcases r with
        - | ⟨a₀, - | ⟨a₁, - | ⟨a₂, - | ⟨a₃, - | ⟨a₄, - | ⟨a₅, - | ⟨a₆, - | ⟨a₇, r⟩⟩⟩⟩⟩⟩⟩⟩
      case cons.cons.cons.cons.cons.cons.cons.cons =>
        simp only [CustomJpegPacket.withRtpHeader, List.nil_append, List.length_cons] at hlength ⊢
        omega
      all_goals rfl

/-- The first level has everything that is left as its payload, which is no more than it protects
exactly where nothing follows the level. -/
lemma parseFecLevels_firstLevel {size : ℕ} (hsize : 0 < size) {p fec : CustomFecPacket}
    (hp : p.levels = []) {bs r : Octets}
    (hfec : parseFecLevels size (bs.length + 1) p bs = .ok (fec, r))
    {level : CustomFecLevelHeader} {payload : Octets}
    (hlevel : fec.levels[0]? = some (level, payload)) :
    payload.length ≤ level.protectionLengthField.toNat ↔ fec.levels.length = 1 ∧ r = [] := by
  rw [parseFecLevels] at hfec
  dsimp only at hfec
  split_ifs at hfec with hshort
  · cases hfec
    rw [hp] at hlevel
    cases hlevel
  · obtain ⟨⟨more, hmore⟩, -⟩ := parseFecLevels_levels _ _ hfec
    rw [hp, List.nil_append] at hmore
    rw [← hmore] at hlevel
    obtain ⟨rfl, rfl⟩ := Prod.mk.inj (Option.some.inj hlevel)
    obtain ⟨n, hn⟩ : ∃ n, bs.length = n + 1 := ⟨bs.length - 1, by omega⟩
    constructor
    · intro hle
      rw [List.drop_of_length_le hle, parseFecLevels_nil hsize] at hfec
      obtain ⟨rfl, rfl⟩ := Prod.mk.inj (Except.ok.inj hfec)
      rw [hp]
      exact ⟨rfl, rfl⟩
    · rintro ⟨hone, rfl⟩
      rw [hn, parseFecLevels] at hfec
      dsimp only at hfec
      split_ifs at hfec
      · obtain ⟨-, hrest⟩ := Prod.mk.inj (Except.ok.inj hfec)
        exact List.drop_eq_nil_iff.mp hrest
      · obtain ⟨⟨more', hmore'⟩, -⟩ := parseFecLevels_levels _ _ hfec
        rw [← hmore', hp] at hone
        simp at hone

/-- What a FEC packet takes at least, and when it ends with its first level. -/
lemma customFecPacketGrammar_firstLevel {bs r : Octets} {fec : CustomFecPacket}
    (hfec : customFecPacketGrammar {} bs = .ok (fec, r)) :
    22 + 4 * fec.header.csrc.toNat ≤ bs.length ∧
      ∀ level payload, fec.levels[0]? = some (level, payload) →
        (payload.length ≤ level.protectionLengthField.toNat ↔ fec.levels.length = 1 ∧ r = []) := by
  unfold customFecPacketGrammar at hfec
  rcases hheader : parseRtpHeader ({} : CustomFecPacket).header.toHeader bs with h | ⟨h, rest⟩
  · rw [hheader] at hfec
    cases hfec
  · rw [hheader] at hfec
    have hlength := parseRtpHeader_length hheader
    dsimp only at hfec
    unfold parseFecProfile at hfec
    split at hfec
    case h_2 => cases hfec
    case h_1 o₀ o₁ s₀ s₁ t₀ t₁ t₂ t₃ l₀ l₁ bs' =>
      dsimp only at hfec
      obtain ⟨-, hsame⟩ := parseFecLevels_levels _ _ hfec
      constructor
      · rw [hsame]
        simp only [CustomFecPacket.withRtpHeader, List.length_cons] at hlength ⊢
        omega
      · intro level payload hlevel
        refine parseFecLevels_firstLevel ?_ rfl hfec hlevel
        split_ifs <;> decide

/-! ### Buffered packets -/

lemma length_standardRtpHeaderGenerator {h : Header} (hversion : h.version = 2) :
    12 ≤ (standardRtpHeaderGenerator h).2.length := by
  unfold standardRtpHeaderGenerator
  rw [if_neg (not_not.mpr hversion)]
  split_ifs
  · exact (length_fixedHeader h).ge
  · rw [List.length_append, length_fixedHeader]
    exact Nat.le_add_right 12 _

/-- A recovered packet has room for an RTP header beside its data. -/
lemma fecReconstruction_length {fec : CustomFecPacket × Octets} {media : List MediaPacket}
    {packet : MediaPacket} (h : fecReconstruction fec media = some packet) :
    packet.1.data.length + 12 ≤ packet.2.length := by
  simp only [fecReconstruction, Option.bind_eq_bind, Option.bind_eq_some_iff] at h
  obtain ⟨step₁, -, h⟩ := h
  split_ifs at h
  simp only [Option.bind_eq_some_iff] at h
  obtain ⟨level, -, filled, -, bits, -, h⟩ := h
  have hdata := customJpegPacketGrammar_data ((standardRtpHeaderGenerator (recoveredHeader
    (List.zipWith (· ^^^ ·) (step₁.take 10)
      ((fec.2.drop (12 + 4 * fec.1.header.csrc.toNat)).take 10)))).2 ++ bits)
  have hheader := @length_standardRtpHeaderGenerator (recoveredHeader
    (List.zipWith (· ^^^ ·) (step₁.take 10)
      ((fec.2.drop (12 + 4 * fec.1.header.csrc.toNat)).take 10))) rfl
  split at h
  · next heq =>
      rw [heq] at hdata
      cases h
      dsimp only at hdata ⊢
      omega
  · next heq =>
      rw [heq] at hdata
      cases h
      dsimp only at hdata ⊢
      rw [hdata, List.length_append]
      simp only [List.length_nil]
      omega

lemma removePadding_length {packet : MediaPacket}
    (h : packet.1.data.length + 12 ≤ packet.2.length) : 12 ≤ (removePadding packet).2.length := by
  unfold removePadding
  cases findEnd [0xFF, 0xD9] packet.1.data with
  | none => exact le_trans (Nat.le_add_left 12 _) h
  | some i =>
    dsimp only
    rw [List.length_take]
    omega

/-- What a recovery has found. -/
lemma recoveredPacket_eq_some {buffer : List MediaPacket}
    {fecBuffer : List (CustomFecPacket × Octets)} {packet : MediaPacket}
    (h : recoveredPacket buffer fecBuffer = .ok (some packet)) :
    ∃ closing fec level media recovered, fromEnd buffer mediaPacketDelay = some closing ∧
      findFecPacket (closing.1.header.sequenceNumber.toNat - 1) fecBuffer.reverse =
        .ok (some (fec, level)) ∧
      selectMedia buffer (mediaPlaces level buffer.length
        (closing.1.header.sequenceNumber.toNat - 1)
        (fec.1.seqI (closing.1.header.sequenceNumber.toNat - 1))) = .ok (some media) ∧
      fecReconstruction fec media = some recovered ∧ removePadding recovered = packet := by
  unfold recoveredPacket at h
  cases hclosing : fromEnd buffer mediaPacketDelay with
  | none =>
    rw [hclosing] at h
    cases h
  | some closing =>
    rw [hclosing] at h
    dsimp only at h
    rcases hfind : findFecPacket (closing.1.header.sequenceNumber.toNat - 1) fecBuffer.reverse with
      fault | - | ⟨fec, level⟩ <;> rw [hfind] at h
    · cases h
    · cases h
    · dsimp only at h
      rcases hselect : selectMedia buffer (mediaPlaces level buffer.length
        (closing.1.header.sequenceNumber.toNat - 1)
        (fec.1.seqI (closing.1.header.sequenceNumber.toNat - 1))) with fault | - | media <;>
        rw [hselect] at h
      · cases h
      · cases h
      · dsimp only at h
        cases hpacket : fecReconstruction fec media with
        | none =>
          rw [hpacket] at h
          cases h
        | some recovered =>
          rw [hpacket] at h
          exact ⟨closing, fec, level, media, recovered, rfl, hfind, hselect, hpacket,
            Option.some.inj (Except.ok.inj h)⟩

lemma recoveredPacket_length {buffer : List MediaPacket}
    {fecBuffer : List (CustomFecPacket × Octets)} {packet : MediaPacket}
    (h : recoveredPacket buffer fecBuffer = .ok (some packet)) : 12 ≤ packet.2.length := by
  obtain ⟨-, fec, -, media, recovered, -, -, -, hpacket, rfl⟩ := recoveredPacket_eq_some h
  exact removePadding_length (fecReconstruction_length hpacket)

/-- Every packet in the incoming buffer has an RTP header. -/
def Receiver.HasHeaders (r : Receiver) : Prop := ∀ p ∈ r.jpegPacketIncomingBuffer, 12 ≤ p.2.length

namespace Receiver

lemma HasHeaders.closeGap {r : Receiver} (h : r.HasHeaders) : r.closeGap.1.HasHeaders := by
  rcases closeGap_cases r with ⟨-, hclose⟩ | ⟨d, -, -, hclose⟩ | ⟨d, -, -, hclose⟩ |
    ⟨-, ⟨fault, -, hclose⟩ | ⟨-, hclose⟩ | ⟨q, hrecovered, hclose⟩⟩ <;> rw [hclose]
  · exact h
  · exact h
  · exact h
  · exact h
  · exact h
  · intro p hp
    rcases List.eq_or_mem_of_mem_insertIdx hp with rfl | hp
    · exact recoveredPacket_length hrecovered
    · exact h p hp

lemma HasHeaders.moveFront {r : Receiver} (h : r.HasHeaders) : r.moveFront.HasHeaders := by
  unfold Receiver.moveFront
  cases hbuffer : r.jpegPacketIncomingBuffer with
  | nil => exact h
  | cons packet buffer =>
    intro p hp
    exact h p (hbuffer ▸ List.mem_cons_of_mem packet hp)

/-- The buffer with a packet that is accepted. -/
lemma HasHeaders.accepted {r : Receiver} (h : r.HasHeaders) {message : Octets}
    {packet : CustomJpegPacket} (haccepted : r.accepted message = some packet) :
    ∀ p ∈ r.jpegPacketIncomingBuffer ++ [(packet, message)], 12 ≤ p.2.length := by
  have hdata := customJpegPacketGrammar_data message
  revert haccepted hdata
  unfold Receiver.accepted
  rcases customJpegPacketGrammar {} message with packet' | ⟨packet', rest⟩
  · nofun
  · intro _ hdata p hp
    rcases List.mem_append.mp hp with hp | hp
    · exact h p hp
    · rw [List.mem_singleton.mp hp]
      dsimp only at hdata ⊢
      omega

lemma HasHeaders.handleNewJpegPacket {r : Receiver} (h : r.HasHeaders) (message : Octets) :
    (r.handleNewJpegPacket message).1.HasHeaders := by
  apply handleNewJpegPacket_rule (P := HasHeaders) h
  · exact fun _ _ _ => h
  · exact fun _ _ haccepted => h.accepted haccepted
  · exact fun r' h' => h'.closeGap
  · exact fun r' h' => h'.moveFront

lemma HasHeaders.handleNewIncomingMessage {r : Receiver} (h : r.HasHeaders) (message : Octets) :
    (r.handleNewIncomingMessage message).1.HasHeaders := by
  have hbuffer := handleNewIncomingMessage_frame jpegPacketIncomingBuffer (fun _ _ _ => rfl)
    (fun _ _ => rfl) r message
  unfold HasHeaders
  rw [hbuffer]
  exact h.handleNewJpegPacket message

end Receiver

lemma hasHeaders_of_reachable {s : Reception} (hs : receptionSystem.Reachable Always s) :
    s.receiver.HasHeaders := by
  apply hs.invariant
  · rintro s ⟨ssrc, statisticsHandler, rfl⟩ p hp
    cases hp
  · intro s e s' h _ hstep
    rcases Reception.step_cases hstep with ⟨message, -, rfl⟩ | ⟨-, -, -, handler, hpart⟩
    · rw [Reception.receive_receiver]
      exact h.handleNewIncomingMessage message
    · have hbuffer : s'.receiver.jpegPacketIncomingBuffer = s.receiver.jpegPacketIncomingBuffer :=
        congrArg Receiver.MediaPart.buffer hpart
      unfold Receiver.HasHeaders
      rw [hbuffer]
      exact h

/-! ### Selected packets -/

lemma selectMedia_mem {buffer : List MediaPacket} {places : List (ℤ × ℤ)}
    {media : List MediaPacket} (h : selectMedia buffer places = .ok (some media)) :
    media.length = places.length ∧ ∀ p ∈ media, p ∈ buffer := by
  induction places generalizing media with
  | nil =>
    cases h
    exact ⟨rfl, nofun⟩
  | cons place places ih =>
    rw [selectMedia] at h
    cases hplace : atPlace buffer place.1 with
    | none =>
      rw [hplace] at h
      cases h
    | some packet =>
      rw [hplace] at h
      dsimp only at h
      split_ifs at h
      case neg => cases h
      rcases hrest : selectMedia buffer places with fault | - | rest <;> rw [hrest] at h
      · cases h
      · cases h
      · cases h
        obtain ⟨hlength, hmem⟩ := ih hrest
        refine ⟨congrArg Nat.succ hlength, ?_⟩
        intro p hp
        rcases List.mem_cons.mp hp with rfl | hp
        · unfold atPlace at hplace
          split_ifs at hplace
          exact List.mem_of_getElem? hplace
        · exact hmem p hp

lemma length_mediaPlaces_le (level : CustomFecLevelHeader) (size : ℕ) (toRecover : ℤ) {seqI : ℕ}
    (hseqI : seqI ≤ 63) : (mediaPlaces level size toRecover seqI).length ≤ 63 := by
  unfold mediaPlaces
  rw [List.length_append, List.length_map, List.length_map]
  have h₁ := List.length_filter_le level.protects (List.range seqI)
  have h₂ := List.length_filter_le level.protects (List.range' (seqI + 1) (63 - seqI))
  rw [List.length_range] at h₁
  rw [List.length_range'] at h₂
  omega

/-- For every FEC packet that the grammar accepts and the media packets that are selected for it
from the buffer with a new packet, the reconstruction completes exactly where it is given one to
forty-seven packets, the FEC packet ends with its first level, and no media packet is more than
twelve bytes longer than the level protects. -/
theorem reconstruction_in_bounds_iff {s : Reception} (hs : receptionSystem.Reachable Always s)
    {message : Octets} {packet : CustomJpegPacket}
    (haccepted : s.receiver.accepted message = some packet)
    {datagram rest : Octets} {fec : CustomFecPacket}
    (hfec : customFecPacketGrammar {} datagram = .ok (fec, rest))
    {level : CustomFecLevelHeader} {payload : Octets}
    (hlevel : fec.levels[0]? = some (level, payload)) {toRecover : ℤ}
    (hrange : fec.InRange toRecover) {media : List MediaPacket}
    (hselect : selectMedia (s.receiver.jpegPacketIncomingBuffer ++ [(packet, message)])
      (mediaPlaces level (s.receiver.jpegPacketIncomingBuffer.length + 1) toRecover
        (fec.seqI toRecover)) = .ok (some media)) :
    (fecReconstruction (fec, datagram) media).isSome = true ↔
      1 ≤ media.length ∧ media.length ≤ 47 ∧ (fec.levels.length = 1 ∧ rest = []) ∧
        ∀ p ∈ media, p.2.length ≤ level.protectionLengthField.toNat + 12 := by
  have hbuffered := (hasHeaders_of_reachable hs).accepted haccepted
  obtain ⟨hlength, hmem⟩ := selectMedia_mem hselect
  have hseqI : fec.seqI toRecover ≤ 63 := by
    unfold CustomFecPacket.seqI
    obtain ⟨-, hle⟩ := hrange
    omega
  have hlen : media.length ≤ 63 := by
    rw [hlength]
    exact length_mediaPlaces_le level _ toRecover hseqI
  obtain ⟨hheaders, hends⟩ := customFecPacketGrammar_firstLevel hfec
  rw [fecReconstruction_isSome_iff hlen]
  constructor
  · rintro ⟨hne, hle, -, -, level', payload', hsome, hpayload, hfits⟩
    rw [hlevel] at hsome
    cases hsome
    exact ⟨List.length_pos_iff.mpr hne, hle, (hends level payload hlevel).mp hpayload, hfits⟩
  · rintro ⟨hpos, hle, hone, hfits⟩
    exact ⟨List.length_pos_iff.mp hpos, hle, fun p hp => hbuffered p (hmem p hp), hheaders, level,
      payload, hlevel, (hends level payload hlevel).mpr hone, hfits⟩

/-! ### A gap -/

/-- A small frame. -/
def smallPacket (n : ℕ) : CustomJpegPacket := sentPacket 7 (UInt16.ofNat n) [0xFF, 0xD9]

/-- The FEC packet for the packets 31 and 32, with some bytes behind it. -/
def gapFec (trailing : Octets) : Octets :=
  (fullFecPacket [smallPacket 31, smallPacket 32] 2).getD [] ++ trailing

/-- What the grammar reads of a FEC packet, and what it leaves. -/
def readFec (datagram : Octets) : CustomFecPacket × Octets :=
  match customFecPacketGrammar {} datagram with
  | .ok r => r
  | .error p => (p, [])

/-- All media packets but number 32, until one is missing to fill the buffer. -/
def gapDatagrams : List ReceiverEvent :=
  (List.range' 1 31 ++ List.range' 33 19).map fun n => .datagram false (raw (smallPacket n))

/-- Packet 31 is selected for the FEC packet when packet 52 comes. -/
lemma gap_selected {trailing : Octets} (h : trailing = [] ∨ trailing = [0]) :
    ∃ s ∈ receptionSystem.run { receiver := { ssrc := 7 } } gapDatagrams,
      s.receiver.accepted (raw (smallPacket 52)) = some (smallPacket 52) ∧
      customFecPacketGrammar {} (gapFec trailing) = .ok (readFec (gapFec trailing)) ∧
      (readFec (gapFec trailing)).1.InRange 32 ∧
      ∃ level ∈ (readFec (gapFec trailing)).1.levels[0]?,
        selectMedia (s.receiver.jpegPacketIncomingBuffer ++
            [(smallPacket 52, raw (smallPacket 52))])
          (mediaPlaces level.1 (s.receiver.jpegPacketIncomingBuffer.length + 1) 32
            ((readFec (gapFec trailing)).1.seqI 32)) =
          .ok (some [(smallPacket 31, raw (smallPacket 31))]) ∧
        22 ≤ level.1.protectionLengthField.toNat + 12 := by
  rcases h with rfl | rfl <;> decide +kernel

lemma reachable_gap {s : Reception}
    (hrun : receptionSystem.run { receiver := { ssrc := 7 } } gapDatagrams = some s) :
    receptionSystem.Reachable Always s := by
  have hinit : receptionSystem.Reachable Always { receiver := { ssrc := 7 } } :=
    .init ⟨7, false, rfl⟩
  exact hinit.run (System.meets_always _ _ _) hrun

theorem reconstruction_in_bounds_gap :
    (fecReconstruction ((readFec (gapFec [])).1, gapFec [])
      [(smallPacket 31, raw (smallPacket 31))]).isSome = true := by
  obtain ⟨s, hrun, haccepted, hfec, hrange, level, hlevel, hselect, hfits⟩ :=
    gap_selected (Or.inl rfl)
  have hone : (readFec (gapFec [])).1.levels.length = 1 ∧ (readFec (gapFec [])).2 = [] := by
    decide
  refine (reconstruction_in_bounds_iff (reachable_gap hrun) haccepted hfec hlevel hrange
    hselect).mpr ⟨le_rfl, by decide, hone, ?_⟩
  intro p hp
  rw [List.mem_singleton.mp hp]
  exact hfits

/-- A byte behind the level is taken for a part of its payload. -/
theorem reconstruction_out_of_bounds :
    ¬∀ s : Reception, receptionSystem.Reachable Always s →
      ∀ message packet, s.receiver.accepted message = some packet →
      ∀ datagram fec rest, customFecPacketGrammar {} datagram = .ok (fec, rest) →
      ∀ level payload, fec.levels[0]? = some (level, payload) →
      ∀ toRecover, fec.InRange toRecover →
      ∀ media, selectMedia (s.receiver.jpegPacketIncomingBuffer ++ [(packet, message)])
        (mediaPlaces level (s.receiver.jpegPacketIncomingBuffer.length + 1) toRecover
          (fec.seqI toRecover)) = .ok (some media) →
      (fecReconstruction (fec, datagram) media).isSome = true := by
  intro h
  obtain ⟨s, hrun, haccepted, hfec, hrange, level, hlevel, hselect, -⟩ :=
    gap_selected (Or.inr rfl)
  have hthrows : (fecReconstruction ((readFec (gapFec [0])).1, gapFec [0])
      [(smallPacket 31, raw (smallPacket 31))]).isSome = false := by
    decide
  have hreturns : (fecReconstruction ((readFec (gapFec [0])).1, gapFec [0])
      [(smallPacket 31, raw (smallPacket 31))]).isSome = true :=
    h s (reachable_gap hrun) _ _ haccepted (gapFec [0]) (readFec (gapFec [0])).1
      (readFec (gapFec [0])).2 hfec level.1 level.2 hlevel 32 hrange _ hselect
  exact Bool.false_ne_true (hthrows.symm.trans hreturns)

end Rtp
