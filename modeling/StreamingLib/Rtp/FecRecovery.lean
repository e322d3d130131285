import StreamingLib.Rtp.FecGenerator
import StreamingLib.Rtp.JpegCodec

/-!
# Recovery of a lost packet

The generator puts everything from the eleventh byte of a media packet on into the payload of the
FEC packet. The receiver combines that payload with everything from the thirteenth byte on. So a
lost packet is recovered up to the difference of two columns of the group that are two apart.
-/

namespace Rtp

/-! ### The receiver -/

/-- `std::fill_n` up to the length `n`, `none` where the count wraps around. -/
def fillUp (n : ℕ) (bits : Octets) : Option Octets :=
  if n < bits.length then none else some (bits ++ List.replicate (n - bits.length) 0)

/-- `std::transform` of a media packet without RTP header into `bits`, `none` where it would write
past its end. -/
def xorMediaPacket (bits media : Octets) : Option Octets :=
  if bits.length < (media.drop 12).length then none
  else some (transformAt 0 (media.drop 12) bits)

/-- The header of the recovered packet. -/
def recoveredHeader (bits : Octets) : Header :=
  { paddingSet := (bits.getD 0 0 &&& 0b00100000) >>> 5 != 0
    extensionBit := (bits.getD 0 0 &&& 0b00010000) >>> 4 != 0
    csrc := bits.getD 0 0 &&& 0b00001111
    marker := (bits.getD 1 0 &&& 0b10000000) >>> 7 != 0
    payloadTypeField := bits.getD 1 0 &&& 0b01111111
    timestamp := readDword (bits.getD 4 0) (bits.getD 5 0) (bits.getD 6 0) (bits.getD 7 0) }

/-- The FEC packet of the received media packets and a packet of zeros. -/
def receivedParity (mediaPackets : List (CustomJpegPacket × Octets)) : Option Octets := do
  let first ← mediaPackets[0]?
  let calls := mediaPackets.map fun p => (p.2, p.1.header.sequenceNumber)
  let fecGen := FecGenerator.new (UInt16.ofNat (mediaPackets.length + 1))
  match (fecGen.generateAll
      (calls ++ [(List.replicate 12 0, first.1.header.sequenceNumber)])).2 with
  | .ok packet => packet
  | .error _ => none

/-- `fec_reconstruction`; `none` where it throws or reads or writes out of bounds. -/
def fecReconstruction (fecPacket : CustomFecPacket × Octets)
    (mediaPackets : List (CustomJpegPacket × Octets)) : Option (CustomJpegPacket × Octets) := do
  let step₁ ← receivedParity mediaPackets
  let recovery := fecPacket.2.drop (12 + 4 * fecPacket.1.header.csrc.toNat)
  if step₁.length < 10 ∨ recovery.length < 10 then none
  else
    let step₄ := recoveredHeader (List.zipWith (· ^^^ ·) (step₁.take 10) (recovery.take 10))
    let level ← fecPacket.1.levels[0]?
    let bits ← fillUp level.1.protectionLengthField.toNat level.2
    let bits ← mediaPackets.foldlM (fun bits p => xorMediaPacket bits p.2) bits
    let buffer := (standardRtpHeaderGenerator step₄).2 ++ bits
    match customJpegPacketGrammar {} buffer with
    | .ok (packet, _) => some (packet, buffer)
    | .error packet => some (packet, buffer)

/-- `std::find_end`: where the last occurrence of `pattern` begins. -/
def findEnd (pattern : Octets) : Octets → Option ℕ
  | [] => none
  | c :: bs =>
    match findEnd pattern bs with
    | some i => some (i + 1)
    | none => if pattern <+: c :: bs then some 0 else none

/-- The padding trim of `recover_packet_by_fec`. -/
def removePadding (packet : CustomJpegPacket × Octets) : CustomJpegPacket × Octets :=
  match findEnd [0xFF, 0xD9] packet.1.data with
  | none => packet
  | some i =>
    let paddingCount := packet.1.data.length - (i + 2)
    ({ packet.1 with data := packet.1.data.take (i + 2) },
      packet.2.take (packet.2.length - paddingCount))

/-! ### A group with a packet missing -/

/-- The bytes of a JPEG packet. -/
def raw (p : CustomJpegPacket) : Octets := (customJpegPacketGenerator p).2

/-- A group of media packets as the sender builds them. -/
structure IsGroup (packets : List CustomJpegPacket) : Prop where
  two_le : 2 ≤ packets.length
  le_48 : packets.length ≤ 48
  plain : ∀ p ∈ packets, p.Plain
  csrcs : ∀ p ∈ packets, p.header.csrcs = []
  ssrc : ∀ p ∈ packets, ∀ q ∈ packets, p.header.ssrc = q.header.ssrc
  consecutive : ∃ s, 0 < s ∧
    packets.map (·.header.sequenceNumber.toNat) = List.range' s packets.length
  endOfImage : ∀ p ∈ packets, ∃ d, p.data = d ++ [0xFF, 0xD9]

/-- The FEC packet for a group, with the RTP header the sender puts in front. -/
def fullFecPacket (packets : List CustomJpegPacket) (fecSequenceNumber : UInt16) :
    Option Octets := do
  let last ← packets.getLast?
  let header : Header :=
    { sequenceNumber := fecSequenceNumber, ssrc := last.header.ssrc, payloadTypeField := 100,
      timestamp := last.header.timestamp }
  let calls := packets.map fun p => (raw p, p.header.sequenceNumber)
  match ((FecGenerator.new (UInt16.ofNat packets.length)).generateAll calls).2 with
  | .ok (some fec) => some ((standardRtpHeaderGenerator header).2 ++ fec)
  | _ => none

/-- The data recovered for a group from the packets that arrived. -/
def recoveredData (packets received : List CustomJpegPacket) (fecSequenceNumber : UInt16) :
    Option Octets := do
  let full ← fullFecPacket packets fecSequenceNumber
  match customFecPacketGrammar {} full with
  | .error _ => none
  | .ok (fec, _) =>
    let packet ← fecReconstruction (fec, full) (received.map fun p => (p, raw p))
    some (removePadding packet).1.data

/-! ### The padding trim -/

lemma prefix_drop_iff {a b : UInt8} {bs : Octets} {i : ℕ} :
    [a, b] <+: bs.drop i ↔ i + 1 < bs.length ∧ bs.getD i 0 = a ∧ bs.getD (i + 1) 0 = b := by
  induction bs generalizing i with
  | nil => simp
  | cons c bs ih =>
    cases i with
    | zero =>
      cases bs with
      | nil => simp
      | cons d bs => simp [List.cons_prefix_cons, eq_comm]
    | succ i => simpa using ih (i := i)

/-- `findEnd` finds the last occurrence, if there is one. -/
lemma findEnd_spec {pattern : Octets} (hne : pattern ≠ []) (bs : Octets) :
    (∃ i, findEnd pattern bs = some i ∧ pattern <+: bs.drop i ∧
      ∀ k, i < k → ¬pattern <+: bs.drop k) ∨
    (findEnd pattern bs = none ∧ ∀ k, ¬pattern <+: bs.drop k) := by
  induction bs with
  | nil => exact Or.inr ⟨rfl, fun k => by simpa using hne⟩
  | cons c bs ih =>
    rcases ih with ⟨i, hi, hocc, hlast⟩ | ⟨hnone, hno⟩
    · left
      refine ⟨i + 1, by simp [findEnd, hi], by simpa using hocc, ?_⟩
      intro k hk
      cases k with
      | zero => omega
      | succ k => simpa using hlast k (by omega)
    · by_cases h : pattern <+: c :: bs
      · left
        refine ⟨0, by simp [findEnd, hnone, h], by simpa using h, ?_⟩
        intro k hk
        cases k with
        | zero => omega
        | succ k => simpa using hno k
      · right
        refine ⟨by simp [findEnd, hnone, h], ?_⟩
        intro k
        cases k with
        | zero => simpa using h
        | succ k => simpa using hno k

lemma findEnd_eq_some {pattern bs : Octets} {i : ℕ} (hocc : pattern <+: bs.drop i)
    (hlast : ∀ k, i < k → ¬pattern <+: bs.drop k) (hne : pattern ≠ []) :
    findEnd pattern bs = some i := by
  rcases findEnd_spec hne bs with ⟨j, hj, hocc', hlast'⟩ | ⟨-, hno⟩
  · rcases lt_trichotomy i j with h | rfl | h
    · exact absurd hocc' (hlast j h)
    · exact hj
    · exact absurd hocc (hlast' i h)
  · exact absurd hocc (hno i)

lemma take_eq_iff {bs w : Octets} (h : w.length ≤ bs.length) :
    bs.take w.length = w ↔ ∀ j < w.length, bs.getD j 0 = w.getD j 0 := by
  constructor
  · intro heq j hj
    calc bs.getD j 0 = (bs.take w.length).getD j 0 := by
          rw [List.getD_eq_getElem?_getD, List.getD_eq_getElem?_getD, List.getElem?_take, if_pos hj]
      _ = w.getD j 0 := by rw [heq]
  · intro heq
    apply List.ext_getElem (by simpa using h)
    intro j hj hj'
    have := heq j hj'
    rw [List.getElem_take]
    rwa [List.getD_eq_getElem _ _ (by omega), List.getD_eq_getElem _ _ hj'] at this

/-- The trim of data longer than an image gives the image exactly where the data starts with it
and has no end marker after it. -/
lemma removePadding_data_eq_iff {p : CustomJpegPacket × Octets} {w d : Octets}
    (hw : w = d ++ [0xFF, 0xD9]) (hlen : w.length < p.1.data.length) :
    (removePadding p).1.data = w ↔ (∀ j < w.length, p.1.data.getD j 0 = w.getD j 0) ∧
      ∀ j, w.length ≤ j → j + 1 < p.1.data.length →
        ¬(p.1.data.getD j 0 = 0xFF ∧ p.1.data.getD (j + 1) 0 = 0xD9) := by
  have hlast : w.length = d.length + 2 := by simp [hw]
  constructor
  · intro h
    rcases findEnd_spec (show [0xFF, 0xD9] ≠ [] by simp) p.1.data with
      ⟨i, hi, hocc, hno⟩ | ⟨hnone, -⟩
    · obtain ⟨hfit, -, -⟩ := prefix_drop_iff.mp hocc
      simp only [removePadding, hi] at h
      have hi2 : w.length = i + 2 := by
        rw [← h, List.length_take]
        omega
      rw [← hi2] at h
      refine ⟨(take_eq_iff hlen.le).mp h, ?_⟩
      rintro j hj hfit' ⟨hff, hd9⟩
      exact hno j (by omega) (prefix_drop_iff.mpr ⟨hfit', hff, hd9⟩)
    · simp only [removePadding, hnone] at h
      rw [h] at hlen
      omega
  · rintro ⟨heq, hno⟩
    have hff : p.1.data.getD d.length 0 = 0xFF := by rw [heq _ (by omega), hw]; simp
    have hd9 : p.1.data.getD (d.length + 1) 0 = 0xD9 := by rw [heq _ (by omega), hw]; simp
    have hend : findEnd [0xFF, 0xD9] p.1.data = some d.length := by
      refine findEnd_eq_some (prefix_drop_iff.mpr ⟨by omega, hff, hd9⟩) ?_ (by simp)
      intro k hk hocc
      obtain ⟨hfit, hkff, hkd9⟩ := prefix_drop_iff.mp hocc
      rcases Nat.lt_or_ge k w.length with hk' | hk'
      · obtain rfl : k = d.length + 1 := by omega
        rw [hd9] at hkff
        exact absurd hkff (by decide)
      · exact hno k hk' hfit ⟨hkff, hkd9⟩
    simp only [removePadding, hend, ← hlast]
    exact (take_eq_iff hlen.le).mpr heq

end Rtp
