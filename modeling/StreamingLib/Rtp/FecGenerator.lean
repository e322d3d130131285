import StreamingLib.Bytes.Parity
import StreamingLib.Rtp.Packet

/-!
# The FEC generator

`fec_generator` of `rtp_endsystem.cpp` collects the media packets of a group in a bit string: the
first eight bytes of each, the length after the RTP header, and everything from the ninth byte on,
all combined by exclusive or.
-/

namespace Rtp

/-- What `generate_next_fec_packet` throws. -/
inductive FecFault
  /-- `std::logic_error`. -/
  | shortMediaPacket
  /-- `std::out_of_range` of `mask.at`. -/
  | maskOutOfRange
deriving DecidableEq

structure FecGenerator where
  fecK : UInt16
  currentFecK : UInt16
  fecBitString : Octets := []
  fecSeqBase : UInt16 := 0
deriving DecidableEq

/-- `fec_generator::fec_generator`. -/
def FecGenerator.new (fecK : UInt16) : FecGenerator := { fecK := fecK, currentFecK := fecK }

/-- `std::transform` of `xs` and the part of `bits` from `n` on, in place. -/
def transformAt (n : ℕ) (xs bits : Octets) : Octets :=
  bits.take n ++ List.zipWith (· ^^^ ·) xs (bits.drop n) ++ bits.drop (n + xs.length)

def absorbHeader (bits media : Octets) : Octets :=
  if bits = [] then media.take 8 else transformAt 0 (media.take 8) bits

def absorbLength (bits : Octets) (length : ℕ) : Octets :=
  if bits.length = 8 then bits ++ bigWord length else transformAt 8 (bigWord length) bits

def absorbPayload (bits media : Octets) : Octets :=
  if media.length ≤ bits.length - 2 then transformAt 10 (media.drop 8) bits
  else
    transformAt 10 ((media.drop 8).take (bits.length - 10)) bits ++ media.drop (bits.length - 2)

/-- The bit string after a media packet. -/
def absorb (bits media : Octets) : Octets :=
  absorbPayload (absorbLength (absorbHeader bits media) (media.length - 12)) media

/-- `mask.at(u / 8u) |= 0b10000000 >> u % 8u`. -/
def maskStep (mask : Octets) (u : ℕ) : Option Octets :=
  mask[u / 8]?.map fun octet => mask.set (u / 8) (octet ||| 0b10000000 >>> UInt8.ofNat (u % 8))

def emptyMask : Octets := List.replicate 6 0

/-- The mask of a group, `none` where `mask.at` throws. -/
def fecMaskOctets (fecK : UInt16) : Option Octets :=
  (List.range fecK.toNat).foldlM maskStep emptyMask

/-- The FEC packet of a complete group, without RTP header. -/
def fecPacketOctets (fecK fecSeqBase : UInt16) (mask bits : Octets) : Octets :=
  (bits.getD 0 0 &&& 0b00111111 ||| if fecK > 16 then 0b01000000 else 0) :: bits.getD 1 0 ::
    (bigWord fecSeqBase.toNat ++ (bits.drop 4).take 6 ++ bigWord (bits.length - 12)
      ++ (if fecK > 16 then mask else mask.take 2) ++ bits.drop 12)

/-- One call; `.ok none` where it returns a null pointer. -/
def FecGenerator.generateNextFecPacket (g : FecGenerator) (mediaPacket : Octets)
    (seqNum : UInt16) : FecGenerator × Except FecFault (Option Octets) :=
  if mediaPacket.length < 12 then (g, .error .shortMediaPacket)
  else
    let g : FecGenerator := { g with
      fecSeqBase := if g.fecSeqBase ≠ 0 then min seqNum g.fecSeqBase else seqNum
      fecBitString := absorb g.fecBitString mediaPacket }
    if g.currentFecK > 1 then ({ g with currentFecK := g.currentFecK - 1 }, .ok none)
    else
      -- the bit string is cleared last, so it stays where the mask throws
      let base := g.fecSeqBase
      let g : FecGenerator := { g with currentFecK := g.fecK, fecSeqBase := 0 }
      match fecMaskOctets g.fecK with
      | none => (g, .error .maskOutOfRange)
      | some mask =>
        ({ g with fecBitString := [] },
          .ok (some (fecPacketOctets g.fecK base mask g.fecBitString)))

/-- Consecutive calls; the result of the last one, or the first exception. -/
def FecGenerator.generateAll :
    FecGenerator → List (Octets × UInt16) → FecGenerator × Except FecFault (Option Octets)
  | g, [] => (g, .ok none)
  | g, (mediaPacket, seqNum) :: packets =>
    match g.generateNextFecPacket mediaPacket seqNum with
    | (g, .error fault) => (g, .error fault)
    | (g, .ok packet) => if packets = [] then (g, .ok packet) else g.generateAll packets

/-! ### The mask -/

lemma maskStep_isSome (mask : Octets) (u : ℕ) :
    (maskStep mask u).isSome = true ↔ u / 8 < mask.length := by
  simp [maskStep]

lemma length_maskStep {mask mask' : Octets} {u : ℕ} (h : maskStep mask u = some mask') :
    mask'.length = mask.length := by
  simp only [maskStep, Option.map_eq_some_iff] at h
  obtain ⟨octet, -, rfl⟩ := h
  exact List.length_set

lemma foldlM_maskStep (n : ℕ) :
    (n ≤ 48 ∧ ∃ mask, (List.range n).foldlM maskStep emptyMask = some mask ∧
      mask.length = 6) ∨
    (48 < n ∧ (List.range n).foldlM maskStep emptyMask = none) := by
  induction n with
  | zero => exact Or.inl ⟨by decide, emptyMask, rfl, rfl⟩
  | succ n ih =>
    simp only [List.range_succ, List.foldlM_append, List.foldlM_cons, List.foldlM_nil]
    rcases ih with ⟨hn, mask, hmask, hlen⟩ | ⟨hn, hmask⟩
    · cases hstep : maskStep mask n with
      | none =>
        right
        have h := maskStep_isSome mask n
        rw [hstep, hlen] at h
        refine ⟨?_, by simp [hmask, hstep]⟩
        simp only [Option.isSome_none, Bool.false_eq_true, false_iff] at h
        omega
      | some mask' =>
        left
        have h := maskStep_isSome mask n
        rw [hstep, hlen] at h
        refine ⟨?_, mask', by simp [hmask, hstep], (length_maskStep hstep).trans hlen⟩
        simp only [Option.isSome_some, true_iff] at h
        omega
    · exact Or.inr ⟨by omega, by simp [hmask]⟩

/-- The mask holds 48 packets; a larger group size makes the completion of a group throw. -/
theorem fecMaskOctets_isSome (fecK : UInt16) :
    (fecMaskOctets fecK).isSome = true ↔ fecK.toNat ≤ 48 := by
  rcases foldlM_maskStep fecK.toNat with ⟨hk, mask, hmask, -⟩ | ⟨hk, hmask⟩
  · simp [fecMaskOctets, hmask, hk]
  · simp [fecMaskOctets, hmask, hk]

lemma length_fecMaskOctets {fecK : UInt16} {mask : Octets} (h : fecMaskOctets fecK = some mask) :
    mask.length = 6 := by
  rcases foldlM_maskStep fecK.toNat with ⟨-, mask', hmask, hlen⟩ | ⟨-, hmask⟩
  · rw [fecMaskOctets, hmask, Option.some.injEq] at h
    rwa [← h]
  · rw [fecMaskOctets, hmask] at h
    cases h

/-! ### The bit string -/

/-- What a media packet contributes to the bit string. -/
def fecRow (media : Octets) : Octets :=
  media.take 8 ++ (bigWord (media.length - 12) ++ media.drop 8)

lemma length_bigWord (v : ℕ) : (bigWord v).length = 2 := Bytes.length_bigEndian 2 v

lemma length_fecRow {media : Octets} (h : 12 ≤ media.length) :
    (fecRow media).length = media.length + 2 := by
  simp only [fecRow, List.length_append, List.length_take, List.length_drop, length_bigWord]
  omega

/-- Writing over a part that is long enough. -/
lemma transformAt_append {n : ℕ} {a : Octets} (ha : a.length = n) {xs b : Octets}
    (h : xs.length ≤ b.length) : transformAt n xs (a ++ b) = a ++ Parity.pad (· ^^^ ·) xs b := by
  rw [transformAt, List.take_left' ha, List.drop_left' ha, List.drop_append, ha,
    List.drop_of_length_le (by omega), Nat.add_sub_cancel_left, List.nil_append, List.append_assoc,
    Parity.pad_of_ge _ h]

/-- Writing over a first part of the same length. -/
lemma transformAt_append_append {n : ℕ} {a b xs : Octets} (ha : a.length = n)
    (hb : xs.length = b.length) (c : Octets) :
    transformAt n xs (a ++ (b ++ c)) = a ++ (List.zipWith (· ^^^ ·) xs b ++ c) := by
  have hpad := Parity.pad_append (· ^^^ ·) hb [] c
  rw [List.append_nil, Parity.pad_nil_left] at hpad
  rw [transformAt_append ha (by rw [List.length_append]; omega), hpad]

/-- The part after the first ten bytes, of whichever length the packet is. -/
lemma absorbPayload_append {a c d e : Octets} (ha : a.length = 10) (hd : d.length = 8) :
    absorbPayload (a ++ c) (d ++ e) = a ++ Parity.pad (· ^^^ ·) e c := by
  simp only [absorbPayload, List.length_append, ha, hd, List.drop_left' hd]
  split_ifs with hshort
  · exact transformAt_append ha (by omega)
  · obtain ⟨x, y, hx, rfl⟩ : ∃ x y : Octets, x.length = c.length ∧ e = x ++ y :=
      ⟨e.take c.length, e.drop c.length, by rw [List.length_take]; omega,
        (List.take_append_drop _ _).symm⟩
    have hlen : 10 + c.length - 10 = x.length := by omega
    have hdrop : 10 + c.length - 2 = (d ++ x).length := by rw [List.length_append]; omega
    have hpad := Parity.pad_append (· ^^^ ·) hx y []
    have htrans := transformAt_append_append ha hx []
    rw [List.append_nil, Parity.pad_nil_right] at hpad
    rw [List.append_nil, List.append_nil] at htrans
    rw [hlen, List.take_left' rfl, htrans, hdrop, ← List.append_assoc d, List.drop_left' rfl,
      hpad, List.append_assoc]

/-- A media packet is combined with the bit string as a row of its own length. -/
lemma absorb_eq_pad {bits media : Octets} (hbits : bits = [] ∨ 10 ≤ bits.length)
    (h : 12 ≤ media.length) : absorb bits media = Parity.pad (· ^^^ ·) (fecRow media) bits := by
  obtain ⟨d, e, hd, rfl⟩ : ∃ d e : Octets, d.length = 8 ∧ media = d ++ e :=
    ⟨media.take 8, media.drop 8, by rw [List.length_take]; omega,
      (List.take_append_drop 8 media).symm⟩
  have hrow : fecRow (d ++ e) = d ++ (bigWord ((d ++ e).length - 12) ++ e) := by
    rw [fecRow, List.take_left' hd, List.drop_left' hd]
  have hl := length_bigWord ((d ++ e).length - 12)
  rcases hbits with rfl | hbits
  · have hpayload := absorbPayload_append (a := d ++ bigWord ((d ++ e).length - 12)) (c := [])
      (e := e) (by rw [List.length_append]; omega) hd
    rw [List.append_nil, Parity.pad_nil_right, List.append_assoc] at hpayload
    rw [absorb, absorbHeader, if_pos rfl, List.take_left' hd, absorbLength, if_pos hd, hrow,
      Parity.pad_nil_right, hpayload]
  · obtain ⟨a, b, c, ha, hb, rfl⟩ : ∃ a b c : Octets, a.length = 8 ∧ b.length = 2 ∧
        bits = a ++ (b ++ c) := by
      refine ⟨bits.take 8, (bits.drop 8).take 2, bits.drop 10, ?_, ?_, ?_⟩
      · rw [List.length_take]; omega
      · rw [List.length_take, List.length_drop]; omega
      · rw [← List.drop_drop (i := 2) (j := 8), List.take_append_drop, List.take_append_drop]
    have hne : a ++ (b ++ c) ≠ [] := by
      rw [← List.length_pos_iff, List.length_append, ha]
      omega
    have hfirst : absorbHeader (a ++ (b ++ c)) (d ++ e) =
        List.zipWith (· ^^^ ·) d a ++ (b ++ c) := by
      rw [absorbHeader, if_neg hne, List.take_left' hd]
      exact transformAt_append_append (a := []) rfl (hd.trans ha.symm) (b ++ c)
    have ha' : (List.zipWith (· ^^^ ·) d a).length = 8 := by rw [List.length_zipWith]; omega
    have hsecond : absorbLength (List.zipWith (· ^^^ ·) d a ++ (b ++ c))
        ((d ++ e).length - 12) = List.zipWith (· ^^^ ·) d a ++
          (List.zipWith (· ^^^ ·) (bigWord ((d ++ e).length - 12)) b ++ c) := by
      rw [absorbLength, if_neg (by rw [List.length_append, List.length_append]; omega)]
      exact transformAt_append_append ha' (hl.trans hb.symm) c
    have hten : (List.zipWith (· ^^^ ·) d a ++
        List.zipWith (· ^^^ ·) (bigWord ((d ++ e).length - 12)) b).length = 10 := by
      rw [List.length_append, List.length_zipWith, List.length_zipWith]
      omega
    rw [absorb, hfirst, hsecond, ← List.append_assoc, absorbPayload_append hten hd, hrow,
      Parity.pad_append _ (hd.trans ha.symm), Parity.pad_append _ (hl.trans hb.symm),
      List.append_assoc]

/-! ### Groups -/

lemma generateAll_cons {g g' : FecGenerator} {p : Octets × UInt16}
    {packets : List (Octets × UInt16)} {r : Option Octets} (hne : packets ≠ [])
    (h : g.generateNextFecPacket p.1 p.2 = (g', .ok r)) :
    g.generateAll (p :: packets) = g'.generateAll packets := by
  simp only [FecGenerator.generateAll, h, if_neg hne]

/-- `fec_seq_base` after a media packet; zero stands for no base. -/
def nextBase (base seqNum : UInt16) : UInt16 := if base ≠ 0 then min seqNum base else seqNum

/-- A call that does not complete the group collects its packet. -/
lemma generateNextFecPacket_collects {g : FecGenerator} (hk : 1 < g.currentFecK.toNat)
    {media : Octets} (hmedia : 12 ≤ media.length) (seqNum : UInt16) :
    g.generateNextFecPacket media seqNum = (⟨g.fecK, g.currentFecK - 1,
      absorb g.fecBitString media, nextBase g.fecSeqBase seqNum⟩, .ok none) := by
  have hk' : g.currentFecK > 1 := hk
  rw [FecGenerator.generateNextFecPacket, if_neg (not_lt.mpr hmedia)]
  dsimp only
  rw [if_pos hk']
  rfl

/-- The call that completes the group gives its packet and leaves a fresh generator. -/
lemma generateNextFecPacket_completes {g : FecGenerator} (hk : g.currentFecK.toNat ≤ 1)
    {mask : Octets} (hmask : fecMaskOctets g.fecK = some mask) {media : Octets}
    (hmedia : 12 ≤ media.length) (seqNum : UInt16) :
    g.generateNextFecPacket media seqNum = (.new g.fecK,
      .ok (some (fecPacketOctets g.fecK (nextBase g.fecSeqBase seqNum) mask
        (absorb g.fecBitString media)))) := by
  have hk' : ¬g.currentFecK > 1 := not_lt.mpr hk
  rw [FecGenerator.generateNextFecPacket, if_neg (not_lt.mpr hmedia)]
  dsimp only
  rw [if_neg hk', hmask]
  rfl

lemma generateAll_of_length {g : FecGenerator} {packets : List (Octets × UInt16)}
    (hne : packets ≠ []) (hk : g.currentFecK.toNat = packets.length) {mask : Octets}
    (hmask : fecMaskOctets g.fecK = some mask) (hlen : ∀ p ∈ packets, 12 ≤ p.1.length)
    (hbits : g.fecBitString = [] ∨ 10 ≤ g.fecBitString.length) :
    ∃ base, g.generateAll packets = (.new g.fecK, .ok (some (fecPacketOctets g.fecK base mask
      ((packets.map fun p => fecRow p.1).foldl (Parity.pad (· ^^^ ·)) g.fecBitString)))) := by
  induction packets generalizing g with
  | nil => exact absurd rfl hne
  | cons p packets ih =>
    have hp : 12 ≤ p.1.length := hlen p (by simp)
    have hpad : absorb g.fecBitString p.1 = Parity.pad (· ^^^ ·) g.fecBitString (fecRow p.1) :=
      (absorb_eq_pad hbits hp).trans (Parity.pad_comm _ _ _)
    cases packets with
    | nil =>
      have h := generateNextFecPacket_completes (by simp [hk]) hmask hp p.2
      refine ⟨nextBase g.fecSeqBase p.2, ?_⟩
      simp only [FecGenerator.generateAll, h, hpad, if_true, List.map_cons, List.map_nil,
        List.foldl_cons, List.foldl_nil]
    | cons p' packets =>
      have hgt : 1 < g.currentFecK.toNat := by simp [hk]
      have h := generateNextFecPacket_collects hgt hp p.2
      have hcount : (g.currentFecK - 1).toNat = (p' :: packets).length := by
        rw [UInt16.toNat_sub_of_le _ _ (show (1 : UInt16) ≤ g.currentFecK from hgt.le), hk]
        simp
      have hrow : 10 ≤ (absorb g.fecBitString p.1).length := by
        rw [hpad, Parity.length_pad, length_fecRow hp]
        omega
      obtain ⟨base', h'⟩ := ih (g := ⟨g.fecK, g.currentFecK - 1, absorb g.fecBitString p.1,
        nextBase g.fecSeqBase p.2⟩) (by simp) hcount hmask
        (fun q hq => hlen q (List.mem_cons_of_mem p hq)) (Or.inr hrow)
      refine ⟨base', ?_⟩
      rw [generateAll_cons (by simp) h, h', hpad]
      rfl

/-- The packet for a whole group holds the parity of its rows, and the generator is fresh again. -/
theorem generateAll_group (fecK : UInt16) (hk : fecK.toNat ≤ 48)
    {packets : List (Octets × UInt16)} (hne : packets ≠ []) (hlength : packets.length = fecK.toNat)
    (hlen : ∀ p ∈ packets, 12 ≤ p.1.length) :
    ∃ base mask, mask.length = 6 ∧ (FecGenerator.new fecK).generateAll packets =
      (.new fecK, .ok (some (fecPacketOctets fecK base mask
        (Parity.sum (· ^^^ ·) (packets.map fun p => fecRow p.1))))) := by
  obtain ⟨mask, hmask⟩ := Option.isSome_iff_exists.mp ((fecMaskOctets_isSome fecK).mpr hk)
  obtain ⟨base, h⟩ := generateAll_of_length (g := .new fecK) hne hlength.symm hmask hlen
    (Or.inl rfl)
  exact ⟨base, mask, length_fecMaskOctets hmask, h⟩

end Rtp
