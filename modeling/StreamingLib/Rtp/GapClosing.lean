import StreamingLib.Rtp.Broadcast

/-!
# Isolated losses are repaired: closing the gaps

When the gap of an isolated loss is checked, the receiver holds the FEC packet and all other packets
of the group, at the places where it looks for them. So the packets shown and to be shown get one
packet for every frame.
-/

namespace Rtp

open Groups Transition

namespace Broadcast

variable {b : Broadcast} {a d g h i j n s : ℕ}

/-! ### Packets that arrive -/

/-- Which of the `d` packets from number `s` on arrive. -/
def arrived (b : Broadcast) (s d : ℕ) : List ℕ := (List.range' s d).filter fun i => !b.lost i

lemma arrived_cons (b : Broadcast) (s d : ℕ) :
    b.arrived s (d + 1) = if b.lost s then b.arrived (s + 1) d else s :: b.arrived (s + 1) d := by
  rw [arrived, List.range'_succ, List.filter_cons]
  cases b.lost s <;> rfl

lemma arrived_concat (b : Broadcast) (s d : ℕ) :
    b.arrived s (d + 1) = b.arrived s d ++ if b.lost (s + d) then [] else [s + d] := by
  rw [arrived, List.range'_1_concat, List.filter_append, List.filter_singleton]
  cases b.lost (s + d) <;> rfl

lemma length_arrived_le (b : Broadcast) (s d : ℕ) : (b.arrived s d).length ≤ d := by
  rw [arrived]
  exact (List.length_filter_le _ _).trans (by simp)

/-- Up to the first loss the packets arrive one after the other. -/
lemma getElem?_arrived {m : ℕ} (hm : m < d) (hkept : ∀ i, s ≤ i → i ≤ s + m → b.lost i = false) :
    (b.arrived s d)[m]? = some (s + m) := by
  induction m generalizing s d with
  | zero =>
    obtain ⟨d, rfl⟩ := Nat.exists_eq_add_one_of_ne_zero hm.ne'
    rw [arrived_cons, if_neg (by simp [hkept s le_rfl le_rfl])]
    rfl
  | succ m ih =>
    obtain ⟨d, rfl⟩ := Nat.exists_eq_add_one_of_ne_zero (Nat.ne_zero_of_lt hm)
    rw [arrived_cons, if_neg (by simp [hkept s le_rfl (Nat.le_add_right s _)]),
      List.getElem?_cons_succ, ih (Nat.lt_of_succ_lt_succ hm) fun i hi hle => hkept i (by omega) (by
        omega)]
    congr 1
    omega

/-- At least every second packet arrives. -/
lemma Repairable.le_arrived (hb : b.Repairable) (hd : s + d ≤ b.frames.length) :
    d ≤ 2 * (b.arrived s d).length + 1 := by
  induction d using Nat.twoStepInduction generalizing s with
  | zero => exact Nat.zero_le _
  | one => exact Nat.le_add_left _ _
  | more d ih ih' =>
    rw [arrived_cons]
    split_ifs with hlost
    · have hnext := (hb.isolated s (by omega) hlost).next (by omega)
      rw [arrived_cons, if_neg (by simp [hnext]), List.length_cons]
      have := ih (s := s + 1 + 1) (by omega)
      omega
    · rw [List.length_cons]
      have := ih' (s := s + 1) (by omega)
      omega

/-- What is shown for frame `i`: its packet or, if that is lost, one that stands for it. -/
def Shows (b : Broadcast) (i : ℕ) (q : CustomJpegPacket) : Prop :=
  if b.lost i then StandsFor b.k b.packets q (b.first + i) else q = b.packet i

lemma shows_of_kept (hkept : b.lost i = false) : b.Shows i (b.packet i) := by
  rw [Shows, hkept]
  rfl

/-- The packets shown for the frames from the second one on. -/
lemma getElem?_shown {shown : List CustomJpegPacket}
    (hshown : List.Forall₂ b.Shows (List.range' 1 n) shown) (hpos : 0 < i) (hi : i ≤ n)
    (hkept : b.lost i = false) : shown[i - 1]? = some (b.packet i) := by
  have hlength := hshown.length_eq
  rw [List.length_range'] at hlength
  have hlt : i - 1 < shown.length := by omega
  have hshow := hshown.get (by rw [List.length_range']; omega) hlt
  rw [List.get_eq_getElem, List.get_eq_getElem, List.getElem_range', Nat.one_mul,
    Nat.add_sub_cancel' hpos, Shows, hkept] at hshow
  rw [List.getElem?_eq_getElem hlt]
  exact congrArg some hshow

/-! ### The FEC packet of a loss -/

/-- What is read of the datagram of a group. -/
lemma Repairable.groupRead (hb : b.Repairable) {fec : CustomFecPacket × Octets}
    (hfec : IsGroupDatagram b.k b.packets fec j) :
    GroupRead (Groups.group b.k.toNat j b.packets) (b.first + j * b.k.toNat) fec.1 fec.2 ∧
      (Groups.group b.k.toNat j b.packets).length = b.k.toNat := by
  obtain ⟨hpos, hle⟩ := hb.fits b.k rfl
  obtain ⟨hcomplete, ⟨number, hsent⟩, rest, hread⟩ := hfec
  refine ⟨?_, length_group hcomplete⟩
  rw [packets, length_sentPackets] at hcomplete
  rw [packets, group_sentPackets] at hsent ⊢
  exact groupRead_of_grammar hpos hle (hb.streamable.group hcomplete) (length_group hcomplete) hsent
    hread

/-- A datagram covers the packets of its group. -/
lemma Repairable.covers_iff (hb : b.Repairable) {fec : CustomFecPacket × Octets}
    (hfec : IsGroupDatagram b.k b.packets fec j) :
    fec.1.Covers ((b.first + i : ℕ) : ℤ) ↔ i / b.k.toNat = j := by
  obtain ⟨hpos, hle⟩ := hb.fits b.k rfl
  obtain ⟨hgroup, hlength⟩ := hb.groupRead hfec
  obtain ⟨level, hlevel, -, hmask⟩ := hgroup.level
  rw [hlength] at hmask
  unfold CustomFecPacket.Covers CustomFecPacket.InRange CustomFecPacket.seqI
  rw [hgroup.base]
  constructor
  · rintro ⟨⟨hlow, hhigh⟩, level', payload, hlevel', hbit⟩
    obtain ⟨rfl, -⟩ := Prod.mk.inj (Option.some.inj (hlevel.symm.trans hlevel'))
    rw [hmask _ (by omega)] at hbit
    have hplace := of_decide_eq_true hbit
    apply Nat.div_eq_of_lt_le
    · omega
    · rw [Nat.add_mul, Nat.one_mul]
      omega
  · rintro rfl
    have hmod := Nat.mod_lt i hpos
    have hdiv := Nat.div_add_mod' i b.k.toNat
    refine ⟨⟨by omega, by omega⟩, level, _, hlevel, ?_⟩
    rw [hmask _ (by omega)]
    exact decide_eq_true (by omega)

lemma mem_of_fromEnd {α : Type} {l : List α} {m : ℕ} {x : α} (h : fromEnd l m = some x) :
    x ∈ l := by
  unfold fromEnd at h
  split_ifs at h
  exact List.mem_of_getElem? h

/-- The newest datagram that covers a number is taken for it. -/
lemma exists_isTaken {fecBuffer : List (CustomFecPacket × Octets)} {number : ℤ}
    {fec : CustomFecPacket × Octets} (hfec : fec ∈ fecBuffer) (hcovers : fec.1.Covers number) :
    ∃ fec ∈ fecBuffer, ∃ level, IsTaken fecBuffer number fec level ∧ fec.1.Covers number := by
  classical
  obtain ⟨taken, htaken⟩ : ∃ taken,
      fecBuffer.reverse.find? (fun fec => decide (fec.1.Covers number)) = some taken := by
    apply Option.isSome_iff_exists.mp
    rw [List.find?_isSome]
    exact ⟨fec, List.mem_reverse.mpr hfec, decide_eq_true hcovers⟩
  obtain ⟨hdecide, newer, older, hsplit, hnewer⟩ := List.find?_eq_some_iff_append.mp htaken
  have hcovers' : taken.1.Covers number := of_decide_eq_true hdecide
  obtain ⟨hrange, level, payload, hlevel, hbit⟩ := hcovers'
  refine ⟨taken, List.mem_reverse.mp (List.mem_of_find?_eq_some htaken), level, ?_,
    of_decide_eq_true hdecide⟩
  refine ⟨⟨newer, older, hsplit, fun f hf => ?_⟩, hrange, ⟨payload, hlevel⟩, hbit⟩
  simpa using hnewer f hf

/-! ### The media packets of a recovery -/

lemma exists_media {buffer : List MediaPacket} {places : List (ℤ × ℤ)}
    (hplaces : ∀ place ∈ places, ∃ e, HasNumber buffer place e) :
    ∃ media, List.Forall₂ (HasNumber buffer) places media := by
  induction places with
  | nil => exact ⟨[], .nil⟩
  | cons place places ih =>
    obtain ⟨⟨e, he⟩, hplaces⟩ := List.forall_mem_cons.mp hplaces
    obtain ⟨media, hmedia⟩ := ih hplaces
    exact ⟨e :: media, .cons he hmedia⟩

section Recovery

variable {buffer : List MediaPacket} {moved shown : List CustomJpegPacket}

/-- A packet of the stream is found in the buffer. -/
lemma Repairable.exists_hasNumber (hb : b.Repairable) {stream : List CustomJpegPacket}
    (hstream : moved ++ buffer.map Prod.fst = stream) {m : ℕ} (hi : i < b.frames.length)
    (hpacket : stream[moved.length + m]? = some (b.packet i)) {place : ℤ × ℤ}
    (hplace : place = ((m : ℤ), ((b.first + i : ℕ) : ℤ))) : ∃ e, HasNumber buffer place e := by
  rw [← hstream, List.getElem?_append_right (Nat.le_add_right _ _), Nat.add_sub_cancel_left,
    List.getElem?_map, Option.map_eq_some_iff] at hpacket
  obtain ⟨e, he, hfst⟩ := hpacket
  refine ⟨e, ?_, ?_⟩
  · rw [hplace, atPlace, if_pos (Int.natCast_nonneg m), Int.toNat_natCast, he]
  · rw [hplace, hfst, hb.toNat_number hi]

/-- The other packets of the group of a loss are at their places when its gap is checked. -/
lemma Repairable.exists_place (hb : b.Repairable) (hi : i < b.frames.length)
    (hlost : b.lost i = true) (hshown : List.Forall₂ b.Shows (List.range' 1 (i - 1)) shown)
    (hstream : moved ++ buffer.map Prod.fst = shown ++ (b.arrived (i + 1) d).map b.packet)
    (hcount : (b.arrived (i + 1) d).length = mediaPacketDelay) (hfull : bufferSize ≤ buffer.length)
    {level : CustomFecLevelHeader} (hmask : ∀ v < 64, level.protects v = decide (v < b.k.toNat)) :
    ∀ place ∈ mediaPlaces level buffer.length ((b.first + i : ℕ) : ℤ) (i % b.k.toNat),
      ∃ e, HasNumber buffer place e := by
  obtain ⟨hlate, -, halone, hcomplete, -, -⟩ := hb.isolated i hi hlost
  have htwo := hb.two_le
  have htwenty := hb.le_twenty
  have hmod := Nat.mod_lt i (lt_of_lt_of_le two_pos htwo)
  have hdiv := Nat.div_add_mod' i b.k.toNat
  rw [Nat.add_mul, Nat.one_mul] at hcomplete
  have hgroup : ∀ v < b.k.toNat, v ≠ i % b.k.toNat →
      b.lost (i / b.k.toNat * b.k.toNat + v) = false := by
    intro v hv hne
    by_contra hlost'
    refine absurd (halone _ ?_ (by simpa using hlost')) (by omega)
    rw [Nat.mul_comm, Nat.mul_add_div (by omega), Nat.div_eq_of_lt hv, Nat.add_zero]
  have hshownLength := hshown.length_eq
  rw [List.length_range'] at hshownLength
  have hlength := congrArg List.length hstream
  rw [List.length_append, List.length_append, List.length_map, List.length_map, hcount] at hlength
  have hle := b.length_arrived_le (i + 1) d
  simp only [mediaPacketDelay, bufferSize] at hcount hfull hlength
  intro place hplace
  rcases mem_mediaPlaces.mp hplace with ⟨v, hv, hbit, hplace⟩ | ⟨v, hv, hle', hbit, hplace⟩
  · have hkept := hgroup v (by omega) hv.ne
    refine hb.exists_hasNumber hstream (m := buffer.length - 20 - i % b.k.toNat + v)
      (i := i / b.k.toNat * b.k.toNat + v) (by omega) ?_ ?_
    · have hindex : moved.length + (buffer.length - 20 - i % b.k.toNat + v) =
          i / b.k.toNat * b.k.toNat + v - 1 := by omega
      rw [hindex, List.getElem?_append_left (by omega)]
      exact getElem?_shown hshown (by omega) (by omega) hkept
    · rw [hplace, mediaPacketDelay]
      apply Prod.ext <;> dsimp only <;> omega
  · rw [hmask v (by omega)] at hbit
    have hvk := of_decide_eq_true hbit
    refine hb.exists_hasNumber hstream (m := buffer.length - 20 + (v - i % b.k.toNat - 1))
      (i := i / b.k.toNat * b.k.toNat + v) (by omega) ?_ ?_
    · have hindex : moved.length + (buffer.length - 20 + (v - i % b.k.toNat - 1)) - shown.length =
          v - i % b.k.toNat - 1 := by omega
      rw [List.getElem?_append_right (by omega), hindex, List.getElem?_map, getElem?_arrived]
      · rw [Option.map_some]
        congr 2
        omega
      · omega
      · intro x hx hx'
        have hkept := hgroup (x - i / b.k.toNat * b.k.toNat) (by omega) (by omega)
        rwa [Nat.add_sub_cancel' (by omega)] at hkept
    · rw [hplace, mediaPacketDelay]
      apply Prod.ext <;> dsimp only <;> omega

/-- The packet behind a loss closes the gap. -/
lemma Repairable.exists_closing (hb : b.Repairable) (hi : i + 1 < b.frames.length)
    (hnext : b.lost (i + 1) = false)
    (hstream : moved ++ buffer.map Prod.fst = shown ++ (b.arrived (i + 1) d).map b.packet)
    (hcount : (b.arrived (i + 1) d).length = mediaPacketDelay) (hd : 0 < d)
    (hfull : bufferSize ≤ buffer.length) :
    ∃ closing, fromEnd buffer mediaPacketDelay = some closing ∧
      (closing.1.number : ℤ) - 1 = ((b.first + i : ℕ) : ℤ) := by
  have hdelay : mediaPacketDelay ≤ buffer.length := le_trans (by decide) hfull
  have hlength := congrArg List.length hstream
  rw [List.length_append, List.length_append, List.length_map, List.length_map, hcount] at hlength
  have hfirst : (b.arrived (i + 1) d)[0]? = some (i + 1 + 0) := by
    apply getElem?_arrived hd
    intro x hx hx'
    obtain rfl : x = i + 1 := by omega
    exact hnext
  have hpacket : (shown ++ (b.arrived (i + 1) d).map b.packet)[moved.length +
      (buffer.length - mediaPacketDelay)]? = some (b.packet (i + 1)) := by
    have hindex : moved.length + (buffer.length - mediaPacketDelay) - shown.length = 0 := by
      omega
    rw [List.getElem?_append_right (by omega), hindex, List.getElem?_map, hfirst]
    rfl
  obtain ⟨closing, hplace, hnumber⟩ := hb.exists_hasNumber hstream hi hpacket rfl
  refine ⟨closing, ?_, ?_⟩
  · rw [fromEnd, if_pos hdelay]
    rw [atPlace, if_pos (Int.natCast_nonneg _), Int.toNat_natCast] at hplace
    exact hplace
  · unfold CustomJpegPacket.number
    dsimp only at hnumber
    omega

/-- The packet before those that wait is the one of the last frame that is complete. -/
lemma Repairable.exists_previous (hb : b.Repairable) (hn : n < b.frames.length) (hpos : 0 < n)
    (hkept : b.lost n = false) (hshown : List.Forall₂ b.Shows (List.range' 1 n) shown)
    {waiting : List CustomJpegPacket} (hstream : moved ++ buffer.map Prod.fst = shown ++ waiting)
    (hcount : waiting.length = mediaPacketDelay) (hfull : bufferSize ≤ buffer.length) :
    ∃ previous, fromEnd buffer (mediaPacketDelay + 1) = some previous ∧
      (previous.1.number : ℤ) = ((b.first + n : ℕ) : ℤ) := by
  have hdelay : mediaPacketDelay + 1 ≤ buffer.length := le_trans (by decide) hfull
  have hlength := congrArg List.length hstream
  rw [List.length_append, List.length_append, List.length_map, hcount] at hlength
  have hshownLength := hshown.length_eq
  rw [List.length_range'] at hshownLength
  have hpacket : (shown ++ waiting)[moved.length + (buffer.length - (mediaPacketDelay + 1))]? =
      some (b.packet n) := by
    have hindex : moved.length + (buffer.length - (mediaPacketDelay + 1)) = n - 1 := by omega
    rw [hindex, List.getElem?_append_left (by omega)]
    exact getElem?_shown hshown hpos le_rfl hkept
  obtain ⟨previous, hplace, hnumber⟩ := hb.exists_hasNumber hstream hn hpacket rfl
  refine ⟨previous, ?_, hnumber⟩
  rw [fromEnd, if_pos hdelay]
  rw [atPlace, if_pos (Int.natCast_nonneg _), Int.toNat_natCast] at hplace
  exact hplace

/-- The FEC packet of its group is there and is the one that is taken. -/
lemma Repairable.exists_groupDatagram (hb : b.Repairable) (hi : i < b.frames.length)
    (hlost : b.lost i = true) (hd : mediaPacketDelay ≤ d) (hd' : d ≤ 2 * mediaPacketDelay + 1)
    {fecBuffer : List (CustomFecPacket × Octets)}
    (hfecs : ∀ fec ∈ fecBuffer, ∃ k ∈ some b.k, ∃ j, IsGroupDatagram k b.packets fec j)
    (hholds : b.HoldsFecs ((i + d) / b.k.toNat) fecBuffer) :
    ∃ fec level, IsTaken fecBuffer ((b.first + i : ℕ) : ℤ) fec level ∧
      IsGroupDatagram b.k b.packets fec (i / b.k.toNat) := by
  have hloss := hb.isolated i hi hlost
  have hpos : 0 < b.k.toNat := lt_of_lt_of_le two_pos hb.two_le
  have htwenty := hb.le_twenty
  have hdiv := Nat.div_add_mod' i b.k.toNat
  have hmod := Nat.mod_lt i hpos
  simp only [mediaPacketDelay] at hd hd'
  have hlt : i / b.k.toNat < (i + d) / b.k.toNat := by
    rw [Nat.lt_iff_add_one_le, Nat.le_div_iff_mul_le hpos, Nat.add_mul, Nat.one_mul]
    omega
  have hfew : (i + d) / b.k.toNat ≤ i / b.k.toNat + bufferSize := by
    have hstep : i + d ≤ i + bufferSize * b.k.toNat := by
      have hmany := Nat.mul_le_mul_left bufferSize hb.two_le
      simp only [bufferSize] at hmany ⊢
      omega
    have hgroups := Nat.div_le_div_right (c := b.k.toNat) hstep
    rwa [Nat.add_mul_div_right _ _ hpos] at hgroups
  have hbounds := (b.fecsSent_bounds (i / b.k.toNat) ((i + d) / b.k.toNat - i / b.k.toNat)).2
  rw [Nat.add_sub_cancel' hlt.le] at hbounds
  obtain ⟨fec, hfec, hgroup⟩ := hholds _ hlt hloss.fecSent hloss.validated (by omega)
  obtain ⟨taken, hmem, level, htaken, hcovers⟩ :=
    exists_isTaken (mem_of_fromEnd hfec) ((hb.covers_iff hgroup).mpr rfl)
  obtain ⟨_, ⟨⟩, j, hdatagram⟩ := hfecs taken hmem
  obtain rfl := (hb.covers_iff hdatagram).mp hcovers
  exact ⟨taken, level, htaken, hdatagram⟩

/-- The gap of an isolated loss is closed. -/
lemma Repairable.exists_recovered (hb : b.Repairable) (hi : i < b.frames.length)
    (hlost : b.lost i = true) (hshown : List.Forall₂ b.Shows (List.range' 1 (i - 1)) shown)
    (hstream : moved ++ buffer.map Prod.fst = shown ++ (b.arrived (i + 1) d).map b.packet)
    (hcount : (b.arrived (i + 1) d).length = mediaPacketDelay) (hfull : bufferSize ≤ buffer.length)
    (ha : i + d < b.frames.length) (hbuffer : ∀ e ∈ buffer, Authentic b.packets e)
    {fecBuffer : List (CustomFecPacket × Octets)}
    (hfecs : ∀ fec ∈ fecBuffer, ∃ k ∈ some b.k, ∃ j, IsGroupDatagram k b.packets fec j)
    (hholds : b.HoldsFecs ((i + d) / b.k.toNat) fecBuffer) :
    ∃ q, recoveredPacket buffer fecBuffer = .ok (some q) ∧
      StandsFor b.k b.packets q.1 (b.first + i) := by
  have hloss := hb.isolated i hi hlost
  have hpos : 0 < b.k.toNat := lt_of_lt_of_le two_pos hb.two_le
  have hdiv := Nat.div_add_mod' i b.k.toNat
  have hd := b.length_arrived_le (i + 1) d
  have hd' := hb.le_arrived (s := i + 1) (d := d) (by omega)
  rw [hcount] at hd hd'
  have hdpos : 0 < d := lt_of_lt_of_le (by decide) hd
  obtain ⟨closing, hclosing, hnumber⟩ := hb.exists_closing (by omega) (hloss.next (by omega))
    hstream hcount hdpos hfull
  obtain ⟨fec, level, htaken, hdatagram⟩ :=
    hb.exists_groupDatagram hi hlost hd hd' hfecs hholds
  obtain ⟨hread, hgroupLength⟩ := hb.groupRead hdatagram
  obtain ⟨level', hlevel', hprotection, hmask⟩ := hread.level
  obtain ⟨payload, hlevel⟩ := htaken.first
  obtain ⟨rfl, -⟩ := Prod.mk.inj (Option.some.inj (hlevel.symm.trans hlevel'))
  rw [hgroupLength] at hmask
  have hlevels : HasLevels fecBuffer ((b.first + i : ℕ) : ℤ) := by
    rintro fec ⟨newer, older, hsplit, -⟩ -
    have hfec : fec ∈ fecBuffer := by
      rw [← List.mem_reverse, hsplit]
      exact List.mem_append_right _ List.mem_cons_self
    obtain ⟨_, ⟨⟩, j, hdatagram⟩ := hfecs fec hfec
    exact (hb.groupRead hdatagram).1.levels_ne_nil
  have hplace : fec.1.seqI ((b.first + i : ℕ) : ℤ) = i % b.k.toNat := by
    rw [CustomFecPacket.seqI, hread.base]
    omega
  obtain ⟨media, hmedia⟩ :=
    exists_media (hb.exists_place hi hlost hshown hstream hcount hfull hmask)
  have hcombines : Combines buffer fecBuffer ((b.first + i : ℕ) : ℤ) fec media :=
    ⟨level, htaken, by rwa [hplace]⟩
  have hnumbers : ((b.first + i : ℕ) : ℤ) =
      ((b.first + i / b.k.toNat * b.k.toNat : ℕ) : ℤ) + (i % b.k.toNat : ℕ) := by
    omega
  rw [hnumbers] at hmedia
  obtain ⟨before, lost, after, hsplit, -, rfl⟩ := media_of_group hb.streamable hbuffer
    hloss.complete (hb.le_twenty.trans (by decide)) (Nat.mod_lt i hpos) hmask hmedia
  have hg := hb.group hloss.complete
  have hmax := hb.maxLength_lt (j := i / b.k.toNat)
  rw [packets, hsplit] at hg hmax hread
  obtain ⟨level', hlevel', hprotection', -⟩ := hread.level
  obtain ⟨base, mask, hpayload⟩ := hread.payload
  obtain ⟨packet, hpacket, -⟩ := (fecReconstruction_spec hg hpayload hread.csrc hlevel').2
    (hprotection'.trans (Nat.mod_eq_of_lt hmax))
  rw [← hnumber] at hlevels hcombines
  have hrecovered := recoveredPacket_of_combines hclosing hlevels hcombines
  rw [hpacket] at hrecovered
  obtain ⟨_, ⟨⟩, hstands⟩ := recoveredPacket_standsFor hb.fits hb.streamable hbuffer hfecs hclosing
    hrecovered
  refine ⟨removePadding packet, hrecovered, ?_⟩
  have hbefore : closing.1.number - 1 = b.first + i := by omega
  rwa [hbefore] at hstands

end Recovery

/-! ### The packets shown and to be shown -/

/-- How far the incoming buffer is filled when `count` packets were accepted. -/
structure Filled (r : Receiver) (count : ℕ) : Prop where
  moved : (r.shown ++ r.jpegPacketFrameBuffer).length = count - (bufferSize - 1)
  filling : count < bufferSize → r.jpegPacketIncomingBuffer.length = count
  full : bufferSize ≤ count + 1 → bufferSize ≤ r.jpegPacketIncomingBuffer.length + 1

/-- The receiver when the packets before `a` were sent and it has accepted `count` of them: those
for the frames up to `n` are complete, and the next `d` wait for their gaps to be checked. -/
structure InStep (b : Broadcast) (a n d : ℕ) (shown : List CustomJpegPacket) (r : Receiver)
    (count : ℕ) : Prop where
  place : a = n + 1 + d ∨ a = 0 ∧ n = 0 ∧ d = 0
  stream : r.stream = shown ++ (b.arrived (n + 1) d).map b.packet
  shows : List.Forall₂ b.Shows (List.range' 1 n) shown
  kept : 0 < n → b.lost n = false
  waiting : (b.arrived (n + 1) d).length + 1 = mediaPacketDelay ∨
    n = 0 ∧ (b.arrived (n + 1) d).length + 1 < mediaPacketDelay
  filled : Filled r count
  uncorrectable : r.uncorrectable = 0

section Receiving

variable {shown : List CustomJpegPacket} {r r' : Receiver} {count : ℕ} {u : SequenceUtility}

lemma Filled.append (h : Filled r count) (u : SequenceUtility) (packet : MediaPacket)
    (hshort : r.jpegPacketIncomingBuffer.length + 1 < bufferSize) :
    Filled (r.append u packet) (count + 1) := by
  obtain ⟨hmoved, hfilling, hfull⟩ := h
  have hbuffer : (r.append u packet).jpegPacketIncomingBuffer.length =
      r.jpegPacketIncomingBuffer.length + 1 := List.length_append
  have hcount : count + 1 < bufferSize :=
    not_le.mp fun hle => absurd (hfull hle) (not_le.mpr hshort)
  refine ⟨?_, fun _ => ?_, fun hle => ?_⟩
  · refine hmoved.trans ?_
    simp only [bufferSize] at hcount ⊢
    omega
  · rw [hbuffer, hfilling (Nat.lt_of_succ_lt hcount)]
  · rw [hbuffer, hfilling (Nat.lt_of_succ_lt hcount)]
    exact hle

/-- With a full buffer a packet moves on for each that is accepted. -/
lemma Filled.moveFront (h : Filled r count)
    (hfull : bufferSize ≤ r.jpegPacketIncomingBuffer.length + 1)
    (hmoved : r'.shown ++ r'.jpegPacketFrameBuffer = r.shown ++ r.jpegPacketFrameBuffer)
    (hbuffer : r.jpegPacketIncomingBuffer.length + 1 ≤ r'.jpegPacketIncomingBuffer.length) :
    Filled r'.moveFront (count + 1) := by
  have hcount : bufferSize ≤ count + 1 := by
    by_contra hlt
    rw [h.filling (Nat.lt_of_succ_lt (not_le.mp hlt))] at hfull
    exact hlt hfull
  have hle := hfull.trans hbuffer
  unfold Receiver.moveFront
  cases hcons : r'.jpegPacketIncomingBuffer with
  | nil =>
    rw [hcons] at hle
    cases hle
  | cons e buffer =>
    rw [hcons, List.length_cons] at hle
    refine ⟨?_, fun hlt => absurd hcount (not_le.mpr hlt), fun _ => hle⟩
    dsimp only
    rw [← List.append_assoc, List.length_append, hmoved, h.moved, List.length_singleton]
    simp only [bufferSize] at hcount ⊢
    omega

namespace InStep

lemma start (b : Broadcast) (r : Receiver) (hstream : r.stream = [])
    (huncorrectable : r.uncorrectable = 0) : b.InStep 0 0 0 [] r 0 := by
  have hempty := hstream
  rw [Receiver.stream, List.append_eq_nil_iff, List.map_eq_nil_iff] at hempty
  refine ⟨Or.inr ⟨rfl, rfl, rfl⟩, hstream, .nil, fun h => ?_, Or.inr ⟨rfl, ?_⟩, ⟨?_, ?_, ?_⟩,
    huncorrectable⟩
  · cases h
  · exact Nat.lt_of_le_of_lt (Nat.succ_le_succ (b.length_arrived_le 1 0)) (by decide)
  · rw [hempty.1]
    rfl
  · rw [hempty.2]
    exact fun _ => rfl
  · intro h
    cases h with | step h => cases h

/-- The first packet only starts the sequence. -/
lemma first (h : b.InStep 0 n d shown r count) : b.InStep 1 n d shown r count := by
  obtain ⟨hplace, hstream, hshows, hkept, hwaiting, hfilled, huncorrectable⟩ := h
  exact ⟨Or.inl (by omega), hstream, hshows, hkept, hwaiting, hfilled, huncorrectable⟩

/-- A packet that is lost is not missed yet. -/
lemma skip (h : b.InStep a n d shown r count) (ha : 0 < a) (hlost : b.lost a = true) :
    b.InStep (a + 1) n (d + 1) shown r count := by
  obtain ⟨hplace, hstream, hshows, hkept, hwaiting, hfilled, huncorrectable⟩ := h
  have hnext : n + 1 + d = a := by omega
  have hsame : b.arrived (n + 1) (d + 1) = b.arrived (n + 1) d := by
    rw [arrived_concat, hnext, if_pos hlost, List.append_nil]
  refine ⟨Or.inl (by omega), ?_, hshows, hkept, ?_, hfilled, huncorrectable⟩
  · rw [hsame, hstream]
  · rwa [hsame]

/-- What matters of the receiver. -/
lemma congr (h : b.InStep a n d shown r count) (hshown : r'.stream = r.stream)
    (hmoved : (r'.shown ++ r'.jpegPacketFrameBuffer).length =
      (r.shown ++ r.jpegPacketFrameBuffer).length)
    (hbuffer : r'.jpegPacketIncomingBuffer.length = r.jpegPacketIncomingBuffer.length)
    (huncorrectable : r'.uncorrectable = r.uncorrectable) :
    b.InStep a n d shown r' count where
  place := h.place
  stream := hshown.trans h.stream
  shows := h.shows
  kept := h.kept
  waiting := h.waiting
  filled := ⟨hmoved.trans h.filled.moved, fun hlt => hbuffer.trans (h.filled.filling hlt),
    fun hle => hbuffer ▸ h.filled.full hle⟩
  uncorrectable := huncorrectable.trans h.uncorrectable

/-- The packets that wait when packet `a` has got to them. -/
lemma waiting_cases (hb : b.Repairable) (h : b.InStep a n d shown r count) (ha : 0 < a)
    (hlt : a < b.frames.length) (hkept : b.lost a = false) :
    b.arrived (n + 1) (d + 1) = b.arrived (n + 1) d ++ [a] ∧
      (n = 0 ∧ (b.arrived (n + 1) (d + 1)).length < mediaPacketDelay ∨
      (b.arrived (n + 1) (d + 1)).length = mediaPacketDelay ∧
        (b.lost (n + 1) = false ∧ b.arrived (n + 1) (d + 1) = (n + 1) :: b.arrived (n + 2) d ∨
        b.lost (n + 1) = true ∧ ∃ d', d = d' + 1 ∧ b.lost (n + 2) = false ∧
          b.arrived (n + 1) (d + 1) = b.arrived (n + 2) (d' + 1) ∧
          b.arrived (n + 2) (d' + 1) = (n + 2) :: b.arrived (n + 3) d')) := by
  have hnext : n + 1 + d = a := by
    rcases h.place with hplace | ⟨hzero, -⟩
    · exact hplace.symm
    · omega
  have hconcat : b.arrived (n + 1) (d + 1) = b.arrived (n + 1) d ++ [a] := by
    rw [arrived_concat, hnext, hkept]
    rfl
  have hlength : (b.arrived (n + 1) (d + 1)).length = (b.arrived (n + 1) d).length + 1 := by
    rw [hconcat, List.length_append, List.length_singleton]
  refine ⟨hconcat, ?_⟩
  rcases h.waiting with hwaiting | ⟨hzero, hwaiting⟩
  · refine Or.inr ⟨hlength.trans hwaiting, ?_⟩
    cases hlost : b.lost (n + 1) with
    | false => exact Or.inl ⟨rfl, by rw [arrived_cons, hlost]; rfl⟩
    | true =>
      have hsame : b.arrived (n + 1) (d + 1) = b.arrived (n + 2) d := by
        rw [arrived_cons, if_pos hlost]
      have hd := b.length_arrived_le (n + 2) d
      rw [← hsame, hlength, hwaiting] at hd
      obtain ⟨d', rfl⟩ := Nat.exists_eq_add_one_of_ne_zero (n := d) (by
        rintro rfl
        cases hd)
      have hnext := (hb.isolated (n + 1) (by omega) hlost).next (by omega)
      refine Or.inr ⟨rfl, d', rfl, hnext, hsame, ?_⟩
      rw [arrived_cons, hnext]
      rfl
  · exact Or.inl ⟨hzero, hlength ▸ hwaiting⟩

lemma shows_concat {q : CustomJpegPacket} (h : List.Forall₂ b.Shows (List.range' 1 n) shown)
    (hq : b.Shows (n + 1) q) : List.Forall₂ b.Shows (List.range' 1 (n + 1)) (shown ++ [q]) := by
  rw [List.range'_1_concat, Nat.add_comm 1 n]
  exact List.rel_append h (.cons hq .nil)

/-- The next frame is complete with its packet. -/
lemma advance (h : b.InStep a n d shown r count) (ha : 0 < a) (hkept : b.lost (n + 1) = false)
    (hlength : (b.arrived (n + 1) (d + 1)).length = mediaPacketDelay)
    (hfirst : b.arrived (n + 1) (d + 1) = (n + 1) :: b.arrived (n + 2) d)
    (hstream : r'.stream = shown ++ (b.arrived (n + 1) (d + 1)).map b.packet)
    (hfilled : Filled r' (count + 1)) (huncorrectable : r'.uncorrectable = 0) :
    b.InStep (a + 1) (n + 1) d (shown ++ [b.packet (n + 1)]) r' (count + 1) where
  place := by
    have := h.place
    omega
  stream := by rw [hstream, hfirst, List.map_cons, List.append_cons]
  shows := shows_concat h.shows (shows_of_kept hkept)
  kept _ := hkept
  waiting := by
    rw [hfirst, List.length_cons] at hlength
    exact Or.inl hlength
  filled := hfilled
  uncorrectable := huncorrectable

/-- The next two frames are complete with a recovered packet and the one behind it. -/
lemma advance_recovered (h : b.InStep a n (d + 1) shown r count) (ha : 0 < a)
    (hlost : b.lost (n + 1) = true) (hkept : b.lost (n + 2) = false)
    (hlength : (b.arrived (n + 2) (d + 1)).length = mediaPacketDelay)
    (hfirst : b.arrived (n + 2) (d + 1) = (n + 2) :: b.arrived (n + 3) d) {q : CustomJpegPacket}
    (hq : StandsFor b.k b.packets q (b.first + (n + 1)))
    (hstream : r'.stream = shown ++ q :: (b.arrived (n + 2) (d + 1)).map b.packet)
    (hfilled : Filled r' (count + 1)) (huncorrectable : r'.uncorrectable = 0) :
    b.InStep (a + 1) (n + 2) d ((shown ++ [q]) ++ [b.packet (n + 2)]) r' (count + 1) where
  place := by
    have := h.place
    omega
  stream := by
    rw [hstream, hfirst, List.map_cons, ← List.append_cons, ← List.append_cons]
  shows := shows_concat (shows_concat h.shows (by rwa [Shows, if_pos hlost])) (shows_of_kept hkept)
  kept _ := hkept
  waiting := by
    rw [hfirst, List.length_cons] at hlength
    exact Or.inl hlength
  filled := hfilled
  uncorrectable := huncorrectable

/-- As long as the buffer is not full, no gap is checked, and there is none. -/
lemma append (hb : b.Repairable) (h : b.InStep a n d shown r count) (ha : 0 < a)
    (hlt : a < b.frames.length) (hkept : b.lost a = false)
    (hshort : r.jpegPacketIncomingBuffer.length + 1 < bufferSize) (u : SequenceUtility)
    (message : Octets) :
    ∃ n d shown, b.InStep (a + 1) n d shown (r.append u (b.packet a, message)) (count + 1) := by
  have hfilled := h.filled.append u (b.packet a, message) hshort
  obtain ⟨hconcat, hcases⟩ := h.waiting_cases hb ha hlt hkept
  have hstream : (r.append u (b.packet a, message)).stream =
      shown ++ (b.arrived (n + 1) (d + 1)).map b.packet := by
    rw [hconcat, List.map_append, ← List.append_assoc, ← h.stream]
    simp [Receiver.stream, Receiver.append]
  rcases hcases with ⟨hzero, hfew⟩ | ⟨hlength, ⟨hfirstKept, hfirst⟩ | ⟨hlost, -⟩⟩
  · refine ⟨n, d + 1, shown, Or.inl ?_, hstream, h.shows, h.kept, ?_, hfilled, h.uncorrectable⟩
    · have := h.place
      omega
    · exact (Nat.succ_le_of_lt hfew).eq_or_lt.imp_right fun hfew => ⟨hzero, hfew⟩
  · exact ⟨_, _, _, h.advance ha hfirstKept hlength hfirst hstream hfilled h.uncorrectable⟩
  · have hplace := h.place
    have hlate := (hb.isolated (n + 1) (by omega) hlost).full
    have hmoved := h.filled.moved
    have hshown := h.shows.length_eq
    have htotal := congrArg List.length h.stream
    have hcount := not_le.mp fun hle => absurd (h.filled.full hle) (not_le.mpr hshort)
    rw [hconcat, List.length_append, List.length_singleton] at hlength
    rw [List.length_range'] at hshown
    rw [Receiver.stream, List.length_append, @List.length_append _ shown, List.length_map,
      List.length_map, hmoved] at htotal
    simp only [bufferSize, mediaPacketDelay] at hcount hshort hlength htotal
    omega

lemma uncorrectable_moveFront (r : Receiver) : r.moveFront.uncorrectable = r.uncorrectable := by
  unfold Receiver.moveFront
  cases r.jpegPacketIncomingBuffer <;> rfl

/-- A packet that is inserted before the last entries. -/
lemma insertIdx_before {α : Type} {xs ys zs ws : List α} (h : xs ++ ys = zs ++ ws)
    (hle : ws.length ≤ ys.length) (q : α) :
    xs ++ ys.insertIdx (ys.length - ws.length) q = zs ++ q :: ws := by
  obtain ⟨mid, rfl, rfl⟩ : ∃ mid, zs = xs ++ mid ∧ ys = mid ++ ws := by
    rcases List.append_eq_append_iff.mp h with ⟨mid, rfl, rfl⟩ | ⟨mid, rfl, rfl⟩
    · exact ⟨mid, rfl, rfl⟩
    · rw [List.length_append] at hle
      obtain rfl : mid = [] := List.length_eq_zero_iff.mp (by omega)
      exact ⟨[], by simp, by simp⟩
  rw [List.length_append, Nat.add_sub_cancel, insertIdx_append, List.append_assoc]

/-- The receiver `r` with a full buffer has put packet `a` into it, and the gap is checked next. -/
structure GapPending (b : Broadcast) (n d : ℕ) (shown : List CustomJpegPacket)
    (r r₁ : Receiver) : Prop where
  stream : r₁.stream = shown ++ (b.arrived (n + 1) (d + 1)).map b.packet
  full : bufferSize ≤ r₁.jpegPacketIncomingBuffer.length
  buffer : r₁.jpegPacketIncomingBuffer.length = r.jpegPacketIncomingBuffer.length + 1
  moved : r₁.shown ++ r₁.jpegPacketFrameBuffer = r.shown ++ r.jpegPacketFrameBuffer
  uncorrectable : r₁.uncorrectable = 0

lemma gapPending (h : b.InStep a n d shown r count)
    (hconcat : b.arrived (n + 1) (d + 1) = b.arrived (n + 1) d ++ [a])
    (hfull : bufferSize ≤ r.jpegPacketIncomingBuffer.length + 1) (u : SequenceUtility)
    (message : Octets) : GapPending b n d shown r (r.append u (b.packet a, message)) where
  stream := by
    rw [hconcat, List.map_append, ← List.append_assoc, ← h.stream]
    simp [Receiver.stream, Receiver.append]
  full := by
    rw [Receiver.append, List.length_append]
    exact hfull
  buffer := List.length_append
  moved := rfl
  uncorrectable := h.uncorrectable

/-- Packets have moved on from a full buffer. -/
lemma pos_of_gapPending (h : b.InStep a n d shown r count) (hr : GapPending b n d shown r r')
    (hle : (b.arrived (n + 1) (d + 1)).length ≤ mediaPacketDelay) : 0 < n := by
  have hshown := h.shows.length_eq
  have htotal := congrArg List.length hr.stream
  have hfull := hr.full
  rw [List.length_range'] at hshown
  rw [Receiver.stream, List.length_append, @List.length_append _ shown, List.length_map,
    List.length_map] at htotal
  simp only [bufferSize, mediaPacketDelay] at hfull hle
  omega

/-- The packet before the gap is that of the last frame that is complete. -/
lemma exists_previous (hb : b.Repairable) (h : b.InStep a n d shown r count)
    (hr : GapPending b n d shown r r') (hn : n < b.frames.length) (hpos : 0 < n)
    (hlength : (b.arrived (n + 1) (d + 1)).length = mediaPacketDelay) :
    ∃ previous, fromEnd r'.jpegPacketIncomingBuffer (mediaPacketDelay + 1) = some previous ∧
      (previous.1.number : ℤ) = ((b.first + n : ℕ) : ℤ) :=
  hb.exists_previous hn hpos (h.kept hpos) h.shows hr.stream (by rw [List.length_map, hlength])
    hr.full

/-- Where the next packet is there, no gap is found. -/
lemma close_kept (hb : b.Repairable) (h : b.InStep a n d shown r count) (ha : 0 < a)
    (hlt : a < b.frames.length) (hr : GapPending b n d shown r r') (hpos : 0 < n)
    (hlength : (b.arrived (n + 1) (d + 1)).length = mediaPacketDelay)
    (hkept : b.lost (n + 1) = false)
    (hfirst : b.arrived (n + 1) (d + 1) = (n + 1) :: b.arrived (n + 2) d) :
    r'.closeGap = (r', none) ∧
      b.InStep (a + 1) (n + 1) d (shown ++ [b.packet (n + 1)]) r'.moveFront (count + 1) := by
  have hplace := h.place
  obtain ⟨previous, hprevious, hpreviousNumber⟩ :=
    exists_previous hb h hr (by omega) hpos hlength
  obtain ⟨closing, hclosing, hclosingNumber⟩ :=
    hb.exists_closing (by omega) hkept hr.stream hlength (Nat.succ_pos d) hr.full
  have hgap := Receiver.gap_eq hclosing hprevious
  unfold CustomJpegPacket.number at hpreviousNumber hclosingNumber
  refine ⟨Receiver.closeGap_of_lt hgap (by omega), h.advance ha hkept hlength hfirst
    ((Receiver.stream_moveFront r').trans hr.stream) ?_ ?_⟩
  · exact h.filled.moveFront (hr.buffer ▸ hr.full) hr.moved hr.buffer.ge
  · rw [uncorrectable_moveFront, hr.uncorrectable]

/-- Where the next packet is lost, one that stands for it closes the gap. -/
lemma close_lost (hb : b.Repairable) (h : b.InStep a n (d + 1) shown r count) (ha : 0 < a)
    (hlt : a < b.frames.length) (hr : GapPending b n (d + 1) shown r r') (hpos : 0 < n)
    (hlength : (b.arrived (n + 1) (d + 2)).length = mediaPacketDelay)
    (hlost : b.lost (n + 1) = true) (hkept : b.lost (n + 2) = false)
    (hsame : b.arrived (n + 1) (d + 2) = b.arrived (n + 2) (d + 1))
    (hfirst : b.arrived (n + 2) (d + 1) = (n + 2) :: b.arrived (n + 3) d)
    (hmovie : HoldsMovie b.ssrc b.first b.frames (some b.k) r')
    (hholds : b.HoldsFecs (a / b.k.toNat) r'.fecPacketIncomingBuffer) :
    ∃ r₂, r'.closeGap = (r₂, none) ∧ ∃ q,
      b.InStep (a + 1) (n + 2) d ((shown ++ [q]) ++ [b.packet (n + 2)]) r₂.moveFront
        (count + 1) := by
  have hplace := h.place
  have hstream := hr.stream
  obtain ⟨previous, hprevious, hpreviousNumber⟩ :=
    exists_previous hb h hr (by omega) hpos hlength
  rw [hsame] at hstream hlength
  obtain ⟨closing, hclosing, hclosingNumber⟩ :=
    hb.exists_closing (by omega) hkept hstream hlength (Nat.succ_pos d) hr.full
  unfold CustomJpegPacket.number at hpreviousNumber hclosingNumber
  have hgap : gap r'.jpegPacketIncomingBuffer = some 2 := by
    rw [Receiver.gap_eq hclosing hprevious]
    congr 1
    omega
  have hnumber : n + 1 + (d + 1) = a := by omega
  rw [← hnumber] at hholds
  obtain ⟨q, hq, hstands⟩ := hb.exists_recovered (by omega) hlost h.shows hstream hlength hr.full
    (by omega) hmovie.buffer hmovie.fecs hholds
  have hclose := Receiver.closeGap_of_eq hgap
  rw [hq] at hclose
  refine ⟨_, hclose, q.1, h.advance_recovered ha hlost hkept hlength hfirst hstands ?_ ?_ ?_⟩
  · rw [Receiver.stream_moveFront]
    have hinserted := insertIdx_before hstream (by
      rw [List.length_map, List.length_map, hlength]
      exact le_trans (by decide) hr.full) q.1
    rw [List.length_map, List.length_map, hlength] at hinserted
    rw [← hinserted, Receiver.stream, List.map_insertIdx]
  · refine h.filled.moveFront (hr.buffer ▸ hr.full) hr.moved ?_
    rw [List.length_insertIdx_of_le_length (Nat.sub_le _ _), hr.buffer]
    exact Nat.le_succ _
  · rw [uncorrectable_moveFront]
    exact hr.uncorrectable

/-- With a full buffer the gap of a loss is closed, and there is no other. -/
lemma close (hb : b.Repairable) (h : b.InStep a n d shown r count) (ha : 0 < a)
    (hlt : a < b.frames.length) (hkept : b.lost a = false)
    (hfull : bufferSize ≤ r.jpegPacketIncomingBuffer.length + 1) {message : Octets}
    (hmovie : HoldsMovie b.ssrc b.first b.frames (some b.k)
      (r.append u (b.packet a, message)))
    (hholds : b.HoldsFecs (a / b.k.toNat) r.fecPacketIncomingBuffer) :
    ∃ r', (r.append u (b.packet a, message)).closeGap = (r', none) ∧
      ∃ n d shown, b.InStep (a + 1) n d shown r'.moveFront (count + 1) := by
  obtain ⟨hconcat, hcases⟩ := h.waiting_cases hb ha hlt hkept
  have hr := h.gapPending hconcat hfull u message
  have hle : (b.arrived (n + 1) (d + 1)).length ≤ mediaPacketDelay :=
    hcases.elim (fun hfew => hfew.2.le) fun hcases => hcases.1.le
  have hpos := h.pos_of_gapPending hr hle
  rcases hcases with ⟨rfl, -⟩ | ⟨hlength, ⟨hnext, hfirst⟩ | ⟨hlost, d, rfl, hnext, hsame, hfirst⟩⟩
  · cases hpos
  · obtain ⟨hclose, hstep⟩ := close_kept hb h ha hlt hr hpos hlength hnext hfirst
    exact ⟨_, hclose, _, _, _, hstep⟩
  · obtain ⟨r', hclose, q, hstep⟩ :=
      close_lost hb h ha hlt hr hpos hlength hlost hnext hsame hfirst hmovie hholds
    exact ⟨r', hclose, _, _, _, hstep⟩

end InStep

end Receiving

end Broadcast

end Rtp
