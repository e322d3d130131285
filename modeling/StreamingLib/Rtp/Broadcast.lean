import StreamingLib.Rtp.MediaLink
import StreamingLib.Rtp.SequenceUnwrapping

/-!
# Losses of the simulated channel

The channel simulation of the sender drops media packets and FEC packets. The losses here are
isolated: a group loses one packet at most, and its FEC packet arrives. This module is about how the
two sequence utilities of the receiver follow the numbers that are left, and which FEC packets it
holds.
-/

namespace Rtp

open Groups

/-! ### The channel -/

/-- A movie, and the draws of the channel simulation while it is sent. -/
structure Broadcast where
  ssrc : UInt32
  frames : List Octets
  k : UInt16
  sequenceNumber : UInt16
  firstFec : UInt16
  draws : List (Bool × Bool)

namespace Broadcast

variable {b : Broadcast} {a g h i j : ℕ} {utility : Option SequenceUtility}

def first (b : Broadcast) : ℕ := b.sequenceNumber.toNat

def packets (b : Broadcast) : List CustomJpegPacket := sentPackets b.ssrc b.first b.frames

/-- The packet of frame `i`. -/
def packet (b : Broadcast) (i : ℕ) : CustomJpegPacket :=
  sentPacket b.ssrc (UInt16.ofNat (b.first + i)) (b.frames.getD i [])

/-- The channel simulation drops packet `i`. -/
def lost (b : Broadcast) (i : ℕ) : Bool := b.draws[i]?.any (·.1)

/-- The channel simulation drops the FEC packet of group `j`. -/
def fecLost (b : Broadcast) (j : ℕ) : Bool := b.draws[(j + 1) * b.k.toNat - 1]?.any (·.2)

/-- How many FEC packets of the first `j` groups are sent. -/
def fecsSent (b : Broadcast) (j : ℕ) : ℕ := (List.range j).countP fun j => !b.fecLost j

/-- Packet `i` is the only one of its group that is lost, and the next one is not. The FEC packet of
the group is sent. The buffer of the receiver is full by then, and its utilities have seen enough
packets. -/
structure IsolatedLoss (b : Broadcast) (i : ℕ) : Prop where
  full : 31 ≤ i
  next : i + 1 < b.frames.length → b.lost (i + 1) = false
  alone : ∀ l, l / b.k.toNat = i / b.k.toNat → b.lost l = true → l = i
  complete : (i / b.k.toNat + 1) * b.k.toNat ≤ b.frames.length
  fecSent : b.fecLost (i / b.k.toNat) = false
  validated : 2 ≤ b.fecsSent (i / b.k.toNat)

/-- A movie with isolated losses, whose frames fit into a datagram. -/
structure Repairable (b : Broadcast) : Prop where
  two_le : 2 ≤ b.k.toNat
  le_twenty : b.k.toNat ≤ 20
  streamable : Streamable b.first b.frames
  fitsDatagram : ∀ frame ∈ b.frames, frame.length ≤ 65487
  isolated : ∀ i < b.frames.length, b.lost i = true → b.IsolatedLoss i

lemma getElem?_packets (hi : i < b.frames.length) : b.packets[i]? = some (b.packet i) := by
  rw [packets, getElem?_sentPackets, packet, List.getD_eq_getElem _ _ hi,
    List.getElem?_eq_getElem hi]
  rfl

lemma packet_mem (hi : i < b.frames.length) : b.packet i ∈ b.packets :=
  List.mem_of_getElem? (getElem?_packets hi)

lemma Repairable.fits (hb : b.Repairable) : FitsMask (some b.k) := by
  rintro _ ⟨⟩
  exact ⟨le_trans (by decide) hb.two_le, hb.le_twenty.trans (by decide)⟩

lemma Repairable.toNat_number (hb : b.Repairable) (hi : i < b.frames.length) :
    (b.packet i).header.sequenceNumber.toNat = b.first + i := by
  have hwrap := hb.streamable.no_wrap
  exact UInt16.toNat_ofNat_of_lt' (lt_of_lt_of_le (Nat.add_lt_add_left hi _) hwrap)

/-! ### Numbers of the media packets -/

/-- What a sequence utility holds when the packets before number `a` were sent. -/
inductive Follows (b : Broadcast) : ℕ → Option SequenceUtility → Prop
  | start : b.Follows 0 none
  | probation (u : SequenceUtility) (hprobation : u.probation = 1)
      (hmax : u.maxSeq.toNat = b.first) : b.Follows 1 (some u)
  | valid (u : SequenceUtility) (last : ℕ) (hlast : 0 < last) (hprobation : u.probation = 0)
      (hmax : u.maxSeq.toNat = b.first + last) : b.Follows (last + 1) (some u)
  | gap (u : SequenceUtility) (last : ℕ) (hlast : 0 < last) (hprobation : u.probation = 0)
      (hmax : u.maxSeq.toNat = b.first + last) (hlost : b.lost (last + 1) = true) :
      b.Follows (last + 2) (some u)

end Broadcast

namespace SequenceUtility

variable (u : SequenceUtility) (seq : UInt16)

/-- A first number only starts the probation. -/
lemma updateSeq_new (seq : UInt16) :
    ((new seq).updateSeq seq).2 = false ∧ ((new seq).updateSeq seq).1.maxSeq = seq ∧
      ((new seq).updateSeq seq).1.probation = 1 := by
  unfold updateSeq new
  dsimp only
  rw [if_pos (by decide)]
  split_ifs with hnext hzero
  · exact absurd hzero (by decide)
  · exact ⟨rfl, rfl, rfl⟩
  · exact ⟨rfl, rfl, rfl⟩

/-- The probation ends with the next number, and goes on with any other one. -/
lemma updateSeq_of_probation_one (hprobation : u.probation = 1) :
    (u.updateSeq seq).2 = decide (seq.toNat = u.maxSeq.toNat + 1) ∧
      (u.updateSeq seq).1.maxSeq = seq ∧
      (u.updateSeq seq).1.probation = if seq.toNat = u.maxSeq.toNat + 1 then 0 else 1 := by
  unfold updateSeq
  dsimp only
  rw [hprobation, if_pos (by decide)]
  split_ifs with hnext hzero
  · exact ⟨(decide_eq_true hnext).symm, rfl, rfl⟩
  · exact absurd rfl hzero
  · exact ⟨(decide_eq_false hnext).symm, rfl, rfl⟩

/-- A number in order, with a permissible gap, is valid. -/
lemma updateSeq_of_near (hvalid : u.probation = 0) (h : (seq - u.maxSeq).toNat < 3000) :
    (u.updateSeq seq).2 = true ∧ (u.updateSeq seq).1.maxSeq = seq ∧
      (u.updateSeq seq).1.probation = 0 := by
  rw [updateSeq_of_lt hvalid (by rwa [← toNat_sub_maxSeq])]
  exact ⟨rfl, rfl, hvalid⟩

end SequenceUtility

namespace Broadcast

variable {b : Broadcast} {a g h j : ℕ} {utility : Option SequenceUtility}

lemma toNat_sub_of_add {x y : UInt16} {d : ℕ} (h : y.toNat = x.toNat + d) : (y - x).toNat = d := by
  have hx := x.toNat_lt
  have hy := y.toNat_lt
  rw [UInt16.toNat_sub]
  omega

/-- The next packet that is sent is valid, but for the first one. -/
lemma Follows.media (hb : b.Repairable) (hfollows : b.Follows a utility)
    (ha : a < b.frames.length) :
    ∃ u, updateUtility utility (b.packet a).header.sequenceNumber = (u, decide (0 < a)) ∧
      b.Follows (a + 1) (some u) := by
  have hnumber := hb.toNat_number ha
  obtain ⟨seq, hseq⟩ : ∃ seq, seq = (b.packet a).header.sequenceNumber := ⟨_, rfl⟩
  rw [← hseq] at hnumber ⊢
  cases hfollows with
  | start =>
    obtain ⟨hvalid, hmax, hprobation⟩ := SequenceUtility.updateSeq_new seq
    refine ⟨_, Prod.ext rfl hvalid, .probation _ hprobation ?_⟩
    exact (congrArg UInt16.toNat hmax).trans hnumber
  | probation u hprobation hmax =>
    have hnext : seq.toNat = u.maxSeq.toNat + 1 := by rw [hnumber, hmax]
    obtain ⟨hvalid, hmax', hprobation'⟩ := u.updateSeq_of_probation_one seq hprobation
    rw [if_pos hnext] at hprobation'
    refine ⟨_, Prod.ext rfl (hvalid.trans (decide_eq_true hnext)),
      .valid _ 1 one_pos hprobation' ?_⟩
    exact (congrArg UInt16.toNat hmax').trans hnumber
  | valid u last hlast hprobation hmax =>
    have hnear : (seq - u.maxSeq).toNat = 1 := toNat_sub_of_add (by omega)
    obtain ⟨hvalid, hmax', hprobation'⟩ := u.updateSeq_of_near seq hprobation (by omega)
    refine ⟨_, Prod.ext rfl hvalid, .valid _ (last + 1) (by omega) hprobation' ?_⟩
    exact (congrArg UInt16.toNat hmax').trans hnumber
  | gap u last hlast hprobation hmax =>
    have hnear : (seq - u.maxSeq).toNat = 2 := toNat_sub_of_add (by omega)
    obtain ⟨hvalid, hmax', hprobation'⟩ := u.updateSeq_of_near seq hprobation (by omega)
    refine ⟨_, Prod.ext rfl hvalid, .valid _ (last + 2) (by omega) hprobation' ?_⟩
    exact (congrArg UInt16.toNat hmax').trans hnumber

/-- A packet that is lost is not missed yet. -/
lemma Follows.lost (hb : b.Repairable) (hfollows : b.Follows a utility)
    (ha : a < b.frames.length) (hlost : b.lost a = true) : b.Follows (a + 1) utility := by
  have hfull := (hb.isolated a ha hlost).full
  cases hfollows with
  | start => cases hfull
  | probation u hprobation hmax => cases hfull with | step h => cases h
  | valid u last hlast hprobation hmax => exact .gap u last hlast hprobation hmax hlost
  | gap u last hlast hprobation hmax hbefore =>
    have hnext := (hb.isolated (last + 1) (by omega) hbefore).next ha
    rw [hlost] at hnext
    cases hnext

/-! ### Numbers of the FEC packets -/

/-- What a sequence utility holds after `g` FEC packets. Only a number that wraps around can keep
the second one in probation. -/
inductive FollowsFec (b : Broadcast) : ℕ → Option SequenceUtility → Prop
  | start : b.FollowsFec 0 none
  | probation (u : SequenceUtility) (hprobation : u.probation = 1)
      (hmax : u.maxSeq = b.firstFec) : b.FollowsFec 1 (some u)
  | wrapped (u : SequenceUtility) (hprobation : u.probation = 1) (hmax : u.maxSeq = 0)
      (hnumber : b.firstFec + 1 = 0) : b.FollowsFec 2 (some u)
  | valid (u : SequenceUtility) (g : ℕ) (hg : 0 < g) (hprobation : u.probation = 0)
      (hmax : u.maxSeq = b.firstFec + UInt16.ofNat g) : b.FollowsFec (g + 1) (some u)

/-- The next FEC packet is valid, but for the first two. -/
lemma FollowsFec.step (hfollows : b.FollowsFec g utility) :
    ∃ u valid, updateUtility utility (b.firstFec + UInt16.ofNat g) = (u, valid) ∧
      b.FollowsFec (g + 1) (some u) ∧ (2 ≤ g → valid = true) := by
  cases hfollows with
  | start =>
    obtain ⟨-, hmax, hprobation⟩ := SequenceUtility.updateSeq_new (b.firstFec + UInt16.ofNat 0)
    refine ⟨_, _, rfl, .probation _ hprobation ?_, fun h => by cases h⟩
    exact hmax.trans (UInt16.add_zero _)
  | probation u hprobation hmax =>
    obtain ⟨hvalid, hmax', hprobation'⟩ :=
      u.updateSeq_of_probation_one (b.firstFec + UInt16.ofNat 1) hprobation
    refine ⟨_, _, rfl, ?_, fun h => by omega⟩
    split_ifs at hprobation' with hnext
    · exact .valid _ 1 one_pos hprobation' hmax'
    · have hzero : b.firstFec + 1 = 0 := by
        rw [hmax] at hnext
        have hlt := b.firstFec.toNat_lt
        apply UInt16.toNat_inj.mp
        rw [UInt16.toNat_add]
        have hsum : (b.firstFec + UInt16.ofNat 1).toNat = (b.firstFec.toNat + 1) % 2 ^ 16 :=
          UInt16.toNat_add _ _
        rw [hsum] at hnext
        change (b.firstFec.toNat + 1) % 2 ^ 16 = 0
        omega
      exact .wrapped _ hprobation' (hmax'.trans hzero) hzero
  | wrapped u hprobation hmax hnumber =>
    obtain ⟨hvalid, hmax', hprobation'⟩ :=
      u.updateSeq_of_probation_one (b.firstFec + UInt16.ofNat 2) hprobation
    have hone : b.firstFec + UInt16.ofNat 2 = 1 := by
      change b.firstFec + (1 + 1) = 1
      rw [← UInt16.add_assoc, hnumber]
      rfl
    have hnext : (b.firstFec + UInt16.ofNat 2).toNat = u.maxSeq.toNat + 1 := by
      rw [hone, hmax]
      rfl
    rw [if_pos hnext] at hprobation'
    refine ⟨_, _, rfl, .valid _ 2 two_pos hprobation' hmax', fun _ => ?_⟩
    exact hvalid.trans (decide_eq_true hnext)
  | valid u g hg hprobation hmax =>
    have hnear : (b.firstFec + UInt16.ofNat (g + 1) - u.maxSeq).toNat = 1 := by
      rw [hmax, UInt16.ofNat_add, ← UInt16.add_assoc, UInt16.add_comm _ (UInt16.ofNat 1),
        UInt16.add_sub_cancel]
      rfl
    obtain ⟨hvalid, hmax', hprobation'⟩ :=
      u.updateSeq_of_near (b.firstFec + UInt16.ofNat (g + 1)) hprobation (by omega)
    exact ⟨_, _, rfl, .valid _ (g + 1) (by omega) hprobation' hmax', fun _ => hvalid⟩

lemma fecsSent_succ (b : Broadcast) (j : ℕ) :
    b.fecsSent (j + 1) = b.fecsSent j + if b.fecLost j then 0 else 1 := by
  rw [fecsSent, List.range_succ, List.countP_append, List.countP_singleton, fecsSent]
  cases b.fecLost j <;> rfl

/-- At most one FEC packet is sent for a group. -/
lemma fecsSent_bounds (b : Broadcast) (j d : ℕ) :
    b.fecsSent j ≤ b.fecsSent (j + d) ∧ b.fecsSent (j + d) ≤ b.fecsSent j + d := by
  induction d with
  | zero => exact ⟨le_refl _, le_refl _⟩
  | succ d ih =>
    rw [← Nat.add_assoc, fecsSent_succ]
    split_ifs <;> omega

/-! ### The FEC datagram of a group -/

/-- The frames of a group. -/
lemma Repairable.group (hb : b.Repairable) (hj : (j + 1) * b.k.toNat ≤ b.frames.length) :
    IsGroup (group b.k.toNat j b.packets) := by
  have hstream := hb.streamable.group hj
  have hlength := length_group hj
  rw [packets, group_sentPackets]
  apply isGroup_sentPackets
  · exact hlength.symm ▸ hb.two_le
  · exact hlength.symm ▸ hb.le_twenty.trans (by decide)
  · exact hstream.first_pos
  · exact hstream.no_wrap
  · exact hstream.endOfImage

/-- A frame that fits into a datagram keeps the length field of the FEC packet in range. -/
lemma Repairable.maxLength_lt (hb : b.Repairable) :
    maxLength (Groups.group b.k.toNat j b.packets) - 10 < 2 ^ 16 := by
  have hle : maxLength (Groups.group b.k.toNat j b.packets) ≤ 20 + 65487 := by
    apply Parity.length_sum_le
    intro row hrow
    obtain ⟨p, hp, rfl⟩ := List.mem_map.mp hrow
    obtain ⟨number, frame, hframe, rfl⟩ := mem_sentPackets (mem_of_mem_group hp)
    rw [length_raw (sentPacket_plain b.ssrc number frame) rfl]
    exact Nat.add_le_add_left (hb.fitsDatagram frame hframe) 20
  omega

/-- The FEC datagram of a group is read with its number. -/
lemma Repairable.exists_fec (hb : b.Repairable) (hj : (j + 1) * b.k.toNat ≤ b.frames.length)
    (n : UInt16) :
    ∃ full fec rest, fullFecPacket (Groups.group b.k.toNat j b.packets) n = some full ∧
      (∃ error, customJpegPacketGrammar {} full = .error error) ∧
      customFecPacketGrammar {} full = .ok (fec, rest) ∧ fec.header.payloadTypeField = 100 ∧
      fec.header.ssrc = b.ssrc ∧ fec.header.sequenceNumber = n ∧
      IsGroupDatagram b.k b.packets (fec, full) j := by
  obtain ⟨hpos, hle⟩ := hb.fits b.k rfl
  have hgroup := hb.group hj
  obtain ⟨lost, after, hsplit⟩ : ∃ lost after,
      Groups.group b.k.toNat j b.packets = lost :: after := by
    apply List.exists_cons_of_length_pos
    exact lt_of_lt_of_le (by decide) hgroup.two_le
  have hmax := hb.maxLength_lt (j := j)
  rw [hsplit] at hgroup hmax
  obtain ⟨full, -, -, -, hfull, -, -, -, hread⟩ :=
    @customFecPacketGrammar_full [] after lost hgroup n
  obtain ⟨fec, rest, hfec⟩ := hread hmax
  rw [List.nil_append, ← hsplit] at hfull
  have hsent := hfull
  rw [packets, group_sentPackets] at hsent
  obtain ⟨last, hlast, mask, -, hgenerated⟩ :=
    fullFecPacket_group b.ssrc (b.first + j * b.k.toNat) hpos hle (length_group hj) n
  obtain rfl := Option.some.inj (hsent.symm.trans hgenerated)
  have hplain := fecRtpHeader_plain n last.header.ssrc last.header.timestamp
  have hssrc : last.header.ssrc = b.ssrc := by
    obtain ⟨number, frame, -, rfl⟩ := mem_sentPackets hlast
    rfl
  obtain ⟨hheader, -⟩ := customFecPacketGrammar_header hplain rfl hfec
  refine ⟨_, fec, rest, hfull, ?_, hfec, ?_, ?_, ?_, ?_, ⟨n, hfull⟩, rest, hfec⟩
  · exact customJpegPacketGrammar_error hplain rfl (by decide : (100 : UInt8) ≠ 26) _
  · exact congrArg Header.payloadTypeField hheader
  · exact (congrArg Header.ssrc hheader).trans hssrc
  · exact congrArg Header.sequenceNumber hheader
  · rwa [packets, length_sentPackets]

/-! ### The FEC packets of the receiver -/

/-- The FEC buffer of a receiver holds the newest datagrams of the first `h` groups, but for the
first two, by which the sequence utility got valid. -/
def HoldsFecs (b : Broadcast) (h : ℕ) (buffer : List (CustomFecPacket × Octets)) : Prop :=
  ∀ j < h, b.fecLost j = false → 2 ≤ b.fecsSent j → b.fecsSent h ≤ b.fecsSent j + bufferSize →
    ∃ fec, fromEnd buffer (b.fecsSent h - b.fecsSent j) = some fec ∧
      IsGroupDatagram b.k b.packets fec j

lemma fromEnd_concat {α : Type} (l : List α) (x : α) (n : ℕ) :
    fromEnd (l ++ [x]) (n + 1) = if n = 0 then some x else fromEnd l n := by
  unfold fromEnd
  rw [List.length_append, List.length_singleton, Nat.add_sub_add_right]
  split_ifs with hle hzero hle' hle'
  · subst hzero
    exact List.getElem?_concat_length
  · exact List.getElem?_append_left (by omega)
  · omega
  · omega
  · omega
  · rfl

lemma fromEnd_tail {α : Type} {l : List α} {n : ℕ} (h : n < l.length) :
    fromEnd l.tail n = fromEnd l n := by
  unfold fromEnd
  rw [List.length_tail, if_pos (by omega), if_pos h.le, List.getElem?_tail]
  congr 1
  omega

/-- Another datagram pushes the oldest out at most. -/
lemma HoldsFecs.push {r : Receiver} {fec : CustomFecPacket × Octets}
    (hholds : b.HoldsFecs h r.fecPacketIncomingBuffer) (hsent : b.fecLost h = false)
    (hfec : IsGroupDatagram b.k b.packets fec h) : b.HoldsFecs (h + 1) (r.fecsWith fec) := by
  intro j hj hjsent hvalidated hrecent
  have hcount := fecsSent_succ b h
  rw [if_neg (by simp [hsent])] at hcount
  have hle : b.fecsSent j ≤ b.fecsSent h := by
    have := (b.fecsSent_bounds j (h - j)).1
    rwa [Nat.add_sub_cancel' (Nat.le_of_lt_succ hj)] at this
  obtain ⟨d, hd⟩ := Nat.exists_eq_add_of_le hle
  have hplace : b.fecsSent (h + 1) - b.fecsSent j = d + 1 := by omega
  obtain ⟨e, he, hgroup⟩ : ∃ e, fromEnd (r.fecPacketIncomingBuffer ++ [fec]) (d + 1) = some e ∧
      IsGroupDatagram b.k b.packets e j := by
    rw [fromEnd_concat]
    rcases (Nat.le_of_lt_succ hj).eq_or_lt with rfl | hlt
    · exact ⟨fec, if_pos (by omega), hfec⟩
    · have hpos : b.fecsSent (j + 1) ≤ b.fecsSent h := by
        have := (b.fecsSent_bounds (j + 1) (h - (j + 1))).1
        rwa [Nat.add_sub_cancel' hlt] at this
      have hjcount := fecsSent_succ b j
      rw [if_neg (by simp [hjsent])] at hjcount
      obtain ⟨e, he, hgroup⟩ := hholds j hlt hjsent hvalidated (by omega)
      refine ⟨e, ?_, hgroup⟩
      rw [if_neg (by omega), ← he]
      congr 1
      omega
  refine ⟨e, ?_, hgroup⟩
  rw [hplace]
  unfold Receiver.fecsWith
  dsimp only
  split_ifs with hlong
  · rw [fromEnd_tail (by omega), he]
  · exact he

/-- A datagram that is dropped changes nothing here. -/
lemma HoldsFecs.lost {buffer : List (CustomFecPacket × Octets)} (hholds : b.HoldsFecs h buffer)
    (hlost : b.fecLost h = true) : b.HoldsFecs (h + 1) buffer := by
  have hcount := fecsSent_succ b h
  rw [if_pos hlost, Nat.add_zero] at hcount
  intro j hj hjsent hvalidated hrecent
  rcases (Nat.le_of_lt_succ hj).eq_or_lt with rfl | hlt
  · rw [hlost] at hjsent
    cases hjsent
  · rw [hcount] at hrecent ⊢
    exact hholds j hlt hjsent hvalidated hrecent

/-- The first two datagrams are not held. -/
lemma holdsFecs_of_lt {buffer : List (CustomFecPacket × Octets)} (hlt : b.fecsSent h < 2) :
    b.HoldsFecs (h + 1) buffer := by
  rintro j hj - hvalidated
  have hle : b.fecsSent j ≤ b.fecsSent h := by
    have := (b.fecsSent_bounds j (h - j)).1
    rwa [Nat.add_sub_cancel' (Nat.le_of_lt_succ hj)] at this
  omega

end Broadcast

end Rtp
