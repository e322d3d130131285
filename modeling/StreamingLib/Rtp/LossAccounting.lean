import StreamingLib.Counters.Gaps
import StreamingLib.Rtp.JitterBuffer
import StreamingLib.Rtp.SequenceUnwrapping

/-!
# Loss accounting

Losses are counted at the place of the buffer where a gap may be closed. Each accepted packet gets
there after nineteen others, but the check starts only once the buffer is full, and counts one loss
however many packets are missing.
-/

namespace Rtp

open Transition

namespace Receiver

/-- The losses that were counted. -/
def losses (r : Receiver) : ℕ := r.corrected.toNat + r.uncorrectable.toNat

variable {r : Receiver} {message : Octets} {packet x y : CustomJpegPacket}
  {older post : List CustomJpegPacket}

lemma toNat_add_one {n : UInt64} (h : n.toNat < 2 ^ 32) : (n + 1).toNat = n.toNat + 1 := by
  rw [UInt64.toNat_add, UInt64.toNat_one]
  exact Nat.mod_eq_of_lt (by omega)

/-- The oldest packet leaves the buffer. -/
lemma moveFront_spec {rest : List CustomJpegPacket}
    (hbuffer : r.jpegPacketIncomingBuffer.map Prod.fst = older ++ rest) (hne : older ≠ []) :
    r.moveFront.jpegPacketIncomingBuffer.map Prod.fst = older.tail ++ rest ∧
      r.moveFront.jpegSequenceUtility = r.jpegSequenceUtility ∧
      r.moveFront.losses = r.losses := by
  obtain ⟨oldest, older, rfl⟩ := List.exists_cons_of_ne_nil hne
  unfold moveFront
  rcases hcons : r.jpegPacketIncomingBuffer with - | ⟨front, buffer⟩
  · rw [hcons] at hbuffer
    cases hbuffer
  · rw [hcons, List.map_cons, List.cons_append] at hbuffer
    exact ⟨(List.cons.inj hbuffer).2, rfl, rfl⟩

/-- The check of a pair of neighbours or of one missing packet counts what is missing. -/
lemma closeGap_counts (hbuffer : r.jpegPacketIncomingBuffer.map Prod.fst = older ++ x :: y :: post)
    (hpost : post.length = mediaPacketDelay - 1) (hlosses : r.losses < 2 ^ 32)
    (hnumber : y.number = x.number + 1 ∨ y.number = x.number + 2)
    (hrecover : y.number = x.number + 2 → ∃ found,
      recoveredPacket r.jpegPacketIncomingBuffer r.fecPacketIncomingBuffer = .ok found) :
    ∃ r' older', r.closeGap = (r', none) ∧
      r'.jpegPacketIncomingBuffer.map Prod.fst = older ++ x :: older' ++ y :: post ∧
      r'.jpegSequenceUtility = r.jpegSequenceUtility ∧
      r'.losses = r.losses + (y.number - x.number - 1) := by
  have hgap := gap_of_split hbuffer hpost
  have hcorrected : r.corrected.toNat < 2 ^ 32 := lt_of_le_of_lt (Nat.le_add_right _ _) hlosses
  have huncorrectable : r.uncorrectable.toNat < 2 ^ 32 :=
    lt_of_le_of_lt (Nat.le_add_left _ _) hlosses
  rcases hnumber with hone | htwo
  · have hd : (y.number : ℤ) - x.number < 2 := by omega
    refine ⟨r, [], closeGap_of_lt hgap hd, ?_, rfl, ?_⟩
    · rw [hbuffer, List.append_assoc]
      rfl
    · rw [hone, Nat.add_sub_cancel_left]
      rfl
  · have hd : (y.number : ℤ) - x.number = 2 := by omega
    obtain ⟨found, hfound⟩ := hrecover htwo
    rw [hd] at hgap
    rw [closeGap_of_eq hgap, hfound]
    have hsub : y.number - x.number - 1 = 1 := by omega
    rw [hsub]
    cases found with
    | none =>
      refine ⟨_, [], rfl, ?_, rfl, ?_⟩
      · dsimp only
        rw [hbuffer, List.append_assoc]
        rfl
      · dsimp only [losses]
        rw [toNat_add_one huncorrectable, Nat.add_assoc]
    | some q =>
      refine ⟨_, [q.1], rfl, ?_, rfl, ?_⟩
      · have hlength := congrArg List.length hbuffer
        have hplace : r.jpegPacketIncomingBuffer.length - mediaPacketDelay =
            (older ++ [x]).length := by
          rw [List.length_map] at hlength
          rw [hlength, List.append_cons, List.length_append, List.length_cons, hpost]
          exact Nat.add_sub_cancel _ mediaPacketDelay
        rw [List.map_insertIdx, hbuffer, hplace, List.append_cons, insertIdx_append]
        simp
      · dsimp only [losses]
        rw [toNat_add_one hcorrected, Nat.add_right_comm]

/-- What an accepted packet leaves once the buffer is full. -/
lemma handleNewJpegPacket_counts {utility : SequenceUtility}
    (hmedia : mediaPacket r.ssrc message = some packet)
    (hupdate : updateUtility r.jpegSequenceUtility packet.header.sequenceNumber = (utility, true))
    (hfull : bufferSize ≤ r.jpegPacketIncomingBuffer.length + 1)
    (hbuffer : (r.jpegPacketIncomingBuffer ++ [(packet, message)]).map Prod.fst =
      older ++ x :: y :: post)
    (hpost : post.length = mediaPacketDelay - 1) (hlosses : r.losses < 2 ^ 32)
    (hnumber : y.number = x.number + 1 ∨ y.number = x.number + 2)
    (hrecover : y.number = x.number + 2 → ∃ found,
      recoveredPacket (r.jpegPacketIncomingBuffer ++ [(packet, message)])
        r.fecPacketIncomingBuffer = .ok found) :
    ∃ older', (r.handleNewJpegPacket message).1.jpegPacketIncomingBuffer.map Prod.fst =
        older' ++ y :: post ∧
      bufferSize ≤ (r.handleNewJpegPacket message).1.jpegPacketIncomingBuffer.length + 1 ∧
      (r.handleNewJpegPacket message).1.jpegSequenceUtility = some utility ∧
      (r.handleNewJpegPacket message).1.losses = r.losses + (y.number - x.number - 1) := by
  obtain ⟨r', inserted, hclose, hbuffer', hutility, hcounts⟩ :=
    closeGap_counts (r := r.append utility (packet, message)) hbuffer hpost hlosses hnumber hrecover
  have hne : older ++ x :: inserted ≠ [] := by simp
  obtain ⟨hmoved, hmovedUtility, hmovedLosses⟩ := moveFront_spec hbuffer' hne
  rw [handleNewJpegPacket_of_accepted hmedia hupdate, if_neg (not_lt.mpr hfull), hclose]
  refine ⟨_, hmoved, ?_, hmovedUtility.trans hutility, hmovedLosses.trans hcounts⟩
  have hlength := congrArg List.length hbuffer
  have hlength' := congrArg List.length hmoved
  simp only [List.length_map, List.length_append, List.length_cons, List.length_tail,
    List.length_nil] at hlength hlength' ⊢
  omega

end Receiver

/-! ### Numbers in order -/

/-- The sequence numbers of the accepted packets. -/
def Reception.numbers (s : Reception) : List ℕ := s.accepted.map CustomJpegPacket.number

/-- A media packet has the number after the last accepted one, or the next but one from the
thirty-first accepted packet on, and its arrival asks for no recovery with a fault. -/
def Reception.CountsLosses (s : Reception) (e : ReceiverEvent) : Prop :=
  ∀ message ∈ e.message, ∀ packet ∈ mediaPacket s.receiver.ssrc message,
    (∀ last ∈ s.numbers.getLast?, packet.number = last + 1 ∨
      30 ≤ s.numbers.length ∧ packet.number = last + 2) ∧
    ∀ n, Lacks (s.receiver.jpegPacketIncomingBuffer ++ [(packet, message)]) n →
      CanRecover (s.receiver.jpegPacketIncomingBuffer ++ [(packet, message)])
        s.receiver.fecPacketIncomingBuffer n

instance (s : Reception) (e : ReceiverEvent) : Decidable (s.CountsLosses e) :=
  have (packet : CustomJpegPacket) : Decidable (∀ last ∈ s.numbers.getLast?,
      packet.number = last + 1 ∨ 30 ≤ s.numbers.length ∧ packet.number = last + 2) :=
    Option.decidableForallMem s.numbers.getLast?
  have (message : Octets) : Decidable (∀ packet ∈ mediaPacket s.receiver.ssrc message,
      (∀ last ∈ s.numbers.getLast?, packet.number = last + 1 ∨
        30 ≤ s.numbers.length ∧ packet.number = last + 2) ∧
      ∀ n, Lacks (s.receiver.jpegPacketIncomingBuffer ++ [(packet, message)]) n →
        CanRecover (s.receiver.jpegPacketIncomingBuffer ++ [(packet, message)])
          s.receiver.fecPacketIncomingBuffer n) :=
    Option.decidableForallMem (mediaPacket s.receiver.ssrc message)
  Option.decidableForallMem e.message

/-- Neighbours differ by one or two, the first thirty numbers by one. -/
structure Consecutive (numbers : List ℕ) : Prop where
  near : numbers.IsChain fun a b => b = a + 1 ∨ b = a + 2
  start : Gaps.missing (numbers.take 30) = 0

lemma Consecutive.concat {numbers : List ℕ} (h : Consecutive numbers) {n : ℕ}
    (hn : ∀ last ∈ numbers.getLast?, n = last + 1 ∨ 30 ≤ numbers.length ∧ n = last + 2) :
    Consecutive (numbers ++ [n]) := by
  refine ⟨?_, ?_⟩
  · rw [List.isChain_append]
    refine ⟨h.near, List.isChain_singleton n, ?_⟩
    intro last hlast m hm
    cases hm
    exact (hn last hlast).imp_right And.right
  · by_cases hlong : 30 ≤ numbers.length
    · rw [List.take_append_of_le_length hlong]
      exact h.start
    · have hshort := not_le.mp hlong
      have hstart := h.start
      rw [List.take_of_length_le hshort.le] at hstart
      rw [List.take_of_length_le (by rw [List.length_append]; exact hshort)]
      rcases numbers.eq_nil_or_concat with rfl | ⟨init, last, rfl⟩
      · rfl
      · rw [List.concat_eq_append] at hstart hn hlong ⊢
        rcases hn last (List.getLast?_concat ..) with rfl | ⟨hle, -⟩
        · rw [List.append_assoc, List.singleton_append, Gaps.missing_concat, hstart,
            Nat.add_sub_cancel_left]
        · exact absurd hle hlong

lemma Consecutive.pairwise {numbers : List ℕ} (h : Consecutive numbers) :
    numbers.Pairwise (· < ·) := by
  rw [← List.isChain_iff_pairwise]
  refine h.near.imp ?_
  rintro a b (rfl | rfl)
  · exact Nat.lt_add_of_pos_right (by decide)
  · exact Nat.lt_add_of_pos_right (by decide)

lemma Consecutive.missing_lt {numbers : List ℕ} (h : Consecutive numbers)
    (hlt : ∀ n ∈ numbers, n < 65536) (k : ℕ) : Gaps.missing (numbers.take k) < 2 ^ 32 := by
  rcases htake : numbers.take k with - | ⟨a, l⟩
  · decide
  · have hpairwise : (a :: l).Pairwise (· < ·) := htake ▸ h.pairwise.sublist (List.take_sublist _ _)
    obtain ⟨z, hz⟩ : ∃ z, (a :: l).getLast? = some z := ⟨_, List.getLast?_eq_some_getLast (by simp)⟩
    have hsum := (Gaps.missing_add_length hpairwise hz).2
    have hmem : z ∈ numbers.take k := htake ▸ List.mem_of_getLast? hz
    have hbound := hlt z (List.mem_of_mem_take hmem)
    rw [List.length_cons] at hsum
    omega

/-- The newest pair that a check can be about, with what is behind it and what ends at it. -/
lemma exists_newest_pair {α : Type} {l : List α} (h : mediaPacketDelay + 1 ≤ l.length) :
    ∃ before x y post, l = before ++ x :: y :: post ∧ post.length = mediaPacketDelay - 1 ∧
      l.drop (l.length - mediaPacketDelay) = y :: post ∧
      l.take (l.length - (mediaPacketDelay - 1)) = before ++ [x, y] := by
  obtain ⟨before, x, y, post, rfl, hpost⟩ := exists_last_pair (n := mediaPacketDelay - 1) h
  have hlength : (before ++ x :: y :: post).length = before.length + 1 + mediaPacketDelay := by
    rw [List.length_append, List.length_cons, List.length_cons, hpost]
    exact (Nat.add_assoc _ 1 mediaPacketDelay).symm
  refine ⟨before, x, y, post, rfl, hpost, ?_, ?_⟩
  · rw [hlength, Nat.add_sub_cancel, List.append_cons]
    exact List.drop_left' List.length_append
  · have hsplit : before ++ x :: y :: post = (before ++ [x, y]) ++ post := by
      rw [List.append_assoc]
      rfl
    have hcut : before.length + 1 + mediaPacketDelay - (mediaPacketDelay - 1) =
        (before ++ [x, y]).length := by
      rw [List.length_append]
      exact Nat.add_sub_cancel (before.length + 2) (mediaPacketDelay - 1)
    rw [hlength, hcut, hsplit, List.take_left' rfl]

/-! ### Accounts -/

/-- What is counted after some media packets have arrived and some of them were accepted: the last
twenty of these are at the end of the buffer, and the losses up to the newer packet of the check are
counted. -/
structure Accounted (ssrc : UInt32) (arrived : List ℕ) (part : Receiver.MediaPart)
    (accepted : List CustomJpegPacket) : Prop where
  source : part.ssrc = ssrc
  arrived : ∃ before, arrived = before ++ accepted.map CustomJpegPacket.number
  waiting : accepted = [] → ∀ u ∈ part.utility, u.probation ≠ 0
  validated : ∀ last ∈ accepted.getLast?, ∃ u, part.utility = some u ∧ u.probation = 0 ∧
    u.maxSeq = last.header.sequenceNumber
  consecutive : Consecutive (accepted.map CustomJpegPacket.number)
  recent : accepted.drop (accepted.length - mediaPacketDelay) <:+ part.buffer.map Prod.fst
  short : accepted.length < bufferSize → part.buffer.length = accepted.length
  full : bufferSize ≤ accepted.length → bufferSize ≤ part.buffer.length + 1
  counted : part.corrected.toNat + part.uncorrectable.toNat = Gaps.missing
    ((accepted.map CustomJpegPacket.number).take (accepted.length - (mediaPacketDelay - 1)))

namespace Accounted

variable {ssrc : UInt32} {arrived : List ℕ} {part : Receiver.MediaPart}
  {accepted : List CustomJpegPacket} {r : Receiver} {message : Octets} {packet : CustomJpegPacket}

lemma losses_lt (h : Accounted ssrc arrived r.mediaPart accepted) : r.losses < 2 ^ 32 := by
  rw [Receiver.losses]
  refine lt_of_eq_of_lt h.counted (h.consecutive.missing_lt ?_ _)
  intro n hn
  obtain ⟨p, -, rfl⟩ := List.mem_map.mp hn
  exact p.header.sequenceNumber.toNat_lt

/-- A number one or two behind the highest one is accepted. -/
lemma updateUtility_eq (h : Accounted ssrc arrived r.mediaPart accepted)
    {last : CustomJpegPacket} (hlast : accepted.getLast? = some last)
    (hnumber : packet.number = last.number + 1 ∨ packet.number = last.number + 2) :
    ∃ u, updateUtility r.jpegSequenceUtility packet.header.sequenceNumber = (u, true) ∧
      u.probation = 0 ∧ u.maxSeq = packet.header.sequenceNumber := by
  obtain ⟨u, hutility, hprobation, hmax⟩ := h.validated last hlast
  have hutility' : r.jpegSequenceUtility = some u := hutility
  have hmaxNat : u.maxSeq.toNat = last.number := congrArg UInt16.toNat hmax
  have hdelta : u.udelta packet.header.sequenceNumber = packet.number - last.number := by
    rw [SequenceUtility.udelta, hmaxNat]
    exact Serial.ahead_of_le (by change last.number ≤ packet.number; omega)
      packet.header.sequenceNumber.toNat_lt
  rw [updateUtility, hutility', Option.getD_some,
    SequenceUtility.updateSeq_of_lt hprobation (by omega)]
  exact ⟨_, rfl, hprobation, rfl⟩

/-- A media packet before the first accepted one. -/
lemma wait (h : Accounted ssrc arrived r.mediaPart []) {utility : SequenceUtility}
    (hmedia : mediaPacket r.ssrc message = some packet)
    (hupdate : updateUtility r.jpegSequenceUtility packet.header.sequenceNumber =
      (utility, false)) (hprobation : utility.probation ≠ 0) :
    Accounted ssrc (arrived ++ [packet.number]) (r.handleNewJpegPacket message).1.mediaPart [] := by
  rw [Receiver.handleNewJpegPacket_of_rejected hmedia hupdate]
  refine ⟨h.source, ⟨arrived ++ [packet.number], (List.append_nil _).symm⟩, ?_, ?_, h.consecutive,
    h.recent, h.short, h.full, h.counted⟩
  · rintro - u hu
    cases hu
    exact hprobation
  · intro last hlast
    cases hlast

/-- The packets at the end of the buffer, with the new one. -/
lemma recent_concat (h : Accounted ssrc arrived r.mediaPart accepted)
    (packet : CustomJpegPacket) (message : Octets) :
    (accepted ++ [packet]).drop (accepted.length - mediaPacketDelay) <:+
      (r.jpegPacketIncomingBuffer ++ [(packet, message)]).map Prod.fst := by
  obtain ⟨older, holder⟩ := h.recent
  have hbuffer : older ++ accepted.drop (accepted.length - mediaPacketDelay) =
      r.jpegPacketIncomingBuffer.map Prod.fst := holder
  refine ⟨older, ?_⟩
  rw [List.drop_append_of_le_length (Nat.sub_le _ _), ← List.append_assoc, hbuffer,
    List.map_append]
  rfl

/-- A packet is accepted while the buffer is not full. -/
lemma fill (h : Accounted ssrc arrived r.mediaPart accepted) {utility : SequenceUtility}
    (hmedia : mediaPacket r.ssrc message = some packet)
    (hupdate : updateUtility r.jpegSequenceUtility packet.header.sequenceNumber =
      (utility, true)) (hprobation : utility.probation = 0)
    (hmax : utility.maxSeq = packet.header.sequenceNumber)
    (hnumbers : Consecutive ((accepted ++ [packet]).map CustomJpegPacket.number))
    (hshort : accepted.length + 1 < bufferSize) :
    Accounted ssrc (arrived ++ [packet.number]) (r.handleNewJpegPacket message).1.mediaPart
      (accepted ++ [packet]) := by
  have hlength : r.jpegPacketIncomingBuffer.length = accepted.length :=
    h.short (Nat.lt_of_succ_lt hshort)
  have hlength' : (accepted ++ [packet]).length = accepted.length + 1 := List.length_append
  have hdrop : accepted.length - mediaPacketDelay ≤ accepted.length + 1 - mediaPacketDelay :=
    Nat.sub_le_sub_right (Nat.le_succ _) _
  have hthirty : accepted.length + 1 - (mediaPacketDelay - 1) ≤ 30 := by
    simp only [bufferSize, mediaPacketDelay] at hshort ⊢
    omega
  have hzero := (Gaps.missing_take_le (accepted.map CustomJpegPacket.number)
    (le_trans (Nat.sub_le_sub_right (Nat.le_succ _) _) hthirty)).trans_eq h.consecutive.start
  have hzero' := (Gaps.missing_take_le ((accepted ++ [packet]).map CustomJpegPacket.number)
    hthirty).trans_eq hnumbers.start
  obtain ⟨before, hbefore⟩ := h.arrived
  rw [Receiver.handleNewJpegPacket_of_accepted hmedia hupdate, if_pos (by rwa [hlength])]
  refine ⟨h.source, ⟨before, ?_⟩, ?_, ?_, hnumbers, ?_, ?_, ?_, ?_⟩
  · rw [hbefore, List.map_append, List.append_assoc]
    rfl
  · intro hnil
    exact absurd hnil (by simp)
  · intro last hlast
    rw [List.getLast?_concat] at hlast
    cases hlast
    exact ⟨utility, rfl, hprobation, hmax⟩
  · rw [hlength']
    exact (List.drop_suffix_drop_left _ hdrop).trans (h.recent_concat packet message)
  · intro _
    rw [hlength', ← hlength]
    exact List.length_append
  · intro hfull
    rw [hlength'] at hfull
    exact absurd hshort (not_lt.mpr hfull)
  · rw [hlength']
    exact (h.counted.trans (Nat.le_zero.mp hzero)).trans (Nat.le_zero.mp hzero').symm

/-- The pair that is checked when a packet is accepted into a full buffer. The check before it
ended at the first packet of the pair. -/
lemma exists_checked_pair (packet : CustomJpegPacket) (hfull : bufferSize ≤ accepted.length + 1) :
    ∃ before x y post, accepted ++ [packet] = before ++ x :: y :: post ∧
      post.length = mediaPacketDelay - 1 ∧
      (accepted ++ [packet]).drop (accepted.length - mediaPacketDelay) = x :: y :: post ∧
      (accepted ++ [packet]).drop ((accepted ++ [packet]).length - mediaPacketDelay) = y :: post ∧
      accepted.take (accepted.length - (mediaPacketDelay - 1)) = before ++ [x] ∧
      (accepted ++ [packet]).take ((accepted ++ [packet]).length - (mediaPacketDelay - 1)) =
        before ++ [x, y] := by
  have hlength : (accepted ++ [packet]).length = accepted.length + 1 := List.length_append
  obtain ⟨before, x, y, post, hsplit, hpost, hdrop, htake⟩ :=
    exists_newest_pair (l := accepted ++ [packet])
      (by rw [hlength]; exact le_trans (by decide) hfull)
  have hbefore : accepted.length = before.length + mediaPacketDelay := by
    have hlengths := congrArg List.length hsplit
    rw [hlength, List.length_append, List.length_cons, List.length_cons, hpost] at hlengths
    exact Nat.succ.inj hlengths
  refine ⟨before, x, y, post, hsplit, hpost, ?_, hdrop, ?_, htake⟩
  · have hcut : accepted.length - mediaPacketDelay = before.length := by
      rw [hbefore]
      exact Nat.add_sub_cancel _ _
    rw [hcut, hsplit, List.drop_left' rfl]
  · have hcut : accepted.length - (mediaPacketDelay - 1) = (before ++ [x]).length := by
      rw [hbefore, List.length_append]
      exact Nat.add_sub_cancel (before.length + 1) (mediaPacketDelay - 1)
    rw [← List.take_append_of_le_length (Nat.sub_le _ _), hcut, hsplit,
      List.append_cons before x (y :: post), List.take_left' rfl]

/-- The recovery that a check asks for is answered if it can be. -/
lemma exists_recovered {buffer : List MediaPacket} {fecBuffer : List (CustomFecPacket × Octets)}
    (hrecover : ∀ n, Lacks buffer n → CanRecover buffer fecBuffer n)
    (hfull : bufferSize ≤ buffer.length) (hgap : gap buffer = some 2) :
    ∃ found, recoveredPacket buffer fecBuffer = .ok found := by
  have hok := (forall_lacks_iff recoveredPacket_isOk_iff).mp hrecover hfull hgap
  cases hfound : recoveredPacket buffer fecBuffer with
  | ok found => exact ⟨found, rfl⟩
  | error fault =>
    rw [hfound] at hok
    cases hok

/-- A packet is accepted into a full buffer, and the next pair is checked. -/
lemma move (h : Accounted ssrc arrived r.mediaPart accepted) {utility : SequenceUtility}
    (hmedia : mediaPacket r.ssrc message = some packet)
    (hupdate : updateUtility r.jpegSequenceUtility packet.header.sequenceNumber =
      (utility, true)) (hprobation : utility.probation = 0)
    (hmax : utility.maxSeq = packet.header.sequenceNumber)
    (hnumbers : Consecutive ((accepted ++ [packet]).map CustomJpegPacket.number))
    (hrecover : ∀ n, Lacks (r.jpegPacketIncomingBuffer ++ [(packet, message)]) n →
      CanRecover (r.jpegPacketIncomingBuffer ++ [(packet, message)]) r.fecPacketIncomingBuffer n)
    (hfull : bufferSize ≤ accepted.length + 1) :
    Accounted ssrc (arrived ++ [packet.number]) (r.handleNewJpegPacket message).1.mediaPart
      (accepted ++ [packet]) := by
  have hbufferFull : bufferSize ≤ r.jpegPacketIncomingBuffer.length + 1 := by
    by_cases hshort : accepted.length < bufferSize
    · have hlength : r.jpegPacketIncomingBuffer.length = accepted.length := h.short hshort
      rwa [hlength]
    · exact h.full (not_lt.mp hshort)
  obtain ⟨before, x, y, post, hsplit, hpost, hpair, hnewer, hold, hnew⟩ :=
    exists_checked_pair packet hfull
  obtain ⟨older, holder⟩ := h.recent_concat packet message
  rw [hpair] at holder
  have hnumber : y.number = x.number + 1 ∨ y.number = x.number + 2 := by
    have hchain := hnumbers.near
    rw [hsplit, List.map_append, List.map_cons, List.map_cons,
      List.isChain_append_cons_cons] at hchain
    exact hchain.2.1
  have hrecovered : y.number = x.number + 2 → ∃ found,
      recoveredPacket (r.jpegPacketIncomingBuffer ++ [(packet, message)])
        r.fecPacketIncomingBuffer = .ok found := by
    intro htwo
    have hd : (y.number : ℤ) - x.number = 2 := by omega
    exact exists_recovered hrecover (by rwa [List.length_append])
      (hd ▸ gap_of_split holder.symm hpost)
  obtain ⟨older', hbuffer, hlarge, hutility, hlosses⟩ := Receiver.handleNewJpegPacket_counts hmedia
    hupdate hbufferFull holder.symm hpost h.losses_lt hnumber hrecovered
  obtain ⟨first, hfirst⟩ := h.arrived
  exact
    { source := (congrArg Prod.fst (r.settings_handleNewJpegPacket message)).trans h.source
      arrived := ⟨first, by rw [hfirst, List.map_append, List.append_assoc]; rfl⟩
      waiting := fun hnil => absurd hnil (by simp)
      validated := by
        intro last hlast
        rw [List.getLast?_concat] at hlast
        cases hlast
        exact ⟨utility, hutility, hprobation, hmax⟩
      consecutive := hnumbers
      recent := by
        rw [hnewer]
        exact ⟨older', hbuffer.symm⟩
      short := by
        intro hshort
        rw [List.length_append] at hshort
        exact absurd hfull (not_le.mpr hshort)
      full := fun _ => hlarge
      counted := by
        have hcounted := h.counted
        rw [← List.map_take, hold, List.map_append] at hcounted
        rw [← List.map_take, hnew, List.map_append]
        refine (hlosses.trans (congrArg (· + _) hcounted)).trans ?_
        exact (Gaps.missing_concat _ _ _).symm }

/-- The first accepted packet validates the source. -/
lemma updateUtility_of_waiting (h : Accounted ssrc arrived r.mediaPart [])
    (packet : CustomJpegPacket) :
    ∃ utility valid, updateUtility r.jpegSequenceUtility packet.header.sequenceNumber =
        (utility, valid) ∧ (valid = false → utility.probation ≠ 0) ∧
      (valid = true → utility.probation = 0 ∧
        utility.maxSeq = packet.header.sequenceNumber) := by
  obtain ⟨u, hu, hprobation⟩ : ∃ u : SequenceUtility, updateUtility r.jpegSequenceUtility
      packet.header.sequenceNumber = u.updateSeq packet.header.sequenceNumber ∧
      u.probation ≠ 0 := by
    cases hutility : r.jpegSequenceUtility with
    | none => exact ⟨_, rfl, (by decide : SequenceUtility.minSequential ≠ 0)⟩
    | some u => exact ⟨u, rfl, h.waiting rfl u hutility⟩
  rw [hu]
  refine ⟨(u.updateSeq packet.header.sequenceNumber).1,
    (u.updateSeq packet.header.sequenceNumber).2, rfl, ?_, ?_⟩
  · intro hvalid hzero
    rw [SequenceUtility.updateSeq_validates hprobation hzero] at hvalid
    cases hvalid
  · intro hvalid
    rw [SequenceUtility.updateSeq_of_probation hprobation hvalid]
    exact ⟨rfl, rfl⟩

/-- A media packet arrives. -/
lemma media (h : Accounted ssrc arrived r.mediaPart accepted)
    (hmedia : mediaPacket r.ssrc message = some packet)
    (hnumber : ∀ last ∈ (accepted.map CustomJpegPacket.number).getLast?,
      packet.number = last + 1 ∨ 30 ≤ (accepted.map CustomJpegPacket.number).length ∧
        packet.number = last + 2)
    (hrecover : ∀ n, Lacks (r.jpegPacketIncomingBuffer ++ [(packet, message)]) n →
      CanRecover (r.jpegPacketIncomingBuffer ++ [(packet, message)]) r.fecPacketIncomingBuffer n) :
    Accounted ssrc (arrived ++ [packet.number]) (r.handleNewJpegPacket message).1.mediaPart
      (accepted ++ (r.accepted message).toList) := by
  have hnumbers : Consecutive ((accepted ++ [packet]).map CustomJpegPacket.number) := by
    rw [List.map_append]
    exact h.consecutive.concat hnumber
  rcases accepted.eq_nil_or_concat with rfl | ⟨init, last, hconcat⟩
  · obtain ⟨utility, - | -, hupdate, hwait, hstart⟩ := h.updateUtility_of_waiting packet
    · rw [Receiver.accepted_of_rejected hmedia (congrArg Prod.snd hupdate)]
      exact h.wait hmedia hupdate (hwait rfl)
    · obtain ⟨hprobation, hmax⟩ := hstart rfl
      rw [Receiver.accepted_of_media hmedia (congrArg Prod.snd hupdate)]
      exact h.fill hmedia hupdate hprobation hmax hnumbers (by decide)
  · rw [List.concat_eq_append] at hconcat
    have hlast : accepted.getLast? = some last := by rw [hconcat, List.getLast?_concat]
    have hnear : packet.number = last.number + 1 ∨ packet.number = last.number + 2 := by
      refine (hnumber last.number ?_).imp_right And.right
      rw [List.getLast?_map, hlast]
      rfl
    obtain ⟨utility, hupdate, hprobation, hmax⟩ := h.updateUtility_eq hlast hnear
    rw [Receiver.accepted_of_media hmedia (congrArg Prod.snd hupdate)]
    by_cases hshort : accepted.length + 1 < bufferSize
    · exact h.fill hmedia hupdate hprobation hmax hnumbers hshort
    · exact h.move hmedia hupdate hprobation hmax hnumbers hrecover (not_lt.mp hshort)

end Accounted

/-! ### Runs -/

lemma mediaNumbers_of_no_message {ssrc : UInt32} {e : ReceiverEvent} (he : e.message = none) :
    mediaNumbers ssrc [e] = [] := by
  simp [mediaNumbers, he]

lemma mediaNumbers_of_no_media {ssrc : UInt32} {e : ReceiverEvent} {message : Octets}
    (he : e.message = some message) (hmedia : mediaPacket ssrc message = none) :
    mediaNumbers ssrc [e] = [] := by
  simp [mediaNumbers, he, hmedia]

lemma Reception.receive_mediaPart (s : Reception) (received : Octets) :
    (s.receive received).receiver.mediaPart =
      (s.receiver.handleNewJpegPacket received).1.mediaPart := by
  rw [receive_receiver]
  exact s.receiver.mediaPart_handleNewIncomingMessage received

lemma accounted_step {ssrc : UInt32} {es : List ReceiverEvent} {s s' : Reception}
    {e : ReceiverEvent}
    (h : Accounted ssrc (mediaNumbers ssrc es) s.receiver.mediaPart s.accepted)
    (hok : s.CountsLosses e) (hstep : s.step e = some s') :
    Accounted ssrc (mediaNumbers ssrc (es ++ [e])) s'.receiver.mediaPart s'.accepted := by
  rw [mediaNumbers_concat]
  rcases Reception.step_cases hstep with ⟨message, hmessage, rfl⟩ |
    ⟨hmessage, haccepted, -, handler, hpart⟩
  · rw [Reception.receive_mediaPart, Reception.receive_accepted]
    have hsource : s.receiver.ssrc = ssrc := h.source
    cases hmedia : mediaPacket s.receiver.ssrc message with
    | none =>
      have hrejected : s.receiver.accepted message = none := by
        rw [Receiver.accepted_eq, hmedia]
        rfl
      rw [(Receiver.handleNewJpegPacket_of_no_media hmedia).1, hrejected,
        mediaNumbers_of_no_media hmessage (hsource ▸ hmedia), Option.toList_none, List.append_nil,
        List.append_nil]
      exact h
    | some packet =>
      obtain ⟨hnumber, hrecover⟩ := hok message hmessage packet hmedia
      rw [mediaNumbers_of_message hmessage (hsource ▸ hmedia)]
      exact h.media hmedia hnumber hrecover
  · rw [mediaNumbers_of_no_message hmessage, List.append_nil, haccepted, hpart]
    exact ⟨h.source, h.arrived, h.waiting, h.validated, h.consecutive, h.recent, h.short, h.full,
      h.counted⟩

/-- The numbers from the first to the newer one of a check that did not arrive. -/
def lostNumbers (arrived : List ℕ) (first newer : ℕ) : Finset ℕ :=
  (Finset.Icc first newer).filter (· ∉ arrived)

/-- Between the first and the last of some accepted numbers nothing else has arrived. -/
lemma card_lostNumbers {pre l post : List ℕ} {a z : ℕ}
    (hpairwise : (pre ++ (a :: l ++ post)).Pairwise (· < ·)) (hz : (a :: l).getLast? = some z) :
    (lostNumbers (pre ++ (a :: l ++ post)) a z).card = Gaps.missing (a :: l) := by
  obtain ⟨-, hrest, hpre⟩ := List.pairwise_append.mp hpairwise
  obtain ⟨hl, -, hpost⟩ := List.pairwise_append.mp hrest
  rw [← Gaps.card_missing hl hz]
  congr 1
  apply Finset.filter_congr
  intro k hk
  obtain ⟨hle, hge⟩ := Finset.mem_Icc.mp hk
  rw [not_iff_not, List.mem_append, List.mem_append]
  constructor
  · rintro (hmem | hmem | hmem)
    · exact absurd (hpre k hmem a (by simp)) (not_lt.mpr hle)
    · exact hmem
    · exact absurd (hpost z (List.mem_of_getLast? hz) k hmem) (not_lt.mpr hge)
  · exact fun hmem => Or.inr (Or.inl hmem)

/-- Where no more than one packet is lost in a row, none before the thirty-first accepted packet,
and no recovery meets a fault, the counted losses are the numbers that did not arrive, from the
first accepted packet to the newer one of the last check. -/
theorem loss_accounting {ssrc : UInt32} {statisticsHandler : Bool} {events : List ReceiverEvent}
    {s : Reception} (hrun : receptionSystem.run { receiver :=
      { ssrc := ssrc, statisticsHandler := statisticsHandler } } events = some s)
    (hok : receptionSystem.Meets Reception.CountsLosses { receiver :=
      { ssrc := ssrc, statisticsHandler := statisticsHandler } } events)
    (hmedia : (mediaNumbers ssrc events).Pairwise (· < ·))
    (hreleased : bufferSize ≤ s.accepted.length) :
    ∃ first newer, s.accepted.head? = some first ∧
      fromEnd s.receiver.jpegPacketIncomingBuffer mediaPacketDelay = some newer ∧
      s.receiver.corrected.toNat + s.receiver.uncorrectable.toNat =
        (lostNumbers (mediaNumbers ssrc events) first.number newer.1.number).card := by
  have h : Accounted ssrc (mediaNumbers ssrc events) s.receiver.mediaPart s.accepted := by
    refine System.run_invariant
      (I := fun es s => Accounted ssrc (mediaNumbers ssrc es) s.receiver.mediaPart s.accepted)
      hok hrun ?_ ?_
    · refine ⟨rfl, ⟨[], rfl⟩, ?_, ?_, ⟨List.isChain_nil, rfl⟩, List.nil_suffix, fun _ => rfl, ?_,
        rfl⟩
      · rintro - u hu
        cases hu
      · intro last hlast
        cases hlast
      · intro hfull
        exact absurd hfull (by decide : ¬bufferSize ≤ 0)
    · intro es e t t' ht hone hstep
      exact accounted_step ht hone hstep
  obtain ⟨before, x, y, post, hsplit, hpost, hdrop, htake⟩ :=
    exists_newest_pair (le_trans (by decide) hreleased)
  have hsplit₂ : s.accepted = (before ++ [x, y]) ++ post := by
    rw [hsplit, List.append_assoc]
    rfl
  -- the newer packet of the last check is the twentieth from the end of the buffer
  obtain ⟨older, holder⟩ := h.recent
  have hnewer : fromEnd (s.receiver.jpegPacketIncomingBuffer.map Prod.fst) mediaPacketDelay =
      some y := by
    have hend := fromEnd_append older post y
    rw [hdrop] at holder
    have hbuffer : older ++ y :: post = s.receiver.jpegPacketIncomingBuffer.map Prod.fst := holder
    rwa [hpost, hbuffer] at hend
  rw [fromEnd_map, Option.map_eq_some_iff] at hnewer
  obtain ⟨newer, hnewer, rfl⟩ := hnewer
  obtain ⟨first, rest, hfirst⟩ : ∃ first rest, before ++ [x] = first :: rest :=
    List.exists_cons_of_ne_nil (by simp)
  obtain ⟨pre, hpre⟩ := h.arrived
  have hnumbers : (before ++ [x, newer.1]).map CustomJpegPacket.number =
      first.number :: (rest ++ [newer.1]).map CustomJpegPacket.number := by
    rw [List.append_cons, hfirst]
    rfl
  refine ⟨first, newer, ?_, hnewer, ?_⟩
  · rw [hsplit, List.append_cons, hfirst]
    rfl
  · have hcounted := h.counted
    rw [← List.map_take, htake, hnumbers] at hcounted
    rw [hpre, hsplit₂, List.map_append, hnumbers] at hmedia ⊢
    refine hcounted.trans (card_lostNumbers hmedia ?_).symm
    rw [List.map_append, ← List.cons_append]
    exact List.getLast?_concat ..

/-- One packet is lost and recovered. -/
theorem loss_accounting_recovered :
    ∃ s ∈ receptionSystem.run { receiver := { ssrc := 7 } } (lossyDatagrams [32] 52),
      s.receiver.corrected = 1 ∧ ∃ first newer, s.accepted.head? = some first ∧
        fromEnd s.receiver.jpegPacketIncomingBuffer mediaPacketDelay = some newer ∧
        s.receiver.corrected.toNat + s.receiver.uncorrectable.toNat =
          (lostNumbers (mediaNumbers 7 (lossyDatagrams [32] 52)) first.number
            newer.1.number).card := by
  obtain ⟨s, hrun, hcorrected, hreleased⟩ :
      ∃ s ∈ receptionSystem.run { receiver := { ssrc := 7 } } (lossyDatagrams [32] 52),
        s.receiver.corrected = 1 ∧ bufferSize ≤ s.accepted.length := by
    decide +kernel
  have hok : receptionSystem.Meets Reception.CountsLosses { receiver := { ssrc := 7 } }
      (lossyDatagrams [32] 52) := by
    decide +kernel
  have hmedia : (mediaNumbers 7 (lossyDatagrams [32] 52)).Pairwise (· < ·) := by
    decide
  exact ⟨s, hrun, hcorrected, loss_accounting hrun hok hmedia hreleased⟩

/-- Two packets are lost in a row and counted as one. -/
theorem loss_accounting_burst :
    ¬∀ (ssrc : UInt32) (events : List ReceiverEvent) (s : Reception),
      receptionSystem.run { receiver := { ssrc := ssrc } } events = some s →
        (mediaNumbers ssrc events).Pairwise (· < ·) →
        (mediaNumbers ssrc events).IsChain (fun a b => b ≤ a + 3000) →
        bufferSize ≤ s.accepted.length →
        ∀ first newer, s.accepted.head? = some first →
          fromEnd s.receiver.jpegPacketIncomingBuffer mediaPacketDelay = some newer →
          s.receiver.corrected.toNat + s.receiver.uncorrectable.toNat =
            (lostNumbers (mediaNumbers ssrc events) first.number newer.1.number).card := by
  intro h
  obtain ⟨s, hrun, hreleased, first, hfirst, newer, hnewer, hlosses, hcard⟩ :
      ∃ s ∈ receptionSystem.run { receiver := { ssrc := 7 } } (lossyDatagrams [32, 33] 53),
        bufferSize ≤ s.accepted.length ∧ ∃ first ∈ s.accepted.head?,
          ∃ newer ∈ fromEnd s.receiver.jpegPacketIncomingBuffer mediaPacketDelay,
          s.receiver.corrected.toNat + s.receiver.uncorrectable.toNat = 1 ∧
            (lostNumbers (mediaNumbers 7 (lossyDatagrams [32, 33] 53)) first.number
              newer.1.number).card = 2 := by
    decide +kernel
  have hmedia : (mediaNumbers 7 (lossyDatagrams [32, 33] 53)).Pairwise (· < ·) := by
    decide
  have hnear : (mediaNumbers 7 (lossyDatagrams [32, 33] 53)).IsChain
      (fun a b => b ≤ a + 3000) := by
    decide
  have hclaim := h 7 _ s hrun hmedia hnear hreleased first newer hfirst hnewer
  rw [hlosses, hcard] at hclaim
  exact absurd hclaim (by decide)

end Rtp
