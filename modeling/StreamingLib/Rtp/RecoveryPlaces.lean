import StreamingLib.Rtp.Receiving

/-!
# The places of a recovery

`recover_packet_by_fec` finds its media packets by their distance from the end of the incoming
buffer. The FEC packet may protect more packets than the buffer has on either side of the gap.
-/

namespace Rtp

open Transition

/-! ### Places inside the buffer -/

variable {buffer : List MediaPacket} {fecBuffer : List (CustomFecPacket × Octets)} {n : ℤ}

lemma atPlace_eq_none_iff {α : Type} {l : List α} {i : ℤ} :
    atPlace l i = none ↔ i < 0 ∨ (l.length : ℤ) ≤ i := by
  unfold atPlace
  split_ifs with h
  · rw [List.getElem?_eq_none_iff]
    omega
  · exact iff_of_true rfl (Or.inl (not_le.mp h))

/-- A packet with another sequence number than the one looked for at its place. -/
def Mismatch (buffer : List MediaPacket) (places : List (ℤ × ℤ)) : Prop :=
  ∃ place ∈ places, ∃ packet, atPlace buffer place.1 = some packet ∧
    (packet.1.number : ℤ) ≠ place.2

lemma mismatch_cons (place : ℤ × ℤ) (places : List (ℤ × ℤ)) :
    Mismatch buffer (place :: places) ↔
      (∃ packet, atPlace buffer place.1 = some packet ∧ (packet.1.number : ℤ) ≠ place.2) ∨
        Mismatch buffer places :=
  List.exists_mem_cons_iff ..

/-- From the front to the back, the selection stays inside the buffer where no place is before it
and one behind it is not reached. -/
lemma selectMedia_isOk_iff_of_sorted {places : List (ℤ × ℤ)}
    (hsorted : places.Pairwise fun p q => p.1 < q.1) :
    (selectMedia buffer places).isOk = true ↔
      (∀ p ∈ places, 0 ≤ p.1) ∧
        ((∃ p ∈ places, (buffer.length : ℤ) ≤ p.1) → Mismatch buffer places) := by
  induction places with
  | nil => exact iff_of_true rfl ⟨List.forall_mem_nil _, fun ⟨p, hp, _⟩ => by cases hp⟩
  | cons place places ih =>
    obtain ⟨hfirst, hsorted⟩ := List.pairwise_cons.mp hsorted
    rw [selectMedia, List.forall_mem_cons, List.exists_mem_cons_iff, mismatch_cons]
    cases hplace : atPlace buffer place.1 with
    | none =>
      refine iff_of_false Bool.false_ne_true ?_
      rintro ⟨⟨hnonneg, -⟩, hreached⟩
      have hbehind : (buffer.length : ℤ) ≤ place.1 :=
        (atPlace_eq_none_iff.mp hplace).resolve_left (not_lt.mpr hnonneg)
      rcases hreached (Or.inl hbehind) with ⟨packet, hpacket, -⟩ | ⟨p, hp, packet, hpacket, -⟩
      · cases hpacket
      · rw [atPlace_eq_none_iff.mpr (Or.inr (hbehind.trans (hfirst p hp).le))] at hpacket
        cases hpacket
    | some packet =>
      have hinside : ¬(place.1 < 0 ∨ (buffer.length : ℤ) ≤ place.1) := by
        rw [← atPlace_eq_none_iff, hplace]
        exact Option.some_ne_none packet
      push Not at hinside
      dsimp only
      by_cases hnumber : (packet.1.header.sequenceNumber.toNat : ℤ) = place.2
      · have hmap : ((selectMedia buffer places).map (Option.map (packet :: ·))).isOk =
            (selectMedia buffer places).isOk := by
          cases selectMedia buffer places <;> rfl
        have hmatch : ¬∃ q, some packet = some q ∧ (q.1.number : ℤ) ≠ place.2 := by
          rintro ⟨q, hq, hne⟩
          cases hq
          exact hne hnumber
        rw [if_pos hnumber, hmap, ih hsorted]
        simp only [hinside.1, not_le.mpr hinside.2, hmatch, true_and, false_or]
      · rw [if_neg hnumber]
        refine iff_of_true rfl ⟨⟨hinside.1, ?_⟩, fun _ => Or.inl ⟨packet, rfl, hnumber⟩⟩
        exact fun p hp => hinside.1.trans (hfirst p hp).le

variable {level : CustomFecLevelHeader} {size seqI : ℕ}

lemma mem_mediaPlaces {place : ℤ × ℤ} :
    place ∈ mediaPlaces level size n seqI ↔
      (∃ u < seqI, level.protects u = true ∧
        place = ((size : ℤ) - mediaPacketDelay - seqI + u, n - seqI + u)) ∨
      ∃ u, seqI < u ∧ u ≤ 63 ∧ level.protects u = true ∧
        place = ((size : ℤ) - mediaPacketDelay + (u - seqI - 1), n + (u - seqI)) := by
  unfold mediaPlaces
  rw [List.mem_append, List.mem_map, List.mem_map]
  refine or_congr ?_ ?_
  · constructor
    · rintro ⟨u, hu, rfl⟩
      rw [List.mem_filter, List.mem_range] at hu
      exact ⟨u, hu.1, hu.2, rfl⟩
    · rintro ⟨u, hlt, hbit, rfl⟩
      exact ⟨u, List.mem_filter.mpr ⟨List.mem_range.mpr hlt, hbit⟩, rfl⟩
  · constructor
    · rintro ⟨u, hu, rfl⟩
      rw [List.mem_filter, List.mem_range'_1] at hu
      exact ⟨u, hu.1.1, by omega, hu.2, rfl⟩
    · rintro ⟨u, hlt, hle, hbit, rfl⟩
      exact ⟨u, List.mem_filter.mpr ⟨List.mem_range'_1.mpr ⟨hlt, by omega⟩, hbit⟩, rfl⟩

lemma pairwise_mediaPlaces (level : CustomFecLevelHeader) (size : ℕ) (n : ℤ) (seqI : ℕ) :
    (mediaPlaces level size n seqI).Pairwise fun p q => p.1 < q.1 := by
  unfold mediaPlaces
  rw [List.pairwise_append]
  refine ⟨?_, ?_, ?_⟩
  · refine (List.pairwise_lt_range.filter _).map _ fun u v huv => ?_
    exact add_lt_add_right (by exact_mod_cast huv) _
  · refine ((List.pairwise_lt_range' _).filter _).map _ fun u v huv => ?_
    dsimp only
    omega
  · intro p hp q hq
    obtain ⟨u, hu, rfl⟩ := List.mem_map.mp hp
    obtain ⟨v, hv, rfl⟩ := List.mem_map.mp hq
    rw [List.mem_filter, List.mem_range] at hu
    rw [List.mem_filter, List.mem_range'_1] at hv
    dsimp only
    omega

/-! ### Recovery -/

/-- A recovery stays inside the buffer: every FEC packet that is looked at has a level, the lowest
packet protected by the one that is taken is not before the buffer, and one protected behind the
buffer is not reached. -/
structure StaysInside (buffer : List MediaPacket) (fecBuffer : List (CustomFecPacket × Octets))
    (n : ℤ) : Prop where
  levels : HasLevels fecBuffer n
  before : ∀ fec level, IsTaken fecBuffer n fec level → ∀ u < fec.1.seqI n,
    level.protects u = true → fec.1.seqI n + mediaPacketDelay ≤ buffer.length + u
  behind : ∀ fec level, IsTaken fecBuffer n fec level → ∀ u, fec.1.seqI n + mediaPacketDelay < u →
    u ≤ 63 → level.protects u = true →
    Mismatch buffer (mediaPlaces level buffer.length n (fec.1.seqI n))

lemma selectMedia_mediaPlaces_isOk_iff (hdelay : mediaPacketDelay ≤ buffer.length) :
    (selectMedia buffer (mediaPlaces level buffer.length n seqI)).isOk = true ↔
      (∀ u < seqI, level.protects u = true → seqI + mediaPacketDelay ≤ buffer.length + u) ∧
        ∀ u, seqI + mediaPacketDelay < u → u ≤ 63 → level.protects u = true →
          Mismatch buffer (mediaPlaces level buffer.length n seqI) := by
  rw [selectMedia_isOk_iff_of_sorted (pairwise_mediaPlaces level buffer.length n seqI)]
  constructor
  · rintro ⟨hbefore, hbehind⟩
    refine ⟨fun u hu hbit => ?_, fun u hu hle hbit => hbehind ?_⟩
    · have hplace := hbefore _ (mem_mediaPlaces.mpr (Or.inl ⟨u, hu, hbit, rfl⟩))
      dsimp only at hplace
      omega
    · refine ⟨_, mem_mediaPlaces.mpr (Or.inr ⟨u, by omega, hle, hbit, rfl⟩), ?_⟩
      dsimp only
      omega
  · rintro ⟨hbefore, hbehind⟩
    refine ⟨fun p hp => ?_, ?_⟩
    · rcases mem_mediaPlaces.mp hp with ⟨u, hu, hbit, rfl⟩ | ⟨u, hu, -, hbit, rfl⟩
      · have hle := hbefore u hu hbit
        dsimp only
        omega
      · dsimp only
        omega
    · rintro ⟨p, hp, hlength⟩
      rcases mem_mediaPlaces.mp hp with ⟨u, hu, hbit, rfl⟩ | ⟨u, hu, hle, hbit, rfl⟩
      · dsimp only at hlength
        omega
      · dsimp only at hlength
        exact hbehind u (by omega) hle hbit

/-- The two faults of a recovery that are about indexes. -/
lemma recoveredPacket_ne_error_iff (hdelay : mediaPacketDelay ≤ buffer.length)
    {closing : MediaPacket} (hclosing : fromEnd buffer mediaPacketDelay = some closing) :
    recoveredPacket buffer fecBuffer ≠ .error .outsideBuffer ∧
      recoveredPacket buffer fecBuffer ≠ .error .outOfRange ↔
    StaysInside buffer fecBuffer (closing.1.number - 1) := by
  by_cases hlevels : HasLevels fecBuffer (closing.1.number - 1)
  · by_cases htaken : ∃ fec level, IsTaken fecBuffer (closing.1.number - 1) fec level
    · obtain ⟨fec, level, htaken⟩ := htaken
      have hinside : StaysInside buffer fecBuffer (closing.1.number - 1) ↔
          (selectMedia buffer (mediaPlaces level buffer.length (closing.1.number - 1)
            (fec.1.seqI (closing.1.number - 1)))).isOk = true := by
        rw [selectMedia_mediaPlaces_isOk_iff hdelay]
        constructor
        · intro h
          exact ⟨h.before fec level htaken, h.behind fec level htaken⟩
        · rintro ⟨hbefore, hbehind⟩
          refine ⟨hlevels, fun fec' level' htaken' => ?_, fun fec' level' htaken' => ?_⟩
          · obtain ⟨rfl, rfl⟩ := htaken.unique hlevels htaken'
            exact hbefore
          · obtain ⟨rfl, rfl⟩ := htaken.unique hlevels htaken'
            exact hbehind
      rw [hinside, recoveredPacket_of_taken hclosing hlevels htaken]
      rcases hselect : selectMedia buffer (mediaPlaces level buffer.length (closing.1.number - 1)
          (fec.1.seqI (closing.1.number - 1))) with fault | - | media
      · rw [selectMedia_eq_error hselect]
        exact iff_of_false (fun h => h.1 rfl) Bool.false_ne_true
      · exact iff_of_true (by simp) rfl
      · dsimp only
        cases fecReconstruction fec media with
        | none => exact iff_of_true (by simp) rfl
        | some packet => exact iff_of_true (by simp) rfl
    · have hnone : ∀ fec level, ¬IsTaken fecBuffer (closing.1.number - 1) fec level :=
        fun fec level h => htaken ⟨fec, level, h⟩
      rw [recoveredPacket_of_none_taken hclosing hlevels hnone]
      refine iff_of_true (by simp) ⟨hlevels, ?_, ?_⟩
      · exact fun fec level h => absurd h (hnone fec level)
      · exact fun fec level h => absurd h (hnone fec level)
  · rw [recoveredPacket_of_not_hasLevels hclosing hlevels]
    exact iff_of_false (fun h => h.2 rfl) fun h => hlevels h.levels

namespace Receiver

variable {r : Receiver}

/-- No iterator outside the incoming buffer is dereferenced, and no missing level is asked for. -/
def IndexesExisting (r : Receiver) : Prop :=
  r.recoverPacketByFec.2 ≠ .error .outsideBuffer ∧ r.recoverPacketByFec.2 ≠ .error .outOfRange

instance (r : Receiver) : Decidable r.IndexesExisting := inferInstanceAs (Decidable (_ ∧ _))

lemma indexesExisting_iff_recoveredPacket :
    r.IndexesExisting ↔
      recoveredPacket r.jpegPacketIncomingBuffer r.fecPacketIncomingBuffer ≠
          .error .outsideBuffer ∧
        recoveredPacket r.jpegPacketIncomingBuffer r.fecPacketIncomingBuffer ≠
          .error .outOfRange := by
  unfold IndexesExisting recoverPacketByFec
  rcases recoveredPacket r.jpegPacketIncomingBuffer r.fecPacketIncomingBuffer with
    fault | - | packet
  · simp
  · simp
  · simp

/-- With a full buffer and any FEC packets. -/
theorem recovery_indexes_iff (hfull : bufferSize ≤ r.jpegPacketIncomingBuffer.length) :
    r.IndexesExisting ↔
      ∀ closing ∈ fromEnd r.jpegPacketIncomingBuffer mediaPacketDelay,
        StaysInside r.jpegPacketIncomingBuffer r.fecPacketIncomingBuffer
          (closing.1.number - 1) := by
  have hdelay : mediaPacketDelay ≤ r.jpegPacketIncomingBuffer.length :=
    le_trans (by decide) hfull
  obtain ⟨closing, hclosing⟩ := fromEnd_of_le (by decide) hdelay
  rw [indexesExisting_iff_recoveredPacket, recoveredPacket_ne_error_iff hdelay hclosing]
  constructor
  · intro h closing' hclosing'
    rw [hclosing] at hclosing'
    cases hclosing'
    exact h
  · intro h
    exact h closing hclosing

/-- All media packets but number 32, and the FEC packet for a group of which it is one, sent
twice. -/
def groupDatagrams (first size : ℕ) : List ReceiverEvent :=
  gapDatagrams ++ [0, 1].map fun i => .datagram false
    ((fullFecPacket ((List.range' first size).map smallPacket) i).getD [])

/-- The receiver when packet 52 is in its buffer. -/
def withNewest (r : Receiver) : Receiver :=
  { r with jpegPacketIncomingBuffer :=
      r.jpegPacketIncomingBuffer ++ [(smallPacket 52, raw (smallPacket 52))] }

/-- A group of two packets. -/
theorem recovery_indexes_iff_pair :
    ∃ s ∈ receptionSystem.run { receiver := { ssrc := 7 } } (groupDatagrams 31 2),
      s.receiver.withNewest.recoverPacketByFec.2 = .ok true ∧
      ∀ closing ∈ fromEnd s.receiver.withNewest.jpegPacketIncomingBuffer mediaPacketDelay,
        StaysInside s.receiver.withNewest.jpegPacketIncomingBuffer
          s.receiver.withNewest.fecPacketIncomingBuffer (closing.1.number - 1) := by
  obtain ⟨s, hrun, hrecovers, hfull, hindexes⟩ :
      ∃ s ∈ receptionSystem.run { receiver := { ssrc := 7 } } (groupDatagrams 31 2),
        s.receiver.withNewest.recoverPacketByFec.2 = .ok true ∧
        bufferSize ≤ s.receiver.withNewest.jpegPacketIncomingBuffer.length ∧
          s.receiver.withNewest.IndexesExisting := by
    decide +kernel
  exact ⟨s, hrun, hrecovers, (recovery_indexes_iff hfull).mp hindexes⟩

/-- A group of 48 packets, the first of which has left the buffer. -/
theorem recovery_indexes_before :
    ¬∀ r : Receiver, bufferSize ≤ r.jpegPacketIncomingBuffer.length →
      (∃ s, receptionSystem.Reachable Always s ∧
        s.receiver.fecPacketIncomingBuffer = r.fecPacketIncomingBuffer) → r.IndexesExisting := by
  intro h
  obtain ⟨s, hrun, hfull, hindexes⟩ :
      ∃ s ∈ receptionSystem.run { receiver := { ssrc := 7 } } (groupDatagrams 1 48),
        bufferSize ≤ s.receiver.withNewest.jpegPacketIncomingBuffer.length ∧
          ¬s.receiver.withNewest.IndexesExisting := by
    decide +kernel
  have hinit : receptionSystem.Reachable Always { receiver := { ssrc := 7 } } :=
    .init ⟨7, false, rfl⟩
  have hreachable := hinit.run (System.meets_always _ _ _) hrun
  exact hindexes (h _ hfull ⟨s, hreachable, rfl⟩)

end Receiver

end Rtp
