import StreamingLib.Rtp.SequenceUnwrapping

/-!
# Loss figures

The lost packets are the expected ones less the received ones, as numbers without sign. A packet
that is received again, or late, is counted once more as received, while a number that is passed
over is counted as expected.
-/

namespace Rtp

open Transition

/-- A utility with what has happened since its sequence started. -/
structure Tally where
  utility : SequenceUtility
  /-- The numbers that were passed over. -/
  skipped : ℕ := 0
  /-- The accepted numbers that did not move the highest one on. -/
  repeated : ℕ := 0
deriving DecidableEq

/-- A number that is the highest one or at most 99 behind it. -/
def SequenceUtility.Repeats (u : SequenceUtility) (seq : UInt16) : Prop :=
  u.udelta seq = 0 ∨ 65436 < u.udelta seq

instance (u : SequenceUtility) (seq : UInt16) : Decidable (u.Repeats seq) :=
  inferInstanceAs (Decidable (_ ∨ _))

namespace Tally

def updateSeq (t : Tally) (seq : UInt16) : Tally :=
  let utility := (t.utility.updateSeq seq).1
  if t.utility.probation ≠ 0 then { utility := utility }
  else if t.utility.Repeats seq then { t with utility := utility, repeated := t.repeated + 1 }
  else if t.utility.udelta seq < 3000 then
    { t with utility := utility, skipped := t.skipped + (t.utility.udelta seq - 1) }
  else if seq.toUInt32 = t.utility.badSeq then { utility := utility }
  else { t with utility := utility }

/-- Once the source is validated, a number is repeated only where fewer were repeated than passed
over, and the counters stay below `2 ^ 32`. -/
def Balanced (t : Tally) (seq : UInt16) : Prop :=
  t.utility.probation = 0 → (t.utility.Repeats seq → t.repeated < t.skipped) ∧
    (t.utility.udelta seq < 3000 →
      t.utility.extendedMax.toNat + t.utility.udelta seq < 2 ^ 32 ∧
      t.utility.expected.toNat + t.utility.udelta seq < 2 ^ 32)

instance (t : Tally) (seq : UInt16) : Decidable (t.Balanced seq) :=
  inferInstanceAs (Decidable (_ → _))

end Tally

/-- A new utility, and one number after the other. -/
def tallySystem : System Tally UInt16 where
  init t := ∃ seq, t = { utility := .new seq }
  step t seq := some (t.updateSeq seq)

namespace Tally

/-- What a validated source has counted since it started at `b`. -/
structure Counted (t : Tally) (b advanced : ℕ) : Prop where
  follows : t.utility.Follows b (b + advanced + t.skipped) (advanced + t.repeated)
  lt : b + advanced + t.skipped < 2 ^ 32
  expected_lt : 1 + advanced + t.skipped < 2 ^ 32
  le : t.repeated ≤ t.skipped

variable {t : Tally} {b advanced : ℕ} {seq : UInt16}

/-- The sequence starts with this number. -/
lemma counted_of_start {u : SequenceUtility}
    (hu : u = { t.utility.initSeq seq with probation := 0, received := 1 }) :
    ({ utility := u } : Tally).Counted seq.toNat 0 := by
  subst hu
  have hseq : seq.toNat < 65536 := seq.toNat_lt
  refine ⟨SequenceUtility.follows_initSeq t.utility seq, ?_, (by decide : 1 < 2 ^ 32), le_rfl⟩
  dsimp only
  omega

lemma Counted.toNat_extendedMax (h : t.Counted b advanced) :
    t.utility.extendedMax.toNat = b + advanced + t.skipped := by
  rw [h.follows.toNat_extendedMax, Nat.mod_eq_of_lt h.lt]

lemma Counted.toNat_expected (h : t.Counted b advanced) :
    t.utility.expected.toNat = 1 + advanced + t.skipped := by
  rw [h.follows.toNat_expected (by omega) h.lt]
  omega

lemma Counted.toNat_received (h : t.Counted b advanced) :
    t.utility.received.toNat = 1 + advanced + t.repeated := by
  have hle := h.le
  have hlt := h.expected_lt
  rw [h.follows.received, ← Nat.add_assoc]
  apply Nat.mod_eq_of_lt
  omega

lemma Counted.follows_repeat (h : t.Counted b advanced) (hrepeats : t.utility.Repeats seq) :
    (t.utility.updateSeq seq).1.Follows b (b + advanced + t.skipped)
      (advanced + t.repeated + 1) := by
  rcases hrepeats with hzero | hlate
  · have hstep := h.follows.advance (hzero ▸ by decide : t.utility.udelta seq < 3000)
    rw [h.follows.udelta_eq] at hzero
    rw [Serial.advance_of_lt (hzero ▸ by decide), hzero] at hstep
    exact hstep
  · exact h.follows.late hlate

/-- A number that moves the highest one on. -/
lemma Counted.skip (h : t.Counted b advanced) (hpos : t.utility.udelta seq ≠ 0)
    (hlt : t.utility.udelta seq < 3000)
    (hext : t.utility.extendedMax.toNat + t.utility.udelta seq < 2 ^ 32)
    (hexpected : t.utility.expected.toNat + t.utility.udelta seq < 2 ^ 32) :
    ({ t with
      utility := (t.utility.updateSeq seq).1
      skipped := t.skipped + (t.utility.udelta seq - 1) } : Tally).Counted b (advanced + 1) := by
  have hstep := h.follows.advance hlt
  have hle := h.le
  rw [h.toNat_extendedMax] at hext
  rw [h.toNat_expected] at hexpected
  rw [h.follows.udelta_eq] at hlt
  rw [Serial.advance_of_lt hlt, ← h.follows.udelta_eq] at hstep
  have hnumber : b + advanced + t.skipped + t.utility.udelta seq =
      b + (advanced + 1) + (t.skipped + (t.utility.udelta seq - 1)) := by omega
  have hcount : advanced + t.repeated + 1 = advanced + 1 + t.repeated := by omega
  rw [hnumber, hcount] at hstep
  refine ⟨hstep, ?_, ?_, ?_⟩
  · rwa [hnumber] at hext
  · dsimp only
    omega
  · exact le_trans hle (Nat.le_add_right _ _)

lemma Counted.updateSeq (h : t.Counted b advanced) (hok : t.Balanced seq) :
    ∃ b advanced, (t.updateSeq seq).Counted b advanced := by
  have hvalid := h.follows.probation
  obtain ⟨hrepeated, hbounded⟩ := hok hvalid
  unfold Tally.updateSeq
  dsimp only
  rw [if_neg (not_not.mpr hvalid)]
  by_cases hrepeats : t.utility.Repeats seq
  · rw [if_pos hrepeats]
    exact ⟨b, advanced, h.follows_repeat hrepeats, h.lt, h.expected_lt, hrepeated hrepeats⟩
  · rw [if_neg hrepeats]
    obtain ⟨hpos, hle⟩ := not_or.mp hrepeats
    by_cases hlt : t.utility.udelta seq < 3000
    · rw [if_pos hlt]
      obtain ⟨hext, hexpected⟩ := hbounded hlt
      exact ⟨b, advanced + 1, h.skip hpos hlt hext hexpected⟩
    · rw [if_neg hlt]
      have hjump := not_lt.mp hlt
      have hback := not_lt.mp hle
      by_cases hbad : seq.toUInt32 = t.utility.badSeq
      · rw [if_pos hbad]
        exact ⟨seq.toNat, 0, counted_of_start
          (congrArg Prod.fst (SequenceUtility.updateSeq_of_restart hvalid hjump hback hbad))⟩
      · rw [if_neg hbad]
        exact ⟨b, advanced, h.follows.jump hjump hback hbad, h.lt, h.expected_lt, h.le⟩

/-- As long as the source is not validated, only the call that validates it counts. -/
lemma counted_of_probation (hprobation : t.utility.probation ≠ 0)
    (hvalid : (t.updateSeq seq).utility.probation = 0) :
    ∃ b advanced, (t.updateSeq seq).Counted b advanced := by
  unfold Tally.updateSeq at hvalid ⊢
  dsimp only at hvalid ⊢
  rw [if_pos hprobation] at hvalid ⊢
  have hone := SequenceUtility.updateSeq_validates hprobation hvalid
  exact ⟨seq.toNat, 0, counted_of_start
    (congrArg Prod.fst (SequenceUtility.updateSeq_of_probation hprobation hone))⟩

lemma counted_of_reachable (ht : tallySystem.Reachable Tally.Balanced t)
    (hvalid : t.utility.probation = 0) : ∃ b advanced, t.Counted b advanced := by
  revert hvalid
  refine ht.invariant (I := fun t => t.utility.probation = 0 → ∃ b advanced, t.Counted b advanced)
    ?_ ?_
  · rintro t ⟨seq, rfl⟩ hvalid
    exact absurd hvalid (by decide : SequenceUtility.minSequential ≠ 0)
  · intro t seq t' ih hok hstep hvalid
    cases hstep
    by_cases hprobation : t.utility.probation = 0
    · obtain ⟨b, advanced, hcounted⟩ := ih hprobation
      exact hcounted.updateSeq hok
    · exact counted_of_probation hprobation hvalid

/-- Where as many numbers were repeated as passed over, the next repeated one is too many. -/
lemma Counted.exceeded_of_repeat (h : t.Counted b advanced) (hrepeats : t.utility.Repeats seq)
    (heq : t.repeated = t.skipped) (hbound : t.utility.expected.toNat + 1 < 2 ^ 32) :
    (t.updateSeq seq).utility.expected < (t.updateSeq seq).utility.receivedPackets.toUInt64 := by
  have hfollows := h.follows_repeat hrepeats
  have hutility : (t.updateSeq seq).utility = (t.utility.updateSeq seq).1 := by
    rw [Tally.updateSeq, if_neg (not_not.mpr h.follows.probation), if_pos hrepeats]
  rw [h.toNat_expected] at hbound
  have hreceived : (t.utility.updateSeq seq).1.received.toNat = 1 + advanced + t.skipped + 1 := by
    rw [hfollows.received, heq, ← Nat.add_assoc, ← Nat.add_assoc]
    exact Nat.mod_eq_of_lt hbound
  rw [hutility, UInt64.lt_iff_toNat_lt, hfollows.toNat_expected (by omega) h.lt,
    SequenceUtility.receivedPackets, UInt32.toNat_toUInt64, hreceived]
  omega

end Tally

/-- As long as no more numbers are repeated than were passed over, no more packets are received than
expected, and the lost packets are a count: the numbers that were passed over less the repeated
ones. -/
theorem received_le_expected {t : Tally} (ht : tallySystem.Reachable Tally.Balanced t)
    (hvalid : t.utility.probation = 0) :
    t.utility.receivedPackets.toUInt64 ≤ t.utility.expected ∧
      t.utility.lost.toNat = t.utility.expected.toNat - t.utility.receivedPackets.toNat ∧
      t.utility.lost.toNat = t.skipped - t.repeated := by
  obtain ⟨b, advanced, h⟩ := Tally.counted_of_reachable ht hvalid
  have hreceived : t.utility.received.toUInt64.toNat = 1 + advanced + t.repeated :=
    (UInt32.toNat_toUInt64 _).trans h.toNat_received
  have hle : t.utility.received.toUInt64 ≤ t.utility.expected := by
    rw [UInt64.le_iff_toNat_le, h.toNat_expected, hreceived]
    exact Nat.add_le_add_left h.le _
  have hlost : t.utility.lost.toNat = 1 + advanced + t.skipped - (1 + advanced + t.repeated) := by
    rw [SequenceUtility.lost, UInt64.toNat_sub_of_le _ _ hle, h.toNat_expected, hreceived]
  refine ⟨hle, ?_, ?_⟩
  · rw [hlost, SequenceUtility.receivedPackets, h.toNat_expected, h.toNat_received]
  · rw [hlost, Nat.add_sub_add_left]

/-- Two numbers are passed over and one comes late. -/
theorem received_le_expected_late :
    ∃ t ∈ tallySystem.run { utility := .new 7 } [7, 8, 11, 9],
      t.utility.received = 3 ∧ t.utility.receivedPackets.toUInt64 ≤ t.utility.expected ∧
        t.utility.lost.toNat = 1 := by
  obtain ⟨t, hrun, hvalid, hreceived, hcount⟩ :
      ∃ t ∈ tallySystem.run { utility := .new 7 } [7, 8, 11, 9], t.utility.probation = 0 ∧
        t.utility.received = 3 ∧ t.skipped - t.repeated = 1 := by
    decide
  have hinit : tallySystem.Reachable Tally.Balanced { utility := .new 7 } := .init ⟨7, rfl⟩
  have hok : tallySystem.Meets Tally.Balanced { utility := .new 7 } [7, 8, 11, 9] := by
    decide
  obtain ⟨hle, -, hlost⟩ := received_le_expected (hinit.run hok hrun) hvalid
  exact ⟨t, hrun, hreceived, hle, hlost.trans hcount⟩

/-- A packet that arrives twice. -/
theorem expected_lt_received :
    ¬∀ t, tallySystem.Reachable Always t → t.utility.probation = 0 →
      t.utility.receivedPackets.toUInt64 ≤ t.utility.expected := by
  intro h
  obtain ⟨t, hrun, hvalid, hlt⟩ :
      ∃ t ∈ tallySystem.run { utility := .new 7 } [7, 8, 8], t.utility.probation = 0 ∧
        t.utility.expected < t.utility.receivedPackets.toUInt64 := by
    decide
  have hinit : tallySystem.Reachable Always { utility := .new 7 } := .init ⟨7, rfl⟩
  exact absurd (h t (hinit.run (System.meets_always _ _ _) hrun) hvalid) (UInt64.not_le.mpr hlt)

end Rtp
