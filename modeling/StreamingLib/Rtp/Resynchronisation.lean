import StreamingLib.Rtp.SequenceUnwrapping

/-!
# Resynchronisation

A validated `rtp_receiver_squence_utility` rejects a very large jump and remembers the number after
it; a packet with that number starts the sequence again. Nothing forgets the number in between, so
that two stray packets restart a source however many packets in order arrive between them.
-/

namespace Rtp

namespace SequenceUtility

/-! ### Large jumps -/

/-- The sequence number of a validated source made a very large jump. -/
def LargeJump (u : SequenceUtility) (seq : UInt16) : Prop :=
  u.probation = 0 ∧ maxDropout ≤ (seq - u.maxSeq).toNat ∧
    (seq - u.maxSeq).toUInt32 ≤ rtpSeqMod - maxMisorder

instance (u : SequenceUtility) (seq : UInt16) : Decidable (u.LargeJump seq) :=
  inferInstanceAs (Decidable (_ ∧ _))

/-- What the statistics are made of is as it was. -/
structure Kept (u u' : SequenceUtility) : Prop where
  maxSeq : u'.maxSeq = u.maxSeq
  cycles : u'.cycles = u.cycles
  baseSeq : u'.baseSeq = u.baseSeq
  received : u'.received = u.received

variable {u : SequenceUtility} {seq : UInt16}

lemma largeJump_iff : u.LargeJump seq ↔
    u.probation = 0 ∧ 3000 ≤ u.udelta seq ∧ u.udelta seq ≤ 65436 := by
  rw [LargeJump, toUInt32_le_iff, toNat_sub_maxSeq]
  exact Iff.rfl

namespace LargeJump

lemma ne_maxSeq (h : u.LargeJump seq) : seq ≠ u.maxSeq := by
  rintro rfl
  have hle := h.2.1
  simp [maxDropout] at hle

/-- A large jump to the remembered number starts the sequence again. -/
lemma updateSeq_of_eq (h : u.LargeJump seq) (hbad : seq.toUInt32 = u.badSeq) :
    u.updateSeq seq = ({ u.initSeq seq with probation := 0, received := 1 }, true) := by
  obtain ⟨hvalid, hjump, hle⟩ := largeJump_iff.mp h
  exact updateSeq_of_restart hvalid hjump hle hbad

/-- Any other large jump only changes the remembered number. -/
lemma updateSeq_of_ne (h : u.LargeJump seq) (hbad : seq.toUInt32 ≠ u.badSeq) :
    u.updateSeq seq =
      ({ u with badSeq := (seq.toUInt32 + 1) &&& (rtpSeqMod - 1) }, false) := by
  obtain ⟨hvalid, hjump, hle⟩ := largeJump_iff.mp h
  exact updateSeq_of_jump hvalid hjump hle hbad

/-- A large jump is rejected exactly where it is not to the remembered number. -/
lemma snd_updateSeq (h : u.LargeJump seq) :
    (u.updateSeq seq).2 = false ↔ seq.toUInt32 ≠ u.badSeq := by
  by_cases hbad : seq.toUInt32 = u.badSeq
  · simp [h.updateSeq_of_eq hbad, hbad]
  · simp [h.updateSeq_of_ne hbad, hbad]

lemma kept_iff (h : u.LargeJump seq) :
    u.Kept (u.updateSeq seq).1 ↔ seq.toUInt32 ≠ u.badSeq := by
  by_cases hbad : seq.toUInt32 = u.badSeq
  · rw [h.updateSeq_of_eq hbad]
    simp only [hbad, ne_eq, not_true_eq_false, iff_false]
    intro hkept
    exact h.ne_maxSeq hkept.maxSeq
  · rw [h.updateSeq_of_ne hbad]
    simp only [ne_eq, hbad, not_false_eq_true, iff_true]
    exact ⟨rfl, rfl, rfl, rfl⟩

end LargeJump

/-- Every other call of a validated source counts the packet and keeps the base. -/
lemma updateSeq_of_not_largeJump (hvalid : u.probation = 0) (h : ¬u.LargeJump seq) :
    (u.updateSeq seq).1.baseSeq = u.baseSeq ∧
      (u.updateSeq seq).1.received = u.received + 1 := by
  by_cases hlt : u.udelta seq < 3000
  · rw [updateSeq_of_lt hvalid hlt]
    exact ⟨rfl, rfl⟩
  · have hlate : 65436 < u.udelta seq := by
      by_contra hle
      exact h (largeJump_iff.mpr ⟨hvalid, not_lt.mp hlt, not_lt.mp hle⟩)
    rw [updateSeq_of_late hvalid hlate]
    exact ⟨rfl, rfl⟩

/-- The number after `seq`, as it is remembered. -/
lemma toUInt32_eq_badSeq_iff (seq next : UInt16) :
    next.toUInt32 = (seq.toUInt32 + 1) &&& (rtpSeqMod - 1) ↔ next = seq + 1 := by
  rw [← UInt32.toNat_inj, ← UInt16.toNat_inj]
  have hmask : (rtpSeqMod - 1).toNat = 2 ^ 16 - 1 := by decide
  have hseq : seq.toNat < 65536 := seq.toNat_lt
  rw [UInt32.toNat_and, hmask, Nat.and_two_pow_sub_one_eq_mod, UInt32.toNat_add,
    UInt16.toNat_toUInt32, UInt16.toNat_toUInt32, UInt16.toNat_add, UInt32.toNat_one,
    UInt16.toNat_one, Nat.mod_eq_of_lt (show seq.toNat + 1 < 2 ^ 32 by omega)]

/-- No number is the one after `init_seq`. -/
lemma toUInt32_ne_badSeq (seq : UInt16) : seq.toUInt32 ≠ rtpSeqMod + 1 := by
  intro h
  have hseq : seq.toNat < 65536 := seq.toNat_lt
  have heq : seq.toNat = 65537 := by
    rw [← UInt16.toNat_toUInt32, h]
    decide
  omega

end SequenceUtility

/-! ### Histories -/

/-- A utility between two calls, with the last call: the utility it was made on and its number. -/
structure SequenceHistory where
  utility : SequenceUtility
  last : Option (SequenceUtility × UInt16) := none

namespace SequenceHistory

open Transition SequenceUtility

def new (seq : UInt16) : SequenceHistory where
  utility := .new seq

/-- Each event is a call of `update_seq`. -/
def updates : System SequenceHistory UInt16 where
  init s := ∃ seq, s = new seq
  step s seq := some {
    utility := (s.utility.updateSeq seq).1
    last := some (s.utility, seq) }

/-- The last call was rejected as a large jump with the number before `seq`. -/
def Preceded (s : SequenceHistory) (seq : UInt16) : Prop :=
  ∃ call ∈ s.last, call.1.LargeJump call.2 ∧ (call.1.updateSeq call.2).2 = false ∧
    seq = call.2 + 1

/-- A single large jump changes nothing the statistics are made of, and no other call starts the
sequence again. -/
structure TwoInARow (s : SequenceHistory) (seq : UInt16) : Prop where
  jump : s.utility.LargeJump seq → ¬s.Preceded seq → s.utility.Kept (s.utility.updateSeq seq).1
  other : s.utility.probation = 0 → ¬s.utility.LargeJump seq →
    (s.utility.updateSeq seq).1.baseSeq = s.utility.baseSeq ∧
      (s.utility.updateSeq seq).1.received = s.utility.received + 1

/-- A large jump arrives at the remembered number, and the last number was no large jump. -/
def HitsOldJump (s : SequenceHistory) (seq : UInt16) : Prop :=
  s.utility.LargeJump seq ∧ seq.toUInt32 = s.utility.badSeq ∧
    ∀ call ∈ s.last, ¬call.1.LargeJump call.2

/-- The utility is what the last call left, and a new one remembers no number. -/
def Follows (s : SequenceHistory) : Prop :=
  match s.last with
  | none => s.utility.badSeq = rtpSeqMod + 1
  | some (u, seq) => s.utility = (u.updateSeq seq).1

lemma follows_step {s s' : SequenceHistory} {seq : UInt16} (h : updates.step s seq = some s') :
    s'.Follows := by
  simp only [updates, Option.some.injEq] at h
  subst h
  exact rfl

/-- After a large jump, the remembered number is the one after it, or none. -/
lemma preceded_of_largeJump {s : SequenceHistory} {u : SequenceUtility} {seq next : UInt16}
    (hlast : s.last = some (u, seq)) (hfollows : s.Follows) (hjump : u.LargeJump seq)
    (hbad : next.toUInt32 = s.utility.badSeq) : s.Preceded next := by
  simp only [Follows, hlast] at hfollows
  by_cases hold : seq.toUInt32 = u.badSeq
  · rw [hfollows, hjump.updateSeq_of_eq hold] at hbad
    exact absurd hbad (toUInt32_ne_badSeq next)
  · have hrejected := hjump.snd_updateSeq.mpr hold
    rw [hfollows, hjump.updateSeq_of_ne hold] at hbad
    exact ⟨(u, seq), hlast, hjump, hrejected, (toUInt32_eq_badSeq_iff seq next).mp hbad⟩

/-- Of one call. -/
lemma twoInARow_iff {s : SequenceHistory} (hfollows : s.Follows) (seq : UInt16) :
    s.TwoInARow seq ↔ ¬s.HitsOldJump seq := by
  constructor
  · rintro hrow ⟨hjump, hbad, hlast⟩
    have hkept : s.utility.Kept (s.utility.updateSeq seq).1 := by
      apply hrow.jump hjump
      rintro ⟨call, hcall, hlarge, -, -⟩
      exact hlast call hcall hlarge
    exact hjump.kept_iff.mp hkept hbad
  · intro hold
    refine ⟨fun hjump hsingle => ?_, updateSeq_of_not_largeJump⟩
    rw [hjump.kept_iff]
    intro hbad
    apply hold
    refine ⟨hjump, hbad, ?_⟩
    rintro ⟨u, last⟩ hlast hlarge
    exact hsingle (preceded_of_largeJump hlast hfollows hlarge hbad)

/-- Every single large jump of a history leaves the statistics as they were, and only the second of
two large jumps in a row starts the sequence again, exactly where no large jump arrives at the
remembered number after a number that was none. -/
theorem resynchronisation_iff (first : UInt16) (seqs : List UInt16) :
    updates.Meets TwoInARow (new first) seqs ↔
      updates.Meets (fun s seq => ¬s.HitsOldJump seq) (new first) seqs := by
  apply System.meets_congr (I := Follows)
  · exact rfl
  · exact fun _ _ _ _ => follows_step
  · exact fun s seq hfollows => twoInARow_iff hfollows seq

/-- The jumps to 40000 and 40001 are not in a row, and the second one restarts the source. -/
theorem resynchronisation_stale :
    ¬∀ (first : UInt16) (seqs : List UInt16), updates.Meets TwoInARow (new first) seqs := by
  intro h
  have hrow := (h 7 [7, 8, 40000, 9, 40001]).2.2.2.2.1
  refine (twoInARow_iff (follows_step rfl) 40001).mp hrow ?_
  refine ⟨by decide, by decide, ?_⟩
  rintro call ⟨⟩
  decide

end SequenceHistory

end Rtp
