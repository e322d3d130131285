import StreamingLib.Counters.Serial
import StreamingLib.Rtp.Receiver

/-!
# Sequence unwrapping

`rtp_receiver_squence_utility` keeps the highest sequence number in 16 bits beside a count of
cycles. Once a source is validated, and as long as it does not restart, both together are a counter
without bound.
-/

namespace Rtp

namespace SequenceUtility

open Serial

/-! ### One number -/

/-- The forward distance of a number from the highest one. -/
def udelta (u : SequenceUtility) (seq : UInt16) : ℕ := ahead 65536 u.maxSeq.toNat seq.toNat

lemma toNat_sub_maxSeq (u : SequenceUtility) (seq : UInt16) :
    (seq - u.maxSeq).toNat = u.udelta seq := by
  have hmax : u.maxSeq.toNat < 65536 := u.maxSeq.toNat_lt
  have hseq : seq.toNat < 65536 := seq.toNat_lt
  rw [UInt16.toNat_sub, udelta]
  by_cases h : u.maxSeq.toNat ≤ seq.toNat
  · rw [ahead_of_le h hseq]
    omega
  · rw [ahead_of_lt (not_le.mp h) hmax]
    omega

variable {u : SequenceUtility} {seq : UInt16}

/-- A number in order, with a permissible gap. -/
lemma updateSeq_of_lt (hvalid : u.probation = 0) (h : u.udelta seq < 3000) :
    u.updateSeq seq = ({ u with
      maxSeq := seq
      cycles := if seq < u.maxSeq then u.cycles + rtpSeqMod else u.cycles
      received := u.received + 1 }, true) := by
  have hdropout : (seq - u.maxSeq).toNat < maxDropout := by
    rw [toNat_sub_maxSeq]
    exact h
  unfold updateSeq
  dsimp only
  rw [if_neg (not_not.mpr hvalid), if_pos hdropout]
  split_ifs
  · rfl
  · rfl

lemma not_lt_maxDropout (h : 3000 ≤ u.udelta seq) : ¬(seq - u.maxSeq).toNat < maxDropout := by
  rw [toNat_sub_maxSeq]
  exact not_lt.mpr h

lemma toUInt32_le_iff :
    (seq - u.maxSeq).toUInt32 ≤ rtpSeqMod - maxMisorder ↔ u.udelta seq ≤ 65436 := by
  rw [UInt32.le_iff_toNat_le, UInt16.toNat_toUInt32, toNat_sub_maxSeq]
  exact Iff.rfl

/-- The next number after a large jump starts the sequence again. -/
lemma updateSeq_of_restart (hvalid : u.probation = 0) (hjump : 3000 ≤ u.udelta seq)
    (hle : u.udelta seq ≤ 65436) (hbad : seq.toUInt32 = u.badSeq) :
    u.updateSeq seq = ({ u.initSeq seq with probation := 0, received := 1 }, true) := by
  rw [← hvalid]
  unfold updateSeq
  rw [if_neg (not_not.mpr hvalid), if_neg (not_lt_maxDropout hjump),
    if_pos (toUInt32_le_iff.mpr hle), if_pos hbad]
  rfl

/-- A large jump is only stored. -/
lemma updateSeq_of_jump (hvalid : u.probation = 0) (hjump : 3000 ≤ u.udelta seq)
    (hle : u.udelta seq ≤ 65436) (hbad : seq.toUInt32 ≠ u.badSeq) :
    u.updateSeq seq = ({ u with badSeq := (seq.toUInt32 + 1) &&& (rtpSeqMod - 1) }, false) := by
  unfold updateSeq
  rw [if_neg (not_not.mpr hvalid), if_neg (not_lt_maxDropout hjump),
    if_pos (toUInt32_le_iff.mpr hle), if_neg hbad]

/-- A duplicate or reordered packet. -/
lemma updateSeq_of_late (hvalid : u.probation = 0) (hlate : 65436 < u.udelta seq) :
    u.updateSeq seq = ({ u with received := u.received + 1 }, true) := by
  have hjump : 3000 ≤ u.udelta seq := le_trans (by decide) hlate.le
  unfold updateSeq
  rw [if_neg (not_not.mpr hvalid), if_neg (not_lt_maxDropout hjump),
    if_neg fun h => absurd (toUInt32_le_iff.mp h) (not_le.mpr hlate)]

/-- What the call leaves that validates the source. -/
lemma updateSeq_of_probation (hprobation : u.probation ≠ 0) (hvalid : (u.updateSeq seq).2 = true) :
    u.updateSeq seq = ({ u.initSeq seq with probation := 0, received := 1 }, true) := by
  unfold updateSeq at hvalid ⊢
  dsimp only at hvalid ⊢
  rw [if_pos hprobation] at hvalid ⊢
  by_cases hnext : seq.toNat = u.maxSeq.toNat + 1
  · rw [if_pos hnext] at hvalid ⊢
    by_cases hzero : u.probation - 1 = 0
    · rw [if_pos hzero, hzero]
      rfl
    · rw [if_neg hzero] at hvalid
      exact absurd hvalid Bool.false_ne_true
  · rw [if_neg hnext] at hvalid
    exact absurd hvalid Bool.false_ne_true

/-- The source is validated by a call that returns so. -/
lemma updateSeq_validates (hprobation : u.probation ≠ 0)
    (hvalid : (u.updateSeq seq).1.probation = 0) : (u.updateSeq seq).2 = true := by
  unfold updateSeq at hvalid ⊢
  dsimp only at hvalid ⊢
  rw [if_pos hprobation] at hvalid ⊢
  by_cases hnext : seq.toNat = u.maxSeq.toNat + 1
  · rw [if_pos hnext] at hvalid ⊢
    by_cases hzero : u.probation - 1 = 0
    · rw [if_pos hzero]
    · rw [if_neg hzero] at hvalid
      exact absurd hvalid hzero
  · rw [if_neg hnext] at hvalid
    have hone : minSequential - 1 ≠ 0 := by decide
    exact absurd hvalid hone

/-! ### The counter without bound -/

/-- The utility of a source that was validated at `b`, where the counter is now at `m` and
`accepted` further calls were accepted. -/
structure Follows (u : SequenceUtility) (b m accepted : ℕ) : Prop where
  probation : u.probation = 0
  base : u.baseSeq.toNat = b
  max : u.maxSeq.toNat = m % 65536
  cycles : u.cycles.toNat = m / 65536 * 65536 % 2 ^ 32
  received : u.received.toNat = (1 + accepted) % 2 ^ 32

/-- A new sequence of numbers. -/
lemma follows_initSeq (u : SequenceUtility) (b : UInt16) :
    ({ u.initSeq b with probation := 0, received := 1 } : SequenceUtility).Follows b.toNat b.toNat
      0 := by
  have hb : b.toNat < 65536 := b.toNat_lt
  refine ⟨rfl, UInt16.toNat_toUInt32 b, (Nat.mod_eq_of_lt hb).symm, ?_, rfl⟩
  rw [Nat.div_eq_of_lt hb]
  rfl

namespace Follows

variable {b m accepted : ℕ}

lemma udelta_eq (h : u.Follows b m accepted) (seq : UInt16) :
    u.udelta seq = ahead 65536 m seq.toNat := by
  rw [udelta, h.max, ahead_mod (by decide)]

lemma toNat_received_add_one (h : u.Follows b m accepted) :
    (u.received + 1).toNat = (1 + (accepted + 1)) % 2 ^ 32 := by
  have hreceived := h.received
  rw [UInt32.toNat_add, UInt32.toNat_one]
  omega

/-- The cycle counter is incremented where the number is smaller than the highest one. -/
lemma advance (h : u.Follows b m accepted) (hlt : u.udelta seq < 3000) :
    (u.updateSeq seq).1.Follows b (Serial.advance 65536 3000 m seq.toNat) (accepted + 1) := by
  have hseq : seq.toNat < 65536 := seq.toNat_lt
  have hcycles := h.cycles
  have hdiv := add_ahead_div (m := m) hseq
  rw [updateSeq_of_lt h.probation hlt]
  rw [h.udelta_eq] at hlt
  rw [advance_of_lt hlt]
  refine ⟨h.probation, h.base, ?_, ?_, h.toNat_received_add_one⟩
  · rw [add_ahead_mod (by decide), Nat.mod_eq_of_lt hseq]
  · rw [hdiv, ← h.max]
    dsimp only
    by_cases hwrap : seq < u.maxSeq
    · rw [if_pos hwrap, if_pos (UInt16.lt_iff_toNat_lt.mp hwrap), UInt32.toNat_add, hcycles,
        Nat.add_mul, Nat.mod_add_mod]
      rfl
    · rw [if_neg hwrap, if_neg fun h => hwrap (UInt16.lt_iff_toNat_lt.mpr h)]
      exact hcycles

lemma late (h : u.Follows b m accepted) (hlate : 65436 < u.udelta seq) :
    (u.updateSeq seq).1.Follows b m (accepted + 1) := by
  rw [updateSeq_of_late h.probation hlate]
  exact ⟨h.probation, h.base, h.max, h.cycles, h.toNat_received_add_one⟩

lemma jump (h : u.Follows b m accepted) (hjump : 3000 ≤ u.udelta seq)
    (hle : u.udelta seq ≤ 65436) (hbad : seq.toUInt32 ≠ u.badSeq) :
    (u.updateSeq seq).1.Follows b m accepted := by
  rw [updateSeq_of_jump h.probation hjump hle hbad]
  exact ⟨h.probation, h.base, h.max, h.cycles, h.received⟩

lemma toNat_extendedMax (h : u.Follows b m accepted) : u.extendedMax.toNat = m % 2 ^ 32 := by
  have hmax := h.max
  have hcycles := h.cycles
  rw [extendedMax, UInt32.toNat_toUInt64, UInt32.toNat_add, UInt16.toNat_toUInt32, hmax, hcycles,
    Nat.mod_add_mod, Nat.div_add_mod']

lemma toNat_expected (h : u.Follows b m accepted) (hb : b ≤ m) (hm : m < 2 ^ 32) :
    u.expected.toNat = m - b + 1 := by
  have hext := h.toNat_extendedMax
  rw [Nat.mod_eq_of_lt hm] at hext
  have hbase : u.baseSeq.toUInt64.toNat = b := (UInt32.toNat_toUInt64 _).trans h.base
  have hle : u.baseSeq.toUInt64 ≤ u.extendedMax := by
    rw [UInt64.le_iff_toNat_le, hbase, hext]
    exact hb
  show (u.extendedMax - u.baseSeq.toUInt64 + 1).toNat = m - b + 1
  rw [UInt64.toNat_add, UInt64.toNat_sub_of_le _ _ hle, hext, hbase]
  apply Nat.mod_eq_of_lt
  rw [UInt64.toNat_one]
  omega

end Follows

/-! ### Runs -/

/-- One number after the other, with what `update_seq` returns for each. -/
def updateAll (u : SequenceUtility) : List UInt16 → SequenceUtility × List Bool
  | [] => (u, [])
  | seq :: seqs =>
    let (u, valid) := u.updateSeq seq
    let (u, valids) := u.updateAll seqs
    (u, valid :: valids)

/-- No large jump arrives at the stored number. -/
def NoRestart : SequenceUtility → List UInt16 → Prop
  | _, [] => True
  | u, seq :: seqs =>
    (3000 ≤ u.udelta seq → u.udelta seq ≤ 65436 → seq.toUInt32 ≠ u.badSeq) ∧
      (u.updateSeq seq).1.NoRestart seqs

end SequenceUtility

/-- The counter without bound after some numbers. -/
def unwrap (m : ℕ) (seqs : List UInt16) : ℕ :=
  seqs.foldl (fun m seq => Serial.advance 65536 3000 m seq.toNat) m

/-- Whether a number is accepted: it moves the counter on, or it is at most 99 behind. -/
def accepts (m : ℕ) (seq : UInt16) : Bool :=
  Serial.ahead 65536 m seq.toNat < 3000 ∨ 65436 < Serial.ahead 65536 m seq.toNat

/-- Which of some numbers are accepted. -/
def acceptAll : ℕ → List UInt16 → List Bool
  | _, [] => []
  | m, seq :: seqs => accepts m seq :: acceptAll (Serial.advance 65536 3000 m seq.toNat) seqs

lemma le_unwrap (m : ℕ) (seqs : List UInt16) : m ≤ unwrap m seqs := by
  induction seqs generalizing m with
  | nil => exact le_rfl
  | cons seq seqs ih => exact le_trans (Serial.le_advance 3000 m seq.toNat) (ih _)

namespace SequenceUtility

/-- One call moves the utility and the counter alike. -/
lemma Follows.updateSeq {u : SequenceUtility} {b m accepted : ℕ} (h : u.Follows b m accepted)
    {seq : UInt16}
    (hkeeps : 3000 ≤ u.udelta seq → u.udelta seq ≤ 65436 → seq.toUInt32 ≠ u.badSeq) :
    (u.updateSeq seq).1.Follows b (Serial.advance 65536 3000 m seq.toNat)
        (accepted + (accepts m seq).toNat) ∧ (u.updateSeq seq).2 = accepts m seq := by
  have hahead := h.udelta_eq seq
  by_cases hlt : u.udelta seq < 3000
  · have haccepts : accepts m seq = true := decide_eq_true (Or.inl (hahead ▸ hlt))
    rw [haccepts]
    exact ⟨h.advance hlt, congrArg Prod.snd (updateSeq_of_lt h.probation hlt)⟩
  · have hjump : 3000 ≤ u.udelta seq := not_lt.mp hlt
    rw [Serial.advance_of_le (hahead ▸ hjump)]
    by_cases hle : u.udelta seq ≤ 65436
    · have haccepts : accepts m seq = false := by
        apply decide_eq_false
        rw [← hahead, not_or]
        exact ⟨hlt, not_lt.mpr hle⟩
      have hbad := hkeeps hjump hle
      rw [haccepts]
      exact ⟨h.jump hjump hle hbad,
        congrArg Prod.snd (updateSeq_of_jump h.probation hjump hle hbad)⟩
    · have hlate : 65436 < u.udelta seq := not_le.mp hle
      have haccepts : accepts m seq = true := decide_eq_true (Or.inr (hahead ▸ hlate))
      rw [haccepts]
      exact ⟨h.late hlate, congrArg Prod.snd (updateSeq_of_late h.probation hlate)⟩

lemma Follows.updateAll {u : SequenceUtility} {b m accepted : ℕ} (h : u.Follows b m accepted)
    {seqs : List UInt16} (hkeeps : u.NoRestart seqs) :
    (u.updateAll seqs).1.Follows b (unwrap m seqs) (accepted + (acceptAll m seqs).count true) ∧
      (u.updateAll seqs).2 = acceptAll m seqs := by
  induction seqs generalizing u m accepted with
  | nil => exact ⟨h, rfl⟩
  | cons seq seqs ih =>
    obtain ⟨hone, hkeeps⟩ := hkeeps
    obtain ⟨hstep, hvalid⟩ := h.updateSeq hone
    obtain ⟨hrest, hvalids⟩ := ih hstep hkeeps
    have hcount : (acceptAll m (seq :: seqs)).count true = (accepts m seq).toNat +
        (acceptAll (Serial.advance 65536 3000 m seq.toNat) seqs).count true := by
      rw [acceptAll, List.count_cons]
      cases accepts m seq
      · exact (Nat.zero_add _).symm
      · exact Nat.add_comm _ 1
    rw [hcount, ← Nat.add_assoc]
    exact ⟨hrest, congrArg₂ List.cons hvalid hvalids⟩

/-- From the number on that validates the source, and as long as no large jump arrives at the stored
number, the utility is the counter without bound: it accepts the same numbers, and as long as the
counter is below `2 ^ 32`, it gives the counter and the numbers since the first one. The accepted
calls are counted modulo `2 ^ 32`. -/
theorem sequence_unwrapping {u : SequenceUtility} {b : UInt16} (hprobation : u.probation ≠ 0)
    (hvalid : (u.updateSeq b).2 = true) {seqs : List UInt16}
    (hkeeps : (u.updateSeq b).1.NoRestart seqs) :
    ((u.updateSeq b).1.updateAll seqs).2 = acceptAll b.toNat seqs ∧
      ((u.updateSeq b).1.updateAll seqs).1.highestSeqSeen.toNat = unwrap b.toNat seqs % 2 ^ 16 ∧
      ((u.updateSeq b).1.updateAll seqs).1.receivedPackets.toNat =
        (1 + (acceptAll b.toNat seqs).count true) % 2 ^ 32 ∧
      (unwrap b.toNat seqs < 2 ^ 32 →
        ((u.updateSeq b).1.updateAll seqs).1.extendedMax.toNat = unwrap b.toNat seqs ∧
        ((u.updateSeq b).1.updateAll seqs).1.expected.toNat =
          unwrap b.toNat seqs - b.toNat + 1) := by
  have hstart : (u.updateSeq b).1.Follows b.toNat b.toNat 0 := by
    rw [updateSeq_of_probation hprobation hvalid]
    exact follows_initSeq u b
  obtain ⟨hfollows, hvalids⟩ := hstart.updateAll hkeeps
  rw [Nat.zero_add] at hfollows
  refine ⟨hvalids, hfollows.max, hfollows.received, fun hm => ⟨?_, ?_⟩⟩
  · rw [hfollows.toNat_extendedMax, Nat.mod_eq_of_lt hm]
  · exact hfollows.toNat_expected (le_unwrap _ _) hm

/-- A gap over the end of the cycle, a duplicate, and a jump that is not taken. -/
theorem sequence_unwrapping_cycle :
    (((new 65534).updateSeq 65534).1.updateSeq 65535).1.NoRestart [2, 2, 40000] ∧
      unwrap 65535 [2, 2, 40000] = 65538 ∧
      ((((new 65534).updateSeq 65534).1.updateSeq 65535).1.updateAll
        [2, 2, 40000]).2 = [true, true, false] := by
  have hkeeps : (((new 65534).updateSeq 65534).1.updateSeq 65535).1.NoRestart [2, 2, 40000] := by
    refine ⟨?_, ?_, ?_, trivial⟩
    · decide
    · decide
    · decide
  have h := sequence_unwrapping (u := ((new 65534).updateSeq 65534).1) (b := 65535)
    (by decide) (by decide) hkeeps
  refine ⟨hkeeps, by decide, h.1.trans ?_⟩
  decide

/-! ### Duplicates -/

/-- The highest number again and again. -/
lemma Follows.replicate {u : SequenceUtility} {b m accepted : ℕ} (h : u.Follows b m accepted)
    (seq : UInt16) (hseq : m % 65536 = seq.toNat) (n : ℕ) :
    u.NoRestart (List.replicate n seq) ∧ unwrap m (List.replicate n seq) = m ∧
      acceptAll m (List.replicate n seq) = List.replicate n true := by
  have hzero : Serial.ahead 65536 m seq.toNat = 0 := Serial.ahead_eq_zero seq.toNat_lt hseq
  have hadvance : Serial.advance 65536 3000 m seq.toNat = m := by
    rw [Serial.advance_of_lt (hzero ▸ by decide), hzero, Nat.add_zero]
  induction n generalizing u accepted with
  | zero => exact ⟨trivial, rfl, rfl⟩
  | succ n ih =>
    have hkeeps : 3000 ≤ u.udelta seq → u.udelta seq ≤ 65436 → seq.toUInt32 ≠ u.badSeq := by
      intro hjump
      rw [h.udelta_eq, hzero] at hjump
      exact absurd hjump (by decide)
    have hstep := (h.updateSeq hkeeps).1
    rw [hadvance] at hstep
    obtain ⟨hkeeps', hunwrap, haccept⟩ := ih hstep
    have haccepts : accepts m seq = true := decide_eq_true (Or.inl (hzero ▸ by decide))
    rw [List.replicate_succ]
    refine ⟨⟨hkeeps, hkeeps'⟩, ?_, ?_⟩
    · rw [unwrap, List.foldl_cons, hadvance]
      exact hunwrap
    · rw [acceptAll, hadvance, haccepts, haccept]
      rfl

/-- The count of the accepted calls starts again at zero after `2 ^ 32 - 1` of them. -/
theorem received_packets_wrap :
    ¬∀ (u : SequenceUtility) (b : UInt16), u.probation ≠ 0 → (u.updateSeq b).2 = true →
      ∀ seqs : List UInt16, (u.updateSeq b).1.NoRestart seqs → unwrap b.toNat seqs < 2 ^ 32 →
        seqs.length < 2 ^ 32 → ((u.updateSeq b).1.updateAll seqs).1.receivedPackets.toNat =
          1 + (acceptAll b.toNat seqs).count true := by
  intro h
  obtain ⟨n, hn⟩ : ∃ n, n = 2 ^ 32 - 1 := ⟨_, rfl⟩
  obtain ⟨u, hu⟩ : ∃ u : SequenceUtility, u = ((new 7).updateSeq 7).1 := ⟨_, rfl⟩
  have hprobation : u.probation ≠ 0 := by
    rw [hu]
    decide
  have hvalid : (u.updateSeq 8).2 = true := by
    rw [hu]
    decide
  have hstart : (u.updateSeq 8).1.Follows 8 8 0 := by
    rw [updateSeq_of_probation hprobation hvalid]
    exact follows_initSeq u 8
  obtain ⟨hkeeps, hunwrap, haccept⟩ := hstart.replicate 8 rfl n
  have hreceived := (hstart.updateAll hkeeps).1.received
  have hclaim := h u 8 hprobation hvalid (List.replicate n 8) hkeeps
    (by rw [show (8 : UInt16).toNat = 8 from rfl, hunwrap]; decide)
    (by rw [List.length_replicate, hn]; decide)
  rw [receivedPackets, hreceived, show (8 : UInt16).toNat = 8 from rfl, haccept,
    List.count_replicate_self, hn] at hclaim
  exact absurd hclaim (by decide)

end SequenceUtility

end Rtp
