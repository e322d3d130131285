import StreamingLib.Counters.Groups
import StreamingLib.Rtp.FecGenerator

/-!
# Parity groups

The generator is determined by the media packets of the group that is not complete yet. So the
packet of a group depends on the media packets of the group only.
-/

namespace Rtp

open Groups

/-! ### The state of the generator -/

/-- The sequence number base of some media packets. -/
def seqBase (seqNums : List UInt16) : UInt16 := seqNums.foldl nextBase 0

/-- The bit string of some media packets. -/
def parityBits (packets : List (Octets × UInt16)) : Octets :=
  Parity.sum (· ^^^ ·) (packets.map fun p => fecRow p.1)

/-- The generator that has collected some media packets of a group. -/
def FecGenerator.collected (fecK : UInt16) (packets : List (Octets × UInt16)) : FecGenerator where
  fecK := fecK
  currentFecK := fecK - UInt16.ofNat packets.length
  fecBitString := parityBits packets
  fecSeqBase := seqBase (packets.map Prod.snd)

/-- The FEC packet of a group. -/
def groupPacket (fecK : UInt16) (packets : List (Octets × UInt16)) : Octets :=
  fecPacketOctets fecK (seqBase (packets.map Prod.snd)) ((fecMaskOctets fecK).getD emptyMask)
    (parityBits packets)

variable {fecK : UInt16} {packets : List (Octets × UInt16)} {p : Octets × UInt16}

lemma collected_nil (fecK : UInt16) : FecGenerator.collected fecK [] = .new fecK := by
  have hcount : fecK - UInt16.ofNat 0 = fecK := UInt16.sub_zero fecK
  rw [FecGenerator.collected, List.length_nil, hcount]
  rfl

lemma toNat_currentFecK (h : packets.length ≤ fecK.toNat) :
    (FecGenerator.collected fecK packets).currentFecK.toNat = fecK.toNat - packets.length := by
  have hlt : fecK.toNat < 65536 := fecK.toNat_lt
  have hlength : (UInt16.ofNat packets.length).toNat = packets.length := by
    rw [UInt16.toNat_ofNat', Nat.mod_eq_of_lt (lt_of_le_of_lt h hlt)]
  have hle : UInt16.ofNat packets.length ≤ fecK := by
    rw [UInt16.le_iff_toNat_le, hlength]
    exact h
  rw [FecGenerator.collected, UInt16.toNat_sub_of_le _ _ hle, hlength]

lemma seqBase_concat (seqNums : List UInt16) (seqNum : UInt16) :
    seqBase (seqNums ++ [seqNum]) = nextBase (seqBase seqNums) seqNum := by
  rw [seqBase, List.foldl_append]
  rfl

lemma parityBits_eq_nil_or (h : ∀ q ∈ packets, 12 ≤ q.1.length) :
    parityBits packets = [] ∨ 10 ≤ (parityBits packets).length := by
  rcases packets with - | ⟨q, packets⟩
  · exact Or.inl rfl
  · have hq := h q List.mem_cons_self
    have hrow := length_fecRow hq
    have hle := Parity.length_le_sum (· ^^^ ·)
      (List.mem_map_of_mem (f := fun p : Octets × UInt16 => fecRow p.1)
        (List.mem_cons_self (a := q) (l := packets)))
    refine Or.inr (le_trans ?_ hle)
    omega

/-- The row of a media packet is combined with the others. -/
lemma absorb_parityBits (h : ∀ q ∈ packets, 12 ≤ q.1.length) (hp : 12 ≤ p.1.length) :
    absorb (parityBits packets) p.1 = parityBits (packets ++ [p]) := by
  rw [absorb_eq_pad (parityBits_eq_nil_or h) hp, Parity.pad_comm, parityBits, parityBits,
    List.map_append]
  exact (Parity.sum_concat _ _ _).symm

/-! ### Calls -/

lemma collected_concat (fecK : UInt16) (packets : List (Octets × UInt16)) (p : Octets × UInt16) :
    FecGenerator.collected fecK (packets ++ [p]) =
      ⟨fecK, (FecGenerator.collected fecK packets).currentFecK - 1, parityBits (packets ++ [p]),
        nextBase (seqBase (packets.map Prod.snd)) p.2⟩ := by
  have hcount : fecK - UInt16.ofNat (packets.length + 1) =
      fecK - UInt16.ofNat packets.length - 1 := by
    rw [UInt16.ofNat_add]
    grind
  rw [FecGenerator.collected, List.map_append, List.length_append, List.length_singleton, hcount]
  congr 1
  exact seqBase_concat _ _

/-- A call before the end of the group. -/
lemma generateNextFecPacket_of_lt (hlt : packets.length + 1 < fecK.toNat)
    (h : ∀ q ∈ packets, 12 ≤ q.1.length) (hp : 12 ≤ p.1.length) :
    (FecGenerator.collected fecK packets).generateNextFecPacket p.1 p.2 =
      (FecGenerator.collected fecK (packets ++ [p]), .ok none) := by
  have hcount : (FecGenerator.collected fecK packets).currentFecK.toNat =
      fecK.toNat - packets.length := toNat_currentFecK (by omega)
  rw [generateNextFecPacket_collects (by omega) hp, collected_concat, ← absorb_parityBits h hp]
  rfl

/-- The call at the end of the group. -/
lemma generateNextFecPacket_of_eq (heq : packets.length + 1 = fecK.toNat) (hk : fecK.toNat ≤ 48)
    (h : ∀ q ∈ packets, 12 ≤ q.1.length) (hp : 12 ≤ p.1.length) :
    (FecGenerator.collected fecK packets).generateNextFecPacket p.1 p.2 =
      (FecGenerator.new fecK, .ok (some (groupPacket fecK (packets ++ [p])))) := by
  have hcount : (FecGenerator.collected fecK packets).currentFecK.toNat =
      fecK.toNat - packets.length := toNat_currentFecK (by omega)
  obtain ⟨mask, hmask⟩ := Option.isSome_iff_exists.mp ((fecMaskOctets_isSome fecK).mpr hk)
  rw [generateNextFecPacket_completes (by omega) hmask hp, groupPacket, hmask, List.map_append,
    ← absorb_parityBits h hp]
  congr 4
  exact (seqBase_concat _ _).symm

lemma generateAll_concat {g g' : FecGenerator} {calls : List (Octets × UInt16)} {r : Option Octets}
    (h : g.generateAll calls = (g', .ok r)) (p : Octets × UInt16) :
    g.generateAll (calls ++ [p]) = g'.generateNextFecPacket p.1 p.2 := by
  induction calls generalizing g r with
  | nil =>
    cases h
    rw [List.nil_append, FecGenerator.generateAll]
    rcases g'.generateNextFecPacket p.1 p.2 with ⟨g'', fault | r'⟩
    · rfl
    · rfl
  | cons q calls ih =>
    rw [FecGenerator.generateAll] at h
    rcases hnext : g.generateNextFecPacket q.1 q.2 with ⟨g₁, fault | r₁⟩ <;> rw [hnext] at h
    · cases h
    · dsimp only at h
      rw [List.cons_append, generateAll_cons (by simp) hnext]
      by_cases hnil : calls = []
      · rw [if_pos hnil] at h
        cases h
        subst hnil
        exact ih rfl
      · rw [if_neg hnil] at h
        exact ih h

/-- After any calls the generator holds what is pending, and the last call gives a packet exactly
at the end of a group. -/
theorem generateAll_eq (hpos : 1 ≤ fecK.toNat) (hk : fecK.toNat ≤ 48)
    {calls : List (Octets × UInt16)} (h : ∀ q ∈ calls, 12 ≤ q.1.length) :
    (FecGenerator.new fecK).generateAll calls =
      (FecGenerator.collected fecK (pending fecK.toNat calls),
        .ok (if calls ≠ [] ∧ fecK.toNat ∣ calls.length then
          some (groupPacket fecK (newest fecK.toNat calls)) else none)) := by
  induction calls using List.reverseRecOn with
  | nil =>
    rw [pending_nil, collected_nil]
    rfl
  | append_singleton calls p ih =>
    have hcalls : ∀ q ∈ calls, 12 ≤ q.1.length := fun q hq => h q (List.mem_append_left _ hq)
    have hp : 12 ≤ p.1.length := h p (List.mem_append_right _ (List.mem_singleton_self p))
    have hpending : ∀ q ∈ pending fecK.toNat calls, 12 ≤ q.1.length :=
      fun q hq => hcalls q (mem_of_mem_pending hq)
    have hlength := length_pending fecK.toNat calls
    have hmod : calls.length % fecK.toNat < fecK.toNat := Nat.mod_lt _ hpos
    rw [generateAll_concat (ih hcalls), List.length_append, List.length_singleton]
    rcases (Nat.succ_le_of_lt hmod).lt_or_eq with hlt | heq
    · rw [generateNextFecPacket_of_lt (by omega) hpending hp, pending_concat_of_lt p hlt,
        if_neg fun hdvd => not_dvd_succ hlt hdvd.2]
    · rw [generateNextFecPacket_of_eq (by omega) hk hpending hp, pending_concat_of_eq p heq,
        newest_concat_of_eq p heq, collected_nil, if_pos ⟨by simp, dvd_succ heq⟩]

/-! ### The order of a group -/

/-- The smaller of the two, where both are set. -/
lemma nextBase_eq_or (base seqNum : UInt16) :
    nextBase base seqNum = base ∨ nextBase base seqNum = seqNum := by
  unfold nextBase
  split_ifs
  · exact Std.min_eq_or.symm
  · exact Or.inr rfl

lemma nextBase_zero (seqNum : UInt16) : nextBase 0 seqNum = seqNum := if_neg (not_not.mpr rfl)

lemma nextBase_of_ne_zero {base : UInt16} (h : base ≠ 0) (seqNum : UInt16) :
    nextBase base seqNum = min seqNum base :=
  if_pos h

lemma nextBase_ne_zero {base seqNum : UInt16} (h : seqNum ≠ 0) : nextBase base seqNum ≠ 0 := by
  by_cases hbase : base = 0
  · rw [hbase, nextBase_zero]
    exact h
  · rcases nextBase_eq_or base seqNum with heq | heq
    · rw [heq]
      exact hbase
    · rw [heq]
      exact h

/-- Numbers that are not zero may come in any order. -/
lemma nextBase_right_comm {x y : UInt16} (hx : x ≠ 0) (hy : y ≠ 0) (base : UInt16) :
    nextBase (nextBase base x) y = nextBase (nextBase base y) x := by
  rw [nextBase_of_ne_zero (nextBase_ne_zero hx), nextBase_of_ne_zero (nextBase_ne_zero hy)]
  by_cases hbase : base = 0
  · rw [hbase, nextBase_zero, nextBase_zero]
    grind
  · rw [nextBase_of_ne_zero hbase, nextBase_of_ne_zero hbase]
    grind

lemma seqBase_perm {seqNums seqNums' : List UInt16} (h : seqNums.Perm seqNums')
    (hne : ∀ n ∈ seqNums, n ≠ 0) : seqBase seqNums = seqBase seqNums' :=
  h.foldl_eq' (fun x hx y hy => nextBase_right_comm (hne x hx) (hne y hy)) 0

/-- The bytes of the packet do not depend on the order of the group. -/
lemma groupPacket_perm {packets' : List (Octets × UInt16)} (h : packets.Perm packets')
    (hne : ∀ q ∈ packets, q.2 ≠ 0) : groupPacket fecK packets = groupPacket fecK packets' := by
  have hbase : seqBase (packets.map Prod.snd) = seqBase (packets'.map Prod.snd) := by
    apply seqBase_perm (h.map Prod.snd)
    intro n hn
    obtain ⟨q, hq, rfl⟩ := List.mem_map.mp hn
    exact hne q hq
  have hbits : parityBits packets = parityBits packets' := Parity.sum_perm _ (h.map _)
  rw [groupPacket, groupPacket, hbase, hbits]

/-! ### Independent groups -/

/-- What call number `m` of a fresh generator returns. -/
def callResult (fecK : UInt16) (calls : List (Octets × UInt16)) (m : ℕ) :
    Except FecFault (Option Octets) :=
  ((FecGenerator.new fecK).generateAll (calls.take m)).2

/-- What a fresh generator returns for a group alone. -/
lemma generateAll_of_group (hpos : 1 ≤ fecK.toNat) (hk : fecK.toNat ≤ 48)
    (hlength : packets.length = fecK.toNat) (h : ∀ q ∈ packets, 12 ≤ q.1.length) :
    ((FecGenerator.new fecK).generateAll packets).2 =
      .ok (some (groupPacket fecK packets)) := by
  have hne : packets ≠ [] := List.ne_nil_of_length_pos (lt_of_lt_of_eq hpos hlength.symm)
  rw [generateAll_eq hpos hk h, if_pos ⟨hne, hlength ▸ dvd_rfl⟩, newest_of_length hlength]

/-- A packet comes with the last call of each group, depends on its group only, and is the same
for each order of a group without number zero. -/
structure IndependentGroups (fecK : UInt16) (calls : List (Octets × UInt16)) : Prop where
  complete : ∀ m, 1 ≤ m → m ≤ calls.length →
    ∃ r, callResult fecK calls m = .ok r ∧ (r.isSome = true ↔ fecK.toNat ∣ m)
  independent : ∀ j, (j + 1) * fecK.toNat ≤ calls.length →
    callResult fecK calls ((j + 1) * fecK.toNat) =
      ((FecGenerator.new fecK).generateAll (group fecK.toNat j calls)).2
  unordered : ∀ j, (j + 1) * fecK.toNat ≤ calls.length →
    (∀ q ∈ group fecK.toNat j calls, q.2 ≠ 0) →
    ∀ reordered, (group fecK.toNat j calls).Perm reordered →
      ((FecGenerator.new fecK).generateAll reordered).2 =
        ((FecGenerator.new fecK).generateAll (group fecK.toNat j calls)).2

theorem parity_groups (hpos : 1 ≤ fecK.toNat) (hk : fecK.toNat ≤ 48)
    {calls : List (Octets × UInt16)}
    (hsize : ∀ q ∈ calls, 12 ≤ q.1.length ∧ q.1.length ≤ 65507) :
    IndependentGroups fecK calls := by
  have hcalls : ∀ q ∈ calls, 12 ≤ q.1.length := fun q hq => (hsize q hq).1
  have htake (m : ℕ) : ∀ q ∈ calls.take m, 12 ≤ q.1.length :=
    fun q hq => hcalls q (List.mem_of_mem_take hq)
  have hgroup (j : ℕ) : ∀ q ∈ group fecK.toNat j calls, 12 ≤ q.1.length :=
    fun q hq => hcalls q (mem_of_mem_group hq)
  refine ⟨?_, ?_, ?_⟩
  · intro m hm hle
    have hlength : (calls.take m).length = m := List.length_take_of_le hle
    have hne : calls.take m ≠ [] := List.ne_nil_of_length_pos (lt_of_lt_of_eq hm hlength.symm)
    refine ⟨_, congrArg Prod.snd (generateAll_eq hpos hk (htake m)), ?_⟩
    rw [hlength]
    by_cases hdvd : fecK.toNat ∣ m
    · rw [if_pos ⟨hne, hdvd⟩]
      exact iff_of_true rfl hdvd
    · rw [if_neg fun h => hdvd h.2]
      exact iff_of_false Bool.false_ne_true hdvd
  · intro j hj
    have hlength : (calls.take ((j + 1) * fecK.toNat)).length = (j + 1) * fecK.toNat :=
      List.length_take_of_le hj
    have hne : calls.take ((j + 1) * fecK.toNat) ≠ [] :=
      List.ne_nil_of_length_pos (lt_of_lt_of_eq (Nat.mul_pos j.succ_pos hpos) hlength.symm)
    rw [callResult, generateAll_eq hpos hk (htake _), hlength,
      if_pos ⟨hne, Nat.dvd_mul_left _ _⟩, newest_take hj,
      generateAll_of_group hpos hk (length_group hj) (hgroup j)]
  · intro j hj hzero reordered hperm
    have hlength := length_group hj
    rw [generateAll_of_group hpos hk hlength (hgroup j),
      generateAll_of_group hpos hk (hperm.length_eq.symm.trans hlength)
        fun q hq => hgroup j q (hperm.mem_iff.mpr hq), groupPacket_perm hperm hzero]

/-- Two groups of two media packets. -/
theorem parity_groups_pairs :
    IndependentGroups 2 [(List.replicate 12 1, 5), (List.replicate 14 2, 6),
      (List.replicate 13 3, 7), (List.replicate 12 4, 8)] :=
  parity_groups (by decide) (by decide) (by decide)

end Rtp
