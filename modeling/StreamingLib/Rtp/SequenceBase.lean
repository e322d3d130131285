import StreamingLib.Rtp.ParityGroups

/-!
# The sequence number base

The generator keeps the smallest sequence number of a group, with zero for a base that is not set.
The base is the first number of the group only where the group does not contain number zero.
-/

namespace Rtp

open Groups

/-- `k` numbers from `s` on, modulo `2 ^ 16`. -/
def numbersFrom (s : UInt16) (k : ℕ) : List UInt16 :=
  (List.range k).map fun i => s + UInt16.ofNat i

/-- The SN base field of a FEC packet without RTP header. -/
def snBaseField (packet : Octets) : UInt16 := readWord (packet.getD 2 0) (packet.getD 3 0)

lemma snBaseField_fecPacketOctets (fecK base : UInt16) (mask bits : Octets) :
    snBaseField (fecPacketOctets fecK base mask bits) = base := by
  obtain ⟨a, b, hword⟩ := exists_bigWord base.toNat
  rw [fecPacketOctets, hword]
  exact readWord_bigWord base hword

/-! ### The smallest number -/

/-- Number zero unsets the base. -/
lemma nextBase_right_zero (base : UInt16) : nextBase base 0 = 0 := by
  by_cases hbase : base = 0
  · rw [hbase, nextBase_zero]
  · rw [nextBase_of_ne_zero hbase]
    exact if_pos UInt16.zero_le

lemma seqBase_append_zero (before after : List UInt16) :
    seqBase (before ++ 0 :: after) = seqBase after := by
  rw [seqBase, List.foldl_append, List.foldl_cons, nextBase_right_zero]
  rfl

lemma foldl_nextBase_mem (seqNums : List UInt16) (base : UInt16) :
    seqNums.foldl nextBase base ∈ base :: seqNums := by
  induction seqNums generalizing base with
  | nil => exact List.mem_singleton_self base
  | cons n seqNums ih =>
    rw [List.foldl_cons]
    rcases List.mem_cons.mp (ih (nextBase base n)) with h | h
    · rw [h]
      rcases nextBase_eq_or base n with heq | heq <;> rw [heq]
      · exact List.mem_cons_self
      · exact List.mem_cons_of_mem _ List.mem_cons_self
    · exact List.mem_cons_of_mem _ (List.mem_cons_of_mem _ h)

lemma seqBase_mem {seqNums : List UInt16} (hne : seqNums ≠ []) : seqBase seqNums ∈ seqNums := by
  cases seqNums with
  | nil => exact absurd rfl hne
  | cons n seqNums =>
    rw [seqBase, List.foldl_cons, nextBase_zero]
    exact foldl_nextBase_mem seqNums n

lemma nextBase_of_le {base n : UInt16} (hbase : base ≠ 0) (h : base ≤ n) :
    nextBase base n = base := by
  rw [nextBase_of_ne_zero hbase]
  by_cases hn : n ≤ base
  · rw [UInt16.le_antisymm hn h]
    exact Std.min_self
  · exact Std.LawfulOrderLeftLeaningMin.min_eq_right n base hn

lemma foldl_nextBase_of_le {base : UInt16} (hbase : base ≠ 0) {seqNums : List UInt16}
    (h : ∀ n ∈ seqNums, base ≤ n) : seqNums.foldl nextBase base = base := by
  induction seqNums with
  | nil => rfl
  | cons n seqNums ih =>
    rw [List.foldl_cons, nextBase_of_le hbase (h n List.mem_cons_self)]
    exact ih fun m hm => h m (List.mem_cons_of_mem n hm)

/-! ### Consecutive numbers -/

variable {s : UInt16} {k : ℕ}

lemma numbersFrom_succ (s : UInt16) (k : ℕ) :
    numbersFrom s (k + 1) = s :: (List.range k).map fun i => s + UInt16.ofNat (i + 1) := by
  have hfirst : s + UInt16.ofNat 0 = s := UInt16.add_zero s
  rw [numbersFrom, List.range_succ_eq_map, List.map_cons, List.map_map, hfirst]
  rfl

lemma toNat_add_ofNat (s : UInt16) (i : ℕ) :
    (s + UInt16.ofNat i).toNat = (s.toNat + i) % 65536 := by
  rw [UInt16.toNat_add, UInt16.toNat_ofNat', Nat.add_mod_mod]

lemma nodup_numbersFrom (hk : k ≤ 65536) : (numbersFrom s k).Nodup := by
  refine List.Nodup.map_on ?_ List.nodup_range
  intro i hi j hj heq
  rw [List.mem_range] at hi hj
  have hnat := congrArg UInt16.toNat heq
  rw [toNat_add_ofNat, toNat_add_ofNat] at hnat
  have hs : s.toNat < 65536 := s.toNat_lt
  omega

/-- The group contains number zero where it wraps around, or starts with it. -/
lemma zero_mem_numbersFrom_iff (hpos : 1 ≤ k) (hk : k ≤ 65536) :
    0 ∈ numbersFrom s k ↔ s = 0 ∨ 65536 < s.toNat + k := by
  have hs : s.toNat < 65536 := s.toNat_lt
  rw [numbersFrom, List.mem_map]
  constructor
  · rintro ⟨i, hi, heq⟩
    rw [List.mem_range] at hi
    have hnat := congrArg UInt16.toNat heq
    rw [toNat_add_ofNat, UInt16.toNat_zero] at hnat
    rcases Nat.eq_zero_or_pos s.toNat with hzero | hzero
    · exact Or.inl (UInt16.toNat_inj.mp hzero)
    · right
      omega
  · rintro (rfl | hwrap)
    · exact ⟨0, List.mem_range.mpr hpos, rfl⟩
    · refine ⟨65536 - s.toNat, List.mem_range.mpr (by omega), UInt16.toNat_inj.mp ?_⟩
      rw [toNat_add_ofNat, Nat.add_sub_cancel' hs.le, UInt16.toNat_zero, Nat.mod_self]

lemma seqBase_of_not_wrap (hs : s ≠ 0) (h : s.toNat + k ≤ 65536) (hpos : 1 ≤ k) :
    seqBase (numbersFrom s k) = s := by
  obtain ⟨k, rfl⟩ := Nat.exists_eq_add_of_le' hpos
  rw [numbersFrom_succ, seqBase, List.foldl_cons, nextBase_zero]
  apply foldl_nextBase_of_le hs
  intro n hn
  obtain ⟨i, hi, rfl⟩ := List.mem_map.mp hn
  rw [List.mem_range] at hi
  rw [UInt16.le_iff_toNat_le, toNat_add_ofNat, Nat.mod_eq_of_lt (by omega)]
  exact Nat.le_add_right _ _

/-- After number zero the base is another number than the first one. -/
lemma seqBase_eq_iff_of_zero_mem (hpos : 1 ≤ k) (hk : k ≤ 65536) (h : 0 ∈ numbersFrom s k) :
    seqBase (numbersFrom s k) = s ↔ s = 0 ∧ k = 1 := by
  have hnodup := nodup_numbersFrom (s := s) hk
  obtain ⟨k, rfl⟩ := Nat.exists_eq_add_of_le' hpos
  obtain ⟨before, after, hsplit⟩ := List.append_of_mem h
  rw [hsplit, seqBase_append_zero]
  rw [hsplit] at hnodup
  have hcons := numbersFrom_succ s k
  rw [hsplit] at hcons
  cases before with
  | nil =>
    obtain ⟨rfl, hafter⟩ := List.cons.inj hcons
    have hlength : after.length = k := by rw [hafter, List.length_map, List.length_range]
    cases after with
    | nil =>
      rw [List.length_nil] at hlength
      exact iff_of_true rfl ⟨rfl, hlength ▸ rfl⟩
    | cons n after =>
      rw [List.length_cons] at hlength
      refine iff_of_false (fun heq => ?_) (fun hone => by omega)
      have hmem := seqBase_mem (List.cons_ne_nil n after)
      rw [heq] at hmem
      exact (List.nodup_cons.mp hnodup).1 hmem
  | cons n before =>
    obtain ⟨rfl, -⟩ := List.cons.inj hcons
    have hnotin := (List.nodup_cons.mp hnodup).1
    have hne : n ≠ 0 := by
      rintro rfl
      exact hnotin (List.mem_append_right _ List.mem_cons_self)
    refine iff_of_false (fun heq => hnotin ?_) fun hzero => hne hzero.1
    cases after with
    | nil => exact absurd heq.symm hne
    | cons m after =>
      have hmem := seqBase_mem (List.cons_ne_nil m after)
      rw [heq] at hmem
      exact List.mem_append_right _ (List.mem_cons_of_mem _ hmem)

lemma seqBase_numbersFrom_iff (hpos : 1 ≤ k) (hk : k ≤ 65536) :
    seqBase (numbersFrom s k) = s ↔ s = 0 ∧ k = 1 ∨ s ≠ 0 ∧ s.toNat + k ≤ 65536 := by
  by_cases hzero : 0 ∈ numbersFrom s k
  · rw [seqBase_eq_iff_of_zero_mem hpos hk hzero]
    refine (or_iff_left ?_).symm
    rintro ⟨hs, hle⟩
    rcases (zero_mem_numbersFrom_iff hpos hk).mp hzero with hs' | hwrap
    · exact hs hs'
    · exact not_le.mpr hwrap hle
  · rw [zero_mem_numbersFrom_iff hpos hk, not_or] at hzero
    exact iff_of_true (seqBase_of_not_wrap hzero.1 (not_lt.mp hzero.2) hpos)
      (Or.inr ⟨hzero.1, not_lt.mp hzero.2⟩)

/-! ### The base of a group -/

variable {fecK : UInt16} {before packets : List (Octets × UInt16)}

/-- The last packet of the generator, with the number `s` as its base, so that each place of the
mask stands for the media packet there. -/
def EmitsBase (fecK : UInt16) (before packets : List (Octets × UInt16)) (s : UInt16) : Prop :=
  ∃ packet, ((FecGenerator.new fecK).generateAll (before ++ packets)).2 = .ok (some packet) ∧
    snBaseField packet = s ∧
    ∀ i q, packets[i]? = some q → q.2 = snBaseField packet + UInt16.ofNat i

/-- The FEC packet of a group has the first number of the group for its base exactly where the
group does not contain number zero, or nothing else. -/
theorem sequence_base_iff (hpos : 1 ≤ fecK.toNat) (hk : fecK.toNat ≤ 48)
    (hbefore : fecK.toNat ∣ before.length) (hnumbers : packets.map Prod.snd =
      numbersFrom s fecK.toNat) (hsize : ∀ q ∈ before ++ packets, 12 ≤ q.1.length) :
    EmitsBase fecK before packets s ↔
      s = 0 ∧ fecK.toNat = 1 ∨ s ≠ 0 ∧ s.toNat + fecK.toNat ≤ 65536 := by
  have hlength : packets.length = fecK.toNat := by
    have h := congrArg List.length hnumbers
    rwa [List.length_map, numbersFrom, List.length_map, List.length_range] at h
  have hne : before ++ packets ≠ [] := by
    refine List.append_ne_nil_of_right_ne_nil before (List.ne_nil_of_length_pos ?_)
    exact lt_of_lt_of_eq hpos hlength.symm
  have hdvd : fecK.toNat ∣ (before ++ packets).length := by
    rw [List.length_append, hlength]
    exact (Nat.dvd_add_left dvd_rfl).mpr hbefore
  have hnewest : newest fecK.toNat (before ++ packets) = packets := by
    rw [newest, List.length_append, hlength, Nat.add_sub_cancel, List.drop_left]
  have hemits : ((FecGenerator.new fecK).generateAll (before ++ packets)).2 =
      .ok (some (groupPacket fecK packets)) := by
    rw [generateAll_eq hpos hk hsize, if_pos ⟨hne, hdvd⟩, hnewest]
  have hbase : snBaseField (groupPacket fecK packets) = seqBase (numbersFrom s fecK.toNat) := by
    rw [groupPacket, snBaseField_fecPacketOctets, hnumbers]
  have hnumber (i : ℕ) (q : Octets × UInt16) (hq : packets[i]? = some q) :
      q.2 = s + UInt16.ofNat i := by
    obtain ⟨hi, -⟩ := List.getElem?_eq_some_iff.mp hq
    have hplace : (packets.map Prod.snd)[i]? = some q.2 := by
      rw [List.getElem?_map, hq]
      rfl
    rw [hnumbers, numbersFrom, List.getElem?_map, List.getElem?_range (hlength ▸ hi)] at hplace
    exact (Option.some.inj hplace).symm
  rw [← seqBase_numbersFrom_iff hpos (hk.trans (by decide)), ← hbase]
  constructor
  · rintro ⟨packet, hpacket, hsn, -⟩
    rw [hemits] at hpacket
    cases hpacket
    exact hsn
  · intro hsn
    refine ⟨_, hemits, hsn, fun i q hq => ?_⟩
    rw [hsn]
    exact hnumber i q hq

/-- Two media packets after another group. -/
theorem sequence_base_iff_second :
    EmitsBase 2 [(List.replicate 12 0, 3), (List.replicate 12 0, 4)]
      [(List.replicate 12 0, 5), (List.replicate 12 0, 6)] 5 :=
  (sequence_base_iff (by decide) (by decide) (by decide) (by decide) (by decide)).mpr (by decide)

/-- The group of the numbers 65535 and 0 has the base 0. -/
theorem sequence_base_wraps :
    ¬∀ (fecK s : UInt16) (packets : List (Octets × UInt16)), 1 ≤ fecK.toNat → fecK.toNat ≤ 48 →
      packets.map Prod.snd = numbersFrom s fecK.toNat → (∀ q ∈ packets, 12 ≤ q.1.length) →
      EmitsBase fecK [] packets s := by
  intro h
  obtain ⟨packet, hpacket, hbase, -⟩ := h 2 65535
    [(List.replicate 12 0, 65535), (List.replicate 12 0, 0)] (by decide) (by decide) (by decide)
    (by decide)
  have hzero : ∃ packet, ((FecGenerator.new 2).generateAll
      [(List.replicate 12 0, 65535), (List.replicate 12 0, 0)]).2 = .ok (some packet) ∧
        snBaseField packet = 0 :=
    ⟨_, rfl, by decide⟩
  obtain ⟨packet', hpacket', hbase'⟩ := hzero
  rw [List.nil_append, hpacket'] at hpacket
  cases hpacket
  rw [hbase'] at hbase
  exact absurd hbase (by decide)

end Rtp
