import StreamingLib.Rtp.ReconstructionBounds

/-!
# Receiving goes on

`handle_incoming_udp_traffic` asks the socket for the next datagram after it has handled the last
one, so that nothing more is received once the handling ends with an exception. When that is, is
said here for every state of the receiver and every datagram.
-/

namespace Rtp

/-! ### The FEC packet of a recovery -/

/-- Whether the first level protects the sequence number. -/
def CustomFecPacket.Covers (fec : CustomFecPacket) (n : ℤ) : Prop :=
  fec.InRange n ∧ ∃ level payload, fec.levels[0]? = some (level, payload) ∧
    level.protects (fec.seqI n) = true

/-- The FEC packet is newer than all others that protect the sequence number. -/
def IsNewest (fecBuffer : List (CustomFecPacket × Octets)) (n : ℤ)
    (fec : CustomFecPacket × Octets) : Prop :=
  ∃ newer older, fecBuffer.reverse = newer ++ fec :: older ∧ ∀ f ∈ newer, ¬f.1.Covers n

lemma findFecPacket_cons_of_not_covers {n : ℤ} {fec : CustomFecPacket × Octets}
    (h : ¬fec.1.Covers n) (hlevels : fec.1.InRange n → fec.1.levels ≠ [])
    (rest : List (CustomFecPacket × Octets)) :
    findFecPacket n (fec :: rest) = findFecPacket n rest := by
  rw [findFecPacket]
  split_ifs with hrange
  · rcases hlevel : fec.1.levels[0]? with - | ⟨level, payload⟩
    · rw [← List.head?_eq_getElem?, List.head?_eq_none_iff] at hlevel
      exact absurd hlevel (hlevels hrange)
    · exact if_neg fun hcovers => h ⟨hrange, level, payload, hlevel, hcovers⟩
  · rfl

/-- The search meets no fault as long as every FEC packet it looks at has a level. -/
lemma findFecPacket_isOk_iff {n : ℤ} (fecs : List (CustomFecPacket × Octets)) :
    (findFecPacket n fecs).isOk = true ↔
      ∀ newer fec older, fecs = newer ++ fec :: older → (∀ f ∈ newer, ¬f.1.Covers n) →
        fec.1.InRange n → fec.1.levels ≠ [] := by
  induction fecs with
  | nil =>
    refine iff_of_true rfl ?_
    intro newer fec older h
    exact absurd h (by simp)
  | cons fec fecs ih =>
    by_cases hlevels : fec.1.InRange n → fec.1.levels ≠ []
    · by_cases hcovers : fec.1.Covers n
      · obtain ⟨hrange, level, payload, hlevel, hbit⟩ := hcovers
        refine iff_of_true ?_ ?_
        · rw [findFecPacket, if_pos hrange, hlevel]
          dsimp only
          rw [if_pos hbit]
          rfl
        · rintro (- | ⟨f, newer⟩) fec' older h hnewer
          · cases h
            exact hlevels
          · cases h
            exact absurd ⟨hrange, level, payload, hlevel, hbit⟩ (hnewer fec List.mem_cons_self)
      · rw [findFecPacket_cons_of_not_covers hcovers hlevels, ih]
        constructor
        · rintro h (- | ⟨f, newer⟩) fec' older heq hnewer
          · cases heq
            exact hlevels
          · cases heq
            exact h newer fec' older rfl fun f hf => hnewer f (List.mem_cons_of_mem _ hf)
        · intro h newer fec' older heq hnewer
          refine h (fec :: newer) fec' older (by rw [heq]; rfl) ?_
          exact List.forall_mem_cons.mpr ⟨hcovers, hnewer⟩
    · refine iff_of_false ?_ fun h => hlevels (h [] fec fecs rfl (List.forall_mem_nil _))
      push Not at hlevels
      rw [findFecPacket, if_pos hlevels.1, hlevels.2]
      exact Bool.false_ne_true

/-- What the search finds is the newest FEC packet that protects the sequence number. -/
lemma findFecPacket_eq_some_iff {n : ℤ} {fecs : List (CustomFecPacket × Octets)}
    (hok : (findFecPacket n fecs).isOk = true) (fec : CustomFecPacket × Octets)
    (level : CustomFecLevelHeader) :
    findFecPacket n fecs = .ok (some (fec, level)) ↔
      (∃ newer older, fecs = newer ++ fec :: older ∧ ∀ f ∈ newer, ¬f.1.Covers n) ∧
        fec.1.InRange n ∧ (∃ payload, fec.1.levels[0]? = some (level, payload)) ∧
        level.protects (fec.1.seqI n) = true := by
  induction fecs with
  | nil =>
    refine iff_of_false (fun h => by cases h) ?_
    rintro ⟨⟨newer, older, h, -⟩, -⟩
    exact absurd h (by simp)
  | cons f fecs ih =>
    have hlevels : f.1.InRange n → f.1.levels ≠ [] :=
      (findFecPacket_isOk_iff _).mp hok [] f fecs rfl (List.forall_mem_nil _)
    by_cases hcovers : f.1.Covers n
    · obtain ⟨hrange, level', payload', hlevel', hbit⟩ := hcovers
      have hfind : findFecPacket n (f :: fecs) = .ok (some (f, level')) := by
        rw [findFecPacket, if_pos hrange, hlevel']
        exact if_pos hbit
      rw [hfind]
      constructor
      · intro h
        cases h
        exact ⟨⟨[], fecs, rfl, List.forall_mem_nil _⟩, hrange, ⟨payload', hlevel'⟩, hbit⟩
      · rintro ⟨⟨- | ⟨g, newer⟩, older, heq, hnewer⟩, -, ⟨payload, hlevel⟩, -⟩
        · cases heq
          rw [hlevel'] at hlevel
          cases hlevel
          rfl
        · cases heq
          exact absurd ⟨hrange, level', payload', hlevel', hbit⟩ (hnewer f List.mem_cons_self)
    · rw [findFecPacket_cons_of_not_covers hcovers hlevels] at hok ⊢
      rw [ih hok]
      refine and_congr_left ?_
      rintro ⟨hrange, ⟨payload, hlevel⟩, hbit⟩
      constructor
      · rintro ⟨newer, older, rfl, hnewer⟩
        exact ⟨f :: newer, older, rfl, List.forall_mem_cons.mpr ⟨hcovers, hnewer⟩⟩
      · rintro ⟨- | ⟨g, newer⟩, older, heq, hnewer⟩
        · cases heq
          exact absurd ⟨hrange, level, payload, hlevel, hbit⟩ hcovers
        · cases heq
          exact ⟨newer, older, rfl, fun g hg => hnewer g (List.mem_cons_of_mem _ hg)⟩

section Taken

variable {fecBuffer : List (CustomFecPacket × Octets)} {n : ℤ}

/-- Every FEC packet that the search looks at has a level. -/
def HasLevels (fecBuffer : List (CustomFecPacket × Octets)) (n : ℤ) : Prop :=
  ∀ fec, IsNewest fecBuffer n fec → fec.1.InRange n → fec.1.levels ≠ []

/-- The newest FEC packet that protects the sequence number, with its first level. -/
structure IsTaken (fecBuffer : List (CustomFecPacket × Octets)) (n : ℤ)
    (fec : CustomFecPacket × Octets) (level : CustomFecLevelHeader) : Prop where
  newest : IsNewest fecBuffer n fec
  inRange : fec.1.InRange n
  first : ∃ payload, fec.1.levels[0]? = some (level, payload)
  bit : level.protects (fec.1.seqI n) = true

lemma findFecPacket_isOk_iff_hasLevels :
    (findFecPacket n fecBuffer.reverse).isOk = true ↔ HasLevels fecBuffer n := by
  rw [findFecPacket_isOk_iff]
  constructor
  · rintro h fec ⟨newer, older, heq, hnewer⟩
    exact h newer fec older heq hnewer
  · intro h newer fec older heq hnewer
    exact h fec ⟨newer, older, heq, hnewer⟩

lemma findFecPacket_eq_some_iff_isTaken (h : HasLevels fecBuffer n)
    (fec : CustomFecPacket × Octets) (level : CustomFecLevelHeader) :
    findFecPacket n fecBuffer.reverse = .ok (some (fec, level)) ↔
      IsTaken fecBuffer n fec level := by
  rw [findFecPacket_eq_some_iff (findFecPacket_isOk_iff_hasLevels.mpr h)]
  constructor
  · rintro ⟨hnewest, hrange, hlevel, hbit⟩
    exact ⟨hnewest, hrange, hlevel, hbit⟩
  · rintro ⟨hnewest, hrange, hlevel, hbit⟩
    exact ⟨hnewest, hrange, hlevel, hbit⟩

lemma findFecPacket_eq_error {fault : ReceiverFault} {fecs : List (CustomFecPacket × Octets)}
    (h : findFecPacket n fecs = .error fault) : fault = .outOfRange := by
  induction fecs with
  | nil => cases h
  | cons fec fecs ih =>
    rw [findFecPacket] at h
    by_cases hrange : fec.1.InRange n
    · rw [if_pos hrange] at h
      rcases hlevel : fec.1.levels[0]? with - | ⟨level, payload⟩ <;> rw [hlevel] at h
      · cases h
        rfl
      · dsimp only at h
        split_ifs at h
        exact ih h
    · rw [if_neg hrange] at h
      exact ih h

/-- The search takes one FEC packet only. -/
lemma IsTaken.unique {fec fec' : CustomFecPacket × Octets} {level level' : CustomFecLevelHeader}
    (h : IsTaken fecBuffer n fec level) (hlevels : HasLevels fecBuffer n)
    (h' : IsTaken fecBuffer n fec' level') : fec = fec' ∧ level = level' := by
  rw [← findFecPacket_eq_some_iff_isTaken hlevels] at h h'
  rw [h] at h'
  cases h'
  exact ⟨rfl, rfl⟩

end Taken

/-! ### The media packets of a recovery -/

/-- Whether the packet at a place of the buffer has the sequence number. -/
def HasNumber (buffer : List MediaPacket) (place : ℤ × ℤ) (packet : MediaPacket) : Prop :=
  atPlace buffer place.1 = some packet ∧ packet.1.header.sequenceNumber.toNat = place.2

/-- The selection meets no fault as long as it stays inside the buffer up to the first packet with
another sequence number. -/
lemma selectMedia_isOk_iff {buffer : List MediaPacket} (places : List (ℤ × ℤ)) :
    (selectMedia buffer places).isOk = true ↔
      ∀ before place after, places = before ++ place :: after →
        (∀ q ∈ before, ∃ packet, HasNumber buffer q packet) →
        ∃ packet, atPlace buffer place.1 = some packet := by
  induction places with
  | nil =>
    refine iff_of_true rfl ?_
    intro before place after h
    exact absurd h (by simp)
  | cons place places ih =>
    rw [selectMedia]
    cases hplace : atPlace buffer place.1 with
    | none =>
      refine iff_of_false Bool.false_ne_true ?_
      intro h
      obtain ⟨packet, hpacket⟩ := h [] place places rfl (List.forall_mem_nil _)
      rw [hplace] at hpacket
      cases hpacket
    | some packet =>
      dsimp only
      split_ifs with hnumber
      · have hmap : ((selectMedia buffer places).map (Option.map (packet :: ·))).isOk =
            (selectMedia buffer places).isOk := by
          cases selectMedia buffer places <;> rfl
        rw [hmap, ih]
        constructor
        · rintro h (- | ⟨q, before⟩) place' after heq hbefore
          · cases heq
            exact ⟨packet, hplace⟩
          · cases heq
            exact h before place' after rfl fun q hq => hbefore q (List.mem_cons_of_mem _ hq)
        · intro h before place' after heq hbefore
          refine h (place :: before) place' after (by rw [heq]; rfl) ?_
          exact List.forall_mem_cons.mpr ⟨⟨packet, hplace, hnumber⟩, hbefore⟩
      · refine iff_of_true rfl ?_
        rintro (- | ⟨q, before⟩) place' after heq hbefore
        · cases heq
          exact ⟨packet, hplace⟩
        · cases heq
          obtain ⟨packet', hplace', hnumber'⟩ := hbefore place List.mem_cons_self
          rw [hplace] at hplace'
          cases hplace'
          exact absurd hnumber' hnumber

lemma selectMedia_eq_some_iff {buffer : List MediaPacket} {places : List (ℤ × ℤ)}
    {media : List MediaPacket} :
    selectMedia buffer places = .ok (some media) ↔
      List.Forall₂ (HasNumber buffer) places media := by
  induction places generalizing media with
  | nil =>
    rw [selectMedia, List.forall₂_nil_left_iff]
    constructor
    · intro h
      cases h
      rfl
    · rintro rfl
      rfl
  | cons place places ih =>
    rw [selectMedia, List.forall₂_cons_left_iff]
    cases hplace : atPlace buffer place.1 with
    | none =>
      refine iff_of_false (by simp) ?_
      rintro ⟨packet, rest, ⟨hpacket, -⟩, -⟩
      rw [hplace] at hpacket
      cases hpacket
    | some packet =>
      dsimp only
      split_ifs with hnumber
      · constructor
        · intro h
          rcases hrest : selectMedia buffer places with fault | - | rest <;> rw [hrest] at h
          · cases h
          · cases h
          · cases h
            exact ⟨packet, rest, ⟨hplace, hnumber⟩, ih.mp hrest, rfl⟩
        · rintro ⟨packet', rest, ⟨hpacket, -⟩, hrest, rfl⟩
          rw [hplace] at hpacket
          cases hpacket
          rw [ih.mpr hrest]
          rfl
      · refine iff_of_false (by simp) ?_
        rintro ⟨packet', rest, ⟨hpacket, hnumber'⟩, -⟩
        rw [hplace] at hpacket
        cases hpacket
        exact hnumber hnumber'

lemma selectMedia_eq_error {buffer : List MediaPacket} {fault : ReceiverFault}
    {places : List (ℤ × ℤ)}
    (h : selectMedia buffer places = .error fault) : fault = .outsideBuffer := by
  induction places with
  | nil => cases h
  | cons place places ih =>
    rw [selectMedia] at h
    cases hplace : atPlace buffer place.1 with
    | none =>
      rw [hplace] at h
      cases h
      rfl
    | some packet =>
      rw [hplace] at h
      dsimp only at h
      split_ifs at h
      rcases hrest : selectMedia buffer places with fault' | media <;> rw [hrest] at h
      · cases h
        exact ih hrest
      · cases h

/-! ### Recovery -/

section Recovery

variable {buffer : List MediaPacket} {fecBuffer : List (CustomFecPacket × Octets)}
  {closing : MediaPacket} {fec : CustomFecPacket × Octets} {level : CustomFecLevelHeader}

lemma recoveredPacket_of_not_hasLevels (hclosing : fromEnd buffer mediaPacketDelay = some closing)
    (h : ¬HasLevels fecBuffer (closing.1.number - 1)) :
    recoveredPacket buffer fecBuffer = .error .outOfRange := by
  unfold recoveredPacket
  rw [hclosing]
  dsimp only
  rcases hfind : findFecPacket (closing.1.header.sequenceNumber.toNat - 1) fecBuffer.reverse with
    fault | found
  · rw [findFecPacket_eq_error hfind]
  · refine absurd (findFecPacket_isOk_iff_hasLevels.mp ?_) h
    exact congrArg Except.isOk hfind

lemma recoveredPacket_of_none_taken (hclosing : fromEnd buffer mediaPacketDelay = some closing)
    (hlevels : HasLevels fecBuffer (closing.1.number - 1))
    (h : ∀ fec level, ¬IsTaken fecBuffer (closing.1.number - 1) fec level) :
    recoveredPacket buffer fecBuffer = .ok none := by
  have hok := findFecPacket_isOk_iff_hasLevels.mpr hlevels
  unfold recoveredPacket
  rw [hclosing]
  dsimp only
  rcases hfind : findFecPacket (closing.1.header.sequenceNumber.toNat - 1) fecBuffer.reverse with
    fault | - | ⟨fec, level⟩
  · exact absurd ((congrArg Except.isOk hfind).symm.trans hok) Bool.false_ne_true
  · rfl
  · exact absurd ((findFecPacket_eq_some_iff_isTaken hlevels fec level).mp hfind) (h fec level)

/-- The recovery with the FEC packet that is taken. -/
lemma recoveredPacket_of_taken (hclosing : fromEnd buffer mediaPacketDelay = some closing)
    (hlevels : HasLevels fecBuffer (closing.1.number - 1))
    (h : IsTaken fecBuffer (closing.1.number - 1) fec level) :
    recoveredPacket buffer fecBuffer =
      match selectMedia buffer (mediaPlaces level buffer.length (closing.1.number - 1)
        (fec.1.seqI (closing.1.number - 1))) with
      | .error fault => .error fault
      | .ok none => .ok none
      | .ok (some mediaPackets) =>
        match fecReconstruction fec mediaPackets with
        | none => .error .reconstruction
        | some packet => .ok (some (removePadding packet)) := by
  have hfind := (findFecPacket_eq_some_iff_isTaken hlevels fec level).mpr h
  have hfind' : findFecPacket (closing.1.header.sequenceNumber.toNat - 1) fecBuffer.reverse =
      .ok (some (fec, level)) := hfind
  unfold recoveredPacket
  rw [hclosing]
  dsimp only
  rw [hfind']
  rfl

/-- The media packets that are combined: the FEC packet that is taken finds all others of its group
at their places. -/
def Combines (buffer : List MediaPacket) (fecBuffer : List (CustomFecPacket × Octets)) (n : ℤ)
    (fec : CustomFecPacket × Octets) (media : List MediaPacket) : Prop :=
  ∃ level, IsTaken fecBuffer n fec level ∧
    List.Forall₂ (HasNumber buffer) (mediaPlaces level buffer.length n (fec.1.seqI n)) media

lemma recoveredPacket_of_combines {media : List MediaPacket}
    (hclosing : fromEnd buffer mediaPacketDelay = some closing)
    (hlevels : HasLevels fecBuffer (closing.1.number - 1))
    (h : Combines buffer fecBuffer (closing.1.number - 1) fec media) :
    recoveredPacket buffer fecBuffer =
      match fecReconstruction fec media with
      | none => .error .reconstruction
      | some packet => .ok (some (removePadding packet)) := by
  obtain ⟨level, htaken, hmedia⟩ := h
  have hpacket := recoveredPacket_of_taken hclosing hlevels htaken
  rw [selectMedia_eq_some_iff.mpr hmedia] at hpacket
  exact hpacket

lemma Combines.length_le {n : ℤ} {media : List MediaPacket}
    (h : Combines buffer fecBuffer n fec media) : media.length ≤ 63 := by
  obtain ⟨level, htaken, hmedia⟩ := h
  rw [← hmedia.length_eq]
  apply length_mediaPlaces_le level
  unfold CustomFecPacket.seqI
  obtain ⟨-, hle⟩ := htaken.inRange
  omega

/-- The faults of a recovery. -/
lemma recoveredPacket_eq_error {fault : ReceiverFault}
    (h : recoveredPacket buffer fecBuffer = .error fault) :
    fault = .outsideBuffer ∨ fault = .outOfRange ∨ fault = .reconstruction := by
  cases hclosing : fromEnd buffer mediaPacketDelay with
  | none =>
    unfold recoveredPacket at h
    rw [hclosing] at h
    cases h
    exact Or.inl rfl
  | some closing =>
    by_cases hlevels : HasLevels fecBuffer (closing.1.number - 1)
    · by_cases htaken : ∃ fec level, IsTaken fecBuffer (closing.1.number - 1) fec level
      · obtain ⟨fec, level, htaken⟩ := htaken
        rw [recoveredPacket_of_taken hclosing hlevels htaken] at h
        rcases hselect : selectMedia buffer (mediaPlaces level buffer.length (closing.1.number - 1)
            (fec.1.seqI (closing.1.number - 1))) with fault' | - | media <;> rw [hselect] at h
        · cases h
          exact Or.inl (selectMedia_eq_error hselect)
        · cases h
        · dsimp only at h
          rcases hpacket : fecReconstruction fec media with - | packet <;> rw [hpacket] at h
          · cases h
            exact Or.inr (Or.inr rfl)
          · cases h
      · rw [recoveredPacket_of_none_taken hclosing hlevels
          fun fec level h => htaken ⟨fec, level, h⟩] at h
        cases h
    · rw [recoveredPacket_of_not_hasLevels hclosing hlevels] at h
      cases h
      exact Or.inr (Or.inl rfl)

end Recovery

/-- When the recovery of a sequence number meets no fault: every FEC packet it looks at has a level,
and for the one it takes it stays inside the buffer and finds packets that can be combined. -/
structure CanRecover (buffer : List MediaPacket) (fecBuffer : List (CustomFecPacket × Octets))
    (n : ℤ) : Prop where
  levels : ∀ fec, IsNewest fecBuffer n fec → fec.1.InRange n → fec.1.levels ≠ []
  places : ∀ fec, IsNewest fecBuffer n fec → fec.1.InRange n →
    ∀ level payload, fec.1.levels[0]? = some (level, payload) →
    level.protects (fec.1.seqI n) = true →
    ∀ before place after,
      mediaPlaces level buffer.length n (fec.1.seqI n) = before ++ place :: after →
      (∀ q ∈ before, ∃ packet, HasNumber buffer q packet) →
      ∃ packet, atPlace buffer place.1 = some packet
  media : ∀ fec, IsNewest fecBuffer n fec → fec.1.InRange n →
    ∀ level payload, fec.1.levels[0]? = some (level, payload) →
    level.protects (fec.1.seqI n) = true →
    ∀ media, List.Forall₂ (HasNumber buffer)
      (mediaPlaces level buffer.length n (fec.1.seqI n)) media →
    Reconstructible fec media

/-- The search takes one FEC packet, so the conditions are about that one. -/
lemma IsTaken.canRecover_iff {buffer : List MediaPacket}
    {fecBuffer : List (CustomFecPacket × Octets)} {n : ℤ} {fec : CustomFecPacket × Octets}
    {level : CustomFecLevelHeader} (htaken : IsTaken fecBuffer n fec level)
    (hlevels : HasLevels fecBuffer n) :
    CanRecover buffer fecBuffer n ↔
      (selectMedia buffer (mediaPlaces level buffer.length n (fec.1.seqI n))).isOk = true ∧
        ∀ media, selectMedia buffer (mediaPlaces level buffer.length n (fec.1.seqI n)) =
          .ok (some media) → Reconstructible fec media := by
  rw [selectMedia_isOk_iff]
  obtain ⟨payload, hlevel⟩ := htaken.first
  constructor
  · intro h
    refine ⟨h.places fec htaken.newest htaken.inRange level payload hlevel htaken.bit, ?_⟩
    intro media hmedia
    exact h.media fec htaken.newest htaken.inRange level payload hlevel htaken.bit media
      (selectMedia_eq_some_iff.mp hmedia)
  · rintro ⟨hinside, hmedia⟩
    refine ⟨hlevels, ?_, ?_⟩
    · intro fec' hnewest hrange level' payload' hlevel' hbit
      obtain ⟨rfl, rfl⟩ := htaken.unique hlevels ⟨hnewest, hrange, ⟨_, hlevel'⟩, hbit⟩
      exact hinside
    · intro fec' hnewest hrange level' payload' hlevel' hbit media hforall
      obtain ⟨rfl, rfl⟩ := htaken.unique hlevels ⟨hnewest, hrange, ⟨_, hlevel'⟩, hbit⟩
      exact hmedia media (selectMedia_eq_some_iff.mpr hforall)

lemma recoveredPacket_isOk_iff {buffer : List MediaPacket}
    {fecBuffer : List (CustomFecPacket × Octets)} {closing : MediaPacket}
    (hclosing : fromEnd buffer mediaPacketDelay = some closing) :
    (recoveredPacket buffer fecBuffer).isOk = true ↔
      CanRecover buffer fecBuffer (closing.1.header.sequenceNumber.toNat - 1) := by
  change _ ↔ CanRecover buffer fecBuffer (closing.1.number - 1)
  by_cases hlevels : HasLevels fecBuffer (closing.1.number - 1)
  · by_cases htaken : ∃ fec level, IsTaken fecBuffer (closing.1.number - 1) fec level
    · obtain ⟨fec, level, htaken⟩ := htaken
      rw [htaken.canRecover_iff hlevels, recoveredPacket_of_taken hclosing hlevels htaken]
      rcases hselect : selectMedia buffer (mediaPlaces level buffer.length (closing.1.number - 1)
        (fec.1.seqI (closing.1.number - 1))) with fault | - | media
      · exact iff_of_false Bool.false_ne_true fun h => Bool.false_ne_true h.1
      · exact iff_of_true rfl ⟨rfl, fun media h => by cases h⟩
      · have hlen : media.length ≤ 63 :=
          Combines.length_le ⟨level, htaken, selectMedia_eq_some_iff.mp hselect⟩
        have hone : (∀ media', (Except.ok (some media) : Except ReceiverFault _) =
            .ok (some media') → Reconstructible fec media') ↔ Reconstructible fec media := by
          constructor
          · exact fun h => h media rfl
          · intro h media' heq
            cases heq
            exact h
        rw [hone, ← fecReconstruction_isSome_iff hlen]
        dsimp only
        cases fecReconstruction fec media with
        | none => exact iff_of_false Bool.false_ne_true fun h => Bool.false_ne_true h.2
        | some packet => exact iff_of_true rfl ⟨rfl, rfl⟩
    · have hnone : ∀ fec level, ¬IsTaken fecBuffer (closing.1.number - 1) fec level :=
        fun fec level h => htaken ⟨fec, level, h⟩
      rw [recoveredPacket_of_none_taken hclosing hlevels hnone]
      refine iff_of_true rfl ⟨hlevels, ?_, ?_⟩
      · intro fec hnewest hrange level payload hlevel hbit
        exact absurd ⟨hnewest, hrange, ⟨payload, hlevel⟩, hbit⟩ (hnone fec level)
      · intro fec hnewest hrange level payload hlevel hbit
        exact absurd ⟨hnewest, hrange, ⟨payload, hlevel⟩, hbit⟩ (hnone fec level)
  · rw [recoveredPacket_of_not_hasLevels hclosing hlevels]
    exact iff_of_false Bool.false_ne_true fun h => hlevels h.levels

section Outcome

variable {buffer : List MediaPacket} {fecBuffer : List (CustomFecPacket × Octets)}
  {closing : MediaPacket} {n : ℤ}

/-- When a packet is recovered: the search takes a FEC packet that finds all others of its group,
and they can be combined. -/
structure Recovers (buffer : List MediaPacket) (fecBuffer : List (CustomFecPacket × Octets))
    (n : ℤ) : Prop where
  levels : HasLevels fecBuffer n
  media : ∃ fec media, Combines buffer fecBuffer n fec media ∧ Reconstructible fec media

/-- When no packet is recovered and no fault met: no FEC packet is taken, or the one that is finds
another sequence number before it leaves the buffer. -/
structure FindsNothing (buffer : List MediaPacket) (fecBuffer : List (CustomFecPacket × Octets))
    (n : ℤ) : Prop where
  canRecover : CanRecover buffer fecBuffer n
  incomplete : ∀ fec media, ¬Combines buffer fecBuffer n fec media

lemma exists_recoveredPacket_iff (hclosing : fromEnd buffer mediaPacketDelay = some closing) :
    (∃ packet, recoveredPacket buffer fecBuffer = .ok (some packet)) ↔
      Recovers buffer fecBuffer (closing.1.number - 1) := by
  constructor
  · rintro ⟨packet, hpacket⟩
    have hcan := (recoveredPacket_isOk_iff hclosing).mp (congrArg Except.isOk hpacket)
    obtain ⟨closing', fec, level, media, recovered, hclosing', hfind, hselect, hrecovered, -⟩ :=
      recoveredPacket_eq_some hpacket
    cases hclosing.symm.trans hclosing'
    have hcombines : Combines buffer fecBuffer (closing.1.number - 1) fec media :=
      ⟨level, (findFecPacket_eq_some_iff_isTaken hcan.levels fec level).mp hfind,
        selectMedia_eq_some_iff.mp hselect⟩
    refine ⟨hcan.levels, fec, media, hcombines, ?_⟩
    rw [← fecReconstruction_isSome_iff hcombines.length_le, hrecovered]
    rfl
  · rintro ⟨hlevels, fec, media, hcombines, hmedia⟩
    have hsome := (fecReconstruction_isSome_iff hcombines.length_le).mpr hmedia
    obtain ⟨recovered, hrecovered⟩ := Option.isSome_iff_exists.mp hsome
    have hpacket := recoveredPacket_of_combines hclosing hlevels hcombines
    rw [hrecovered] at hpacket
    exact ⟨removePadding recovered, hpacket⟩

lemma recoveredPacket_eq_none_iff (hclosing : fromEnd buffer mediaPacketDelay = some closing) :
    recoveredPacket buffer fecBuffer = .ok none ↔
      FindsNothing buffer fecBuffer (closing.1.number - 1) := by
  constructor
  · intro hnone
    have hcan := (recoveredPacket_isOk_iff hclosing).mp (congrArg Except.isOk hnone)
    refine ⟨hcan, fun fec media hcombines => ?_⟩
    have hpacket := recoveredPacket_of_combines hclosing hcan.levels hcombines
    rw [hnone] at hpacket
    cases hrecovered : fecReconstruction fec media with
    | none => rw [hrecovered] at hpacket; cases hpacket
    | some recovered => rw [hrecovered] at hpacket; cases hpacket
  · rintro ⟨hcan, hincomplete⟩
    have hok := (recoveredPacket_isOk_iff hclosing).mpr hcan
    rcases hpacket : recoveredPacket buffer fecBuffer with fault | - | packet
    · rw [hpacket] at hok
      cases hok
    · rfl
    · obtain ⟨-, fec, media, hcombines, -⟩ :=
        (exists_recoveredPacket_iff hclosing).mp ⟨packet, hpacket⟩
      exact absurd hcombines (hincomplete fec media)

/-- The sequence number that a full buffer asks for: it is the only one missing between the two
packets of the check. -/
def Lacks (buffer : List MediaPacket) (n : ℤ) : Prop :=
  bufferSize ≤ buffer.length ∧ gap buffer = some 2 ∧
    ∃ closing, fromEnd buffer mediaPacketDelay = some closing ∧ closing.1.number - 1 = n

lemma forall_lacks_iff {P : ℤ → Prop} {Q : Prop}
    (h : ∀ {closing}, fromEnd buffer mediaPacketDelay = some closing →
      (Q ↔ P (closing.1.number - 1))) :
    (∀ n, Lacks buffer n → P n) ↔ (bufferSize ≤ buffer.length → gap buffer = some 2 → Q) := by
  constructor
  · intro hall hfull hgap
    obtain ⟨closing, -, hclosing, -⟩ := Receiver.exists_gap hfull
    exact (h hclosing).mpr (hall _ ⟨hfull, hgap, closing, hclosing, rfl⟩)
  · rintro hQ n ⟨hfull, hgap, closing, hclosing, rfl⟩
    exact (h hclosing).mp (hQ hfull hgap)

instance (buffer : List MediaPacket) (fecBuffer : List (CustomFecPacket × Octets)) :
    Decidable (∀ n, Lacks buffer n → CanRecover buffer fecBuffer n) :=
  decidable_of_iff' _ (forall_lacks_iff recoveredPacket_isOk_iff)

instance (buffer : List MediaPacket) (fecBuffer : List (CustomFecPacket × Octets)) :
    Decidable (∀ n, Lacks buffer n → FindsNothing buffer fecBuffer n) :=
  decidable_of_iff' _ (forall_lacks_iff recoveredPacket_eq_none_iff)

lemma recoveredInGap_eq_none_iff :
    (bufferSize ≤ buffer.length → recoveredInGap buffer fecBuffer = none) ↔
      ∀ n, Lacks buffer n → ¬Recovers buffer fecBuffer n := by
  rw [forall_lacks_iff fun hclosing => (exists_recoveredPacket_iff hclosing).not]
  refine forall_congr' fun hfull => ?_
  unfold recoveredInGap
  split_ifs with hgap
  · rw [forall_prop_of_true hgap]
    rcases recoveredPacket buffer fecBuffer with fault | - | packet <;> simp
  · simp [hgap]

instance (buffer : List MediaPacket) (fecBuffer : List (CustomFecPacket × Octets)) :
    Decidable (∀ n, Lacks buffer n → ¬Recovers buffer fecBuffer n) :=
  decidable_of_iff _ recoveredInGap_eq_none_iff

end Outcome

namespace Receiver

/-- A gap of one packet is the only one that asks for a recovery. -/
lemma closeGap_eq_none_iff {r : Receiver} {closing previous : MediaPacket}
    (hclosing : fromEnd r.jpegPacketIncomingBuffer mediaPacketDelay = some closing)
    (hprevious : fromEnd r.jpegPacketIncomingBuffer (mediaPacketDelay + 1) = some previous) :
    r.closeGap.2 = none ↔
      (closing.1.header.sequenceNumber.toNat = previous.1.header.sequenceNumber.toNat + 2 →
        CanRecover r.jpegPacketIncomingBuffer r.fecPacketIncomingBuffer
          (closing.1.header.sequenceNumber.toNat - 1)) := by
  have hgap := gap_eq hclosing hprevious
  rw [← recoveredPacket_isOk_iff hclosing]
  by_cases htwo : closing.1.header.sequenceNumber.toNat =
      previous.1.header.sequenceNumber.toNat + 2
  · have hdiff : (closing.1.header.sequenceNumber.toNat : ℤ) -
        previous.1.header.sequenceNumber.toNat = 2 := by omega
    rw [hdiff] at hgap
    rw [closeGap_of_eq hgap, forall_prop_of_true htwo]
    rcases recoveredPacket r.jpegPacketIncomingBuffer r.fecPacketIncomingBuffer with
      fault | - | packet
    · exact iff_of_false (by simp) Bool.false_ne_true
    · exact iff_of_true rfl rfl
    · exact iff_of_true rfl rfl
  · refine iff_of_true ?_ fun h => absurd h htwo
    rcases lt_or_gt_of_ne (show (closing.1.header.sequenceNumber.toNat : ℤ) -
        previous.1.header.sequenceNumber.toNat ≠ 2 by omega) with hlt | hgt
    · rw [closeGap_of_lt hgap hlt]
    · rw [closeGap_of_gt hgap hgt]

lemma closeGap_jpegSequenceUtility (r : Receiver) :
    r.closeGap.1.jpegSequenceUtility = r.jpegSequenceUtility := by
  rcases closeGap_cases r with ⟨-, h⟩ | ⟨d, -, -, h⟩ | ⟨d, -, -, h⟩ |
    ⟨-, ⟨fault, -, h⟩ | ⟨-, h⟩ | ⟨q, -, h⟩⟩ <;> rw [h]

lemma moveFront_jpegSequenceUtility (r : Receiver) :
    r.moveFront.jpegSequenceUtility = r.jpegSequenceUtility := by
  unfold moveFront
  cases r.jpegPacketIncomingBuffer with
  | nil => rfl
  | cons packet buffer => rfl

lemma report_eq_none_iff (r : Receiver) :
    r.report.2 = none ↔ (r.statisticsHandler = true → r.jpegSequenceUtility.isSome = true) := by
  unfold report
  split_ifs with hhandler
  · simp only [hhandler, true_implies]
    cases r.jpegSequenceUtility with
    | none => exact iff_of_false (by simp) Bool.false_ne_true
    | some utility => exact iff_of_true rfl rfl
  · exact iff_of_true rfl fun h => absurd h hhandler

/-! ### Messages -/

/-- When a JPEG packet is handled without a fault: it has the ssrc of the receiver and at least two
bytes of data, and if it fills the buffer and the gap is one packet, that one can be recovered. -/
structure CanTake (r : Receiver) (packet : CustomJpegPacket) (message : Octets) : Prop where
  ssrc : packet.header.ssrc = r.ssrc
  two_le : 2 ≤ packet.data.length
  recover : (updateUtility r.jpegSequenceUtility packet.header.sequenceNumber).2 = true →
    bufferSize ≤ r.jpegPacketIncomingBuffer.length + 1 → ∀ closing previous : MediaPacket,
    fromEnd (r.jpegPacketIncomingBuffer ++ [(packet, message)]) mediaPacketDelay = some closing →
    fromEnd (r.jpegPacketIncomingBuffer ++ [(packet, message)]) (mediaPacketDelay + 1) =
      some previous →
    closing.1.header.sequenceNumber.toNat = previous.1.header.sequenceNumber.toNat + 2 →
    CanRecover (r.jpegPacketIncomingBuffer ++ [(packet, message)]) r.fecPacketIncomingBuffer
      (closing.1.header.sequenceNumber.toNat - 1)

/-- When a datagram is handled without a fault. -/
structure CanHandle (r : Receiver) (message : Octets) : Prop where
  jpeg : ∀ packet rest, customJpegPacketGrammar {} message = .ok (packet, rest) →
    r.CanTake packet message
  fec : ∀ packet, customJpegPacketGrammar {} message = .error packet →
    ∀ fec rest, customFecPacketGrammar {} message = .ok (fec, rest) →
    fec.header.payloadTypeField = 100 → fec.header.ssrc = r.ssrc
  statistics : ∀ packet, customJpegPacketGrammar {} message = .error packet →
    r.statisticsHandler = true → r.jpegSequenceUtility.isSome = true

/-- A JPEG packet either meets a fault or leaves a sequence utility. -/
lemma handleNewJpegPacket_of_ok {r : Receiver} {message rest : Octets} {packet : CustomJpegPacket}
    (hparse : customJpegPacketGrammar {} message = .ok (packet, rest)) :
    (r.CanTake packet message ∧ ∃ r', r.handleNewJpegPacket message = (r', .ok true) ∧
        r'.jpegSequenceUtility.isSome = true) ∨
      ¬r.CanTake packet message ∧ ∃ r' fault,
        r.handleNewJpegPacket message = (r', .error fault) := by
  cases hmedia : mediaPacket r.ssrc message with
  | none =>
    rcases handleNewJpegPacket_of_no_media hmedia with ⟨hsame, ⟨error, herror, -⟩ |
      ⟨-, fault, -, hfault⟩⟩
    · rw [hparse] at herror
      cases herror
    · refine Or.inr ⟨fun h => ?_, r, fault, Prod.ext hsame hfault⟩
      unfold mediaPacket at hmedia
      rw [hparse] at hmedia
      dsimp only at hmedia
      rw [if_pos ⟨h.ssrc, h.two_le⟩] at hmedia
      cases hmedia
  | some packet' =>
    obtain ⟨rest', hparse', hssrc, hdata⟩ := mediaPacket_eq_some hmedia
    rw [hparse] at hparse'
    cases hparse'
    rcases hupdate : updateUtility r.jpegSequenceUtility packet.header.sequenceNumber with
      ⟨utility, - | -⟩
    · refine Or.inl ⟨⟨hssrc, hdata, fun h => ?_⟩, _,
        handleNewJpegPacket_of_rejected hmedia hupdate, rfl⟩
      rw [hupdate] at h
      cases h
    · have hvalid : (updateUtility r.jpegSequenceUtility packet.header.sequenceNumber).2 = true :=
        congrArg Prod.snd hupdate
      rw [handleNewJpegPacket_of_accepted hmedia hupdate]
      by_cases hshort : r.jpegPacketIncomingBuffer.length + 1 < bufferSize
      · rw [if_pos hshort]
        exact Or.inl ⟨⟨hssrc, hdata, fun _ hfull => absurd hfull (not_le.mpr hshort)⟩, _, rfl, rfl⟩
      · have hfull := not_lt.mp hshort
        rw [← length_buffer_append r utility (packet, message)] at hfull
        obtain ⟨closing, previous, hclosing, hprevious⟩ := exists_gap hfull
        have hgap := closeGap_eq_none_iff hclosing hprevious
        have hsame := closeGap_jpegSequenceUtility (r.append utility (packet, message))
        rw [if_neg hshort]
        rcases hclose : (r.append utility (packet, message)).closeGap with ⟨r', - | fault⟩
        · rw [hclose] at hgap hsame
          refine Or.inl ⟨⟨hssrc, hdata, ?_⟩, _, rfl, ?_⟩
          · intro _ _ closing' previous' hclosing' hprevious'
            cases hclosing.symm.trans hclosing'
            cases hprevious.symm.trans hprevious'
            exact hgap.mp rfl
          · exact congrArg Option.isSome ((moveFront_jpegSequenceUtility r').trans hsame)
        · rw [hclose] at hgap
          refine Or.inr ⟨fun h => ?_, _, _, rfl⟩
          have hnone := hgap.mpr
            (h.recover hvalid (not_lt.mp hshort) closing previous hclosing hprevious)
          cases hnone

/-- A datagram that is no JPEG packet meets a fault if it is a FEC packet of another source. -/
lemma handleNewFecPacket_of_error {r : Receiver} (message : Octets) :
    ((∀ fec rest, customFecPacketGrammar {} message = .ok (fec, rest) →
        fec.header.payloadTypeField = 100 → fec.header.ssrc = r.ssrc) ∧
      ∃ r' parsed, r.handleNewFecPacket message = (r', .ok parsed) ∧
        r'.statisticsHandler = r.statisticsHandler ∧
        r'.jpegSequenceUtility = r.jpegSequenceUtility) ∨
    (¬∀ fec rest, customFecPacketGrammar {} message = .ok (fec, rest) →
        fec.header.payloadTypeField = 100 → fec.header.ssrc = r.ssrc) ∧
      ∃ r' fault, r.handleNewFecPacket message = (r', .error fault) := by
  rcases handleNewFecPacket_cases r message with ⟨htype, h⟩ | ⟨fec, rest, hparse, htype, hssrc, h⟩ |
    ⟨fec, rest, hparse, htype, hssrc, utility, fecs, h⟩
  · refine Or.inl ⟨?_, _, _, h, rfl, rfl⟩
    exact fun fec rest hparse htype' => absurd htype' (htype fec rest hparse)
  · exact Or.inr ⟨fun hall => hssrc (hall fec rest hparse htype), _, _, h⟩
  · refine Or.inl ⟨?_, _, _, h, rfl, rfl⟩
    intro fec' rest' hparse' _
    rw [hparse] at hparse'
    cases hparse'
    exact hssrc

lemma handleNewIncomingMessage_eq_none_iff (r : Receiver) (message : Octets) :
    (r.handleNewIncomingMessage message).2 = none ↔ r.CanHandle message := by
  unfold handleNewIncomingMessage
  rcases hparse : customJpegPacketGrammar {} message with packet | ⟨packet, rest⟩
  · have hjpeg : r.handleNewJpegPacket message = (r, .ok false) := by
      unfold handleNewJpegPacket
      rw [hparse]
    rw [hjpeg]
    dsimp only
    rcases handleNewFecPacket_of_error (r := r) message with
      ⟨hfec, r', parsed, hr', hhandler, hutility⟩ | ⟨hfec, r', fault, hr'⟩
    · rw [hr']
      dsimp only
      rw [report_eq_none_iff, hhandler, hutility]
      constructor
      · intro h
        refine ⟨?_, fun _ _ => hfec, fun _ _ => h⟩
        intro packet' rest' hok
        rw [hparse] at hok
        cases hok
      · intro h
        exact h.statistics packet hparse
    · rw [hr']
      exact iff_of_false (by simp) fun h => hfec (h.fec packet hparse)
  · rcases handleNewJpegPacket_of_ok (r := r) hparse with ⟨htake, r', hr', hutility⟩ |
      ⟨htake, r', fault, hr'⟩
    · rw [hr']
      dsimp only
      rw [report_eq_none_iff]
      refine iff_of_true (fun _ => hutility) ⟨?_, ?_, ?_⟩
      · intro packet' rest' hok
        rw [hparse] at hok
        cases hok
        exact htake
      · intro packet' herror
        rw [hparse] at herror
        cases herror
      · intro packet' herror
        rw [hparse] at herror
        cases herror
    · rw [hr']
      exact iff_of_false (by simp) fun h => htake (h.jpeg packet rest hparse)

/-- After any datagram, in any state, the socket receives again exactly where the datagram can be
handled. -/
theorem keeps_receiving_iff (r : Receiver) (datagram : Octets) :
    (r.handleIncomingUdpTraffic false datagram ⟨false⟩).2.1.receiving = true ↔
      r.CanHandle datagram := by
  rw [← handleNewIncomingMessage_eq_none_iff]
  unfold handleIncomingUdpTraffic
  rw [if_neg Bool.false_ne_true]
  rcases r.handleNewIncomingMessage datagram with ⟨r', - | fault⟩
  · exact iff_of_true rfl rfl
  · exact iff_of_false Bool.false_ne_true (by simp)

/-- A packet of another source is not dropped but stops the receiver. -/
theorem receiving_stops :
    ¬∀ (r : Receiver) (datagram : Octets),
      (r.handleIncomingUdpTraffic false datagram ⟨false⟩).2.1.receiving = true := by
  intro h
  have hstops : (({ ssrc := 8 } : Receiver).handleIncomingUdpTraffic false (raw (smallPacket 1))
      ⟨false⟩).2.1.receiving = false := by
    decide
  exact Bool.false_ne_true (hstops.symm.trans (h { ssrc := 8 } (raw (smallPacket 1))))

end Receiver

end Rtp
