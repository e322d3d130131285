import StreamingLib.Rtp.Movie
import StreamingLib.Rtp.ParityGroups

/-!
# What the sender puts on the wire

In every run the datagrams that the sender has sent are those of the frames in their order, with the
FEC packet of each group behind its last frame, without those that the channel simulation drops.
-/

namespace Rtp

open Groups Transition

/-! ### The wire -/

/-- The draws of the channel simulation in a call of `send_next_packet_handler`. -/
def SenderEvent.draws : SenderEvent → Option (Bool × Bool)
  | .handler dropMedia dropFec => some (dropMedia, dropFec)
  | .start | .stop | .strand | .expire | .abortedHandler => none

/-- The FEC datagram that is sent behind the last of some packets. -/
def fecDatagram (fecK : Option UInt16) (packets : List CustomJpegPacket) (n : UInt16) :
    Option Octets :=
  match fecK with
  | none => none
  | some k => if k.toNat ∣ packets.length then fullFecPacket (newest k.toNat packets) n else none

/-- What is sent of the packets from place `i` on, and the number of the next FEC packet is `n`. A
FEC packet that is dropped does not count. -/
def wire (fecK : Option UInt16) (packets : List CustomJpegPacket) :
    ℕ → UInt16 → List (Bool × Bool) → List Octets
  | _, _, [] => []
  | i, n, (dropMedia, dropFec) :: draws =>
    match packets[i]? with
    | none => []
    | some packet =>
      (if fecK.isSome && dropMedia then [] else [raw packet]) ++
        match fecDatagram fecK (packets.take (i + 1)) n with
        | none => wire fecK packets (i + 1) n draws
        | some fec =>
          if dropFec then wire fecK packets (i + 1) n draws
          else fec :: wire fecK packets (i + 1) (n + 1) draws

/-! ### Packets of a movie -/

lemma getElem?_sentPackets (ssrc : UInt32) (s : ℕ) (frames : List Octets) (i : ℕ) :
    (sentPackets ssrc s frames)[i]? = frames[i]?.map (sentPacket ssrc (UInt16.ofNat (s + i))) := by
  induction frames generalizing s i with
  | nil => rfl
  | cons frame frames ih =>
    cases i with
    | zero => rfl
    | succ i =>
      simp only [sentPackets, List.getElem?_cons_succ, ih]
      rw [Nat.add_right_comm, Nat.add_assoc]

lemma le_length_raw_of_mem {ssrc : UInt32} {first : ℕ} {frames : List Octets}
    {p : CustomJpegPacket} (hp : p ∈ sentPackets ssrc first frames) : 12 ≤ (raw p).length := by
  obtain ⟨number, frame, -, rfl⟩ := mem_sentPackets hp
  rw [length_raw (sentPacket_plain ssrc number frame) rfl]
  omega

/-- What the FEC generator is called with for a packet. -/
def fecCall (p : CustomJpegPacket) : Octets × UInt16 := (raw p, p.header.sequenceNumber)

lemma pending_map {α β : Type} (f : α → β) (k : ℕ) (l : List α) :
    pending k (l.map f) = (pending k l).map f := by
  rw [pending, pending, List.length_map, List.map_drop]

/-- The FEC datagram of a group. -/
lemma fullFecPacket_of_length {k : UInt16} (hpos : 1 ≤ k.toNat) (hk : k.toNat ≤ 48)
    {packets : List CustomJpegPacket} {last : CustomJpegPacket} (hlength : packets.length = k.toNat)
    (hlast : packets.getLast? = some last) (hsize : ∀ q ∈ packets, 12 ≤ (raw q).length)
    (n : UInt16) :
    fullFecPacket packets n =
      some ((standardRtpHeaderGenerator
          (fecRtpHeader n last.header.ssrc last.header.timestamp)).2 ++
        groupPacket k (packets.map fecCall)) := by
  have hgenerated : ((FecGenerator.new k).generateAll (packets.map fecCall)).2 =
      .ok (some (groupPacket k (packets.map fecCall))) := by
    apply generateAll_of_group hpos hk
    · rw [List.length_map, hlength]
    · intro call hcall
      obtain ⟨q, hq, rfl⟩ := List.mem_map.mp hcall
      exact hsize q hq
  rw [fullFecPacket, hlast, hlength, UInt16.ofNat_toNat]
  unfold fecCall at hgenerated
  simp only [Option.bind_eq_bind, Option.bind_some, hgenerated]
  rfl

/-- The FEC datagram of a group that a packet completes. -/
lemma fullFecPacket_of_completes {k : UInt16} (hpos : 1 ≤ k.toNat) (hk : k.toNat ≤ 48)
    {packets : List CustomJpegPacket} {p : CustomJpegPacket}
    (heq : packets.length % k.toNat + 1 = k.toNat)
    (hsize : ∀ q ∈ packets ++ [p], 12 ≤ (raw q).length) (n : UInt16) :
    fullFecPacket (newest k.toNat (packets ++ [p])) n =
      some ((standardRtpHeaderGenerator (fecRtpHeader n p.header.ssrc p.header.timestamp)).2 ++
        groupPacket k (pending k.toNat (packets.map fecCall) ++ [fecCall p])) := by
  have hlength : (pending k.toNat packets ++ [p]).length = k.toNat := by
    rw [List.length_append, length_pending, List.length_singleton, heq]
  have hgroup : ∀ q ∈ pending k.toNat packets ++ [p], 12 ≤ (raw q).length := by
    intro q hq
    apply hsize
    rcases List.mem_append.mp hq with hq | hq
    · exact List.mem_append_left _ (mem_of_mem_pending hq)
    · exact List.mem_append_right _ hq
  rw [newest_concat_of_eq p heq,
    fullFecPacket_of_length hpos hk hlength (List.getLast?_concat ..) hgroup, List.map_append,
    pending_map, List.map_singleton]

/-! ### The FEC part of the handler -/

/-- The generator of a sender that has sent some packets. -/
def generatorAfter (fecK : Option UInt16) (packets : List CustomJpegPacket) :
    Option FecGenerator :=
  fecK.map fun k => .collected k (pending k.toNat (packets.map fecCall))

/-- The group size that the generator can write into a mask. -/
def FitsMask (fecK : Option UInt16) : Prop := ∀ k ∈ fecK, 1 ≤ k.toNat ∧ k.toNat ≤ 48

instance (fecK : Option UInt16) : Decidable (FitsMask fecK) := Option.decidableForallMem fecK

/-- The FEC part adds the datagram for the group that the packet completes, unless it is dropped. -/
lemma sendFec_eq {fecK : Option UInt16} (hfecK : FitsMask fecK) (s : Sender)
    (packets : List CustomJpegPacket) (p : CustomJpegPacket)
    (hgenerator : s.fecGenerator = generatorAfter fecK packets)
    (hchannel : s.channelFailure = fecK.isSome)
    (hnumber : s.currentSequenceNumber = p.header.sequenceNumber) (hssrc : s.ssrc = p.header.ssrc)
    (hsize : ∀ q ∈ packets ++ [p], 12 ≤ (raw q).length) (drop : Bool) :
    s.sendFec (raw p) p.header.timestamp drop =
      (match fecDatagram fecK (packets ++ [p]) s.currentFecSequenceNumber with
        | none => { s with fecGenerator := generatorAfter fecK (packets ++ [p]) }
        | some fec =>
          if drop then { s with fecGenerator := generatorAfter fecK (packets ++ [p]) }
          else { s with
            fecGenerator := generatorAfter fecK (packets ++ [p])
            currentFecSequenceNumber := s.currentFecSequenceNumber + 1
            sent := s.sent ++ [fec] }, none) := by
  cases fecK with
  | none =>
    have hnone : s.fecGenerator = none := hgenerator
    have hkept : generatorAfter none (packets ++ [p]) = s.fecGenerator := hnone.symm
    rw [Sender.sendFec, hkept, hnone]
    dsimp only [fecDatagram]
    rw [← hnone]
  | some k =>
    obtain ⟨hpos, hk⟩ := hfecK k rfl
    have hcollected : s.fecGenerator =
        some (.collected k (pending k.toNat (packets.map fecCall))) := hgenerator
    have hpending : ∀ q ∈ pending k.toNat (packets.map fecCall), 12 ≤ q.1.length := by
      intro call hcall
      obtain ⟨q, hq, rfl⟩ := List.mem_map.mp (mem_of_mem_pending hcall)
      exact hsize q (List.mem_append_left _ hq)
    have hp : 12 ≤ (fecCall p).1.length := hsize p (List.mem_append_right _ List.mem_cons_self)
    have hcount : (pending k.toNat (packets.map fecCall)).length = packets.length % k.toNat := by
      rw [length_pending, List.length_map]
    have hmap : (packets ++ [p]).map fecCall = packets.map fecCall ++ [fecCall p] := by
      rw [List.map_append, List.map_singleton]
    have hmapLength : (packets.map fecCall).length = packets.length := List.length_map _
    have hlength : (packets ++ [p]).length = packets.length + 1 := by
      rw [List.length_append, List.length_singleton]
    have hmod : packets.length % k.toNat < k.toNat := Nat.mod_lt _ hpos
    rw [Sender.sendFec, hcollected, hnumber]
    rcases (Nat.succ_le_of_lt hmod).lt_or_eq with hlt | heq
    · have hnext := generateNextFecPacket_of_lt (p := fecCall p) (by rwa [hcount]) hpending hp
      have hnone : fecDatagram (some k) (packets ++ [p]) s.currentFecSequenceNumber = none := by
        rw [fecDatagram, hlength]
        exact if_neg (not_dvd_succ hlt)
      have hgenerated : generatorAfter (some k) (packets ++ [p]) =
          some (.collected k (pending k.toNat (packets.map fecCall) ++ [fecCall p])) := by
        rw [generatorAfter, hmap, Option.map_some,
          pending_concat_of_lt _ (by rw [hmapLength]; exact hlt)]
      dsimp only [fecCall] at hnext
      dsimp only
      rw [hnext, hnone, hgenerated]
      rfl
    · have hnext := generateNextFecPacket_of_eq (p := fecCall p) (by rwa [hcount]) hk hpending hp
      have hsome := fullFecPacket_of_completes hpos hk heq hsize s.currentFecSequenceNumber
      have hgenerated : generatorAfter (some k) (packets ++ [p]) = some (.new k) := by
        rw [generatorAfter, hmap, Option.map_some,
          pending_concat_of_eq _ (by rw [hmapLength]; exact heq), collected_nil]
      dsimp only [fecCall] at hnext
      dsimp only
      rw [hnext, fecDatagram, hlength, if_pos (dvd_succ heq), hsome, hgenerated, hchannel, hssrc]
      cases drop <;> rfl

/-! ### The sender of a movie -/

/-- The sender is about to read what follows the first `i` frames, and `n` is the number of its next
FEC packet. -/
structure Sender.HasSent (ssrc : UInt32) (first : ℕ) (frames : List Octets) (fecK : Option UInt16)
    (i : ℕ) (n : UInt16) (s : Sender) : Prop where
  ssrc_eq : s.ssrc = ssrc
  channel : s.channelFailure = fecK.isSome
  le_length : i ≤ frames.length
  source : s.jpegSource = movie (frames.drop i) ∨
    i = frames.length ∧ s.jpegSource = { chars := [], good := false }
  number : s.currentSequenceNumber = UInt16.ofNat (first + i)
  fecNumber : s.currentFecSequenceNumber = n
  generator : s.fecGenerator = generatorAfter fecK ((sentPackets ssrc first frames).take i)

section HasSent

variable {ssrc : UInt32} {first : ℕ} {frames : List Octets} {fecK : Option UInt16} {i : ℕ}
  {n : UInt16} {s s' : Sender}

lemma hasSent_new (ssrc : UInt32) (frames : List Octets) (fecK : Option UInt16)
    (sequenceNumber fecSequenceNumber : UInt16) :
    (Sender.new ssrc (movie frames) fecK sequenceNumber fecSequenceNumber).HasSent ssrc
      sequenceNumber.toNat frames fecK 0 fecSequenceNumber := by
  refine ⟨rfl, rfl, Nat.zero_le _, Or.inl rfl, UInt16.ofNat_toNat.symm, rfl, ?_⟩
  cases fecK with
  | none => rfl
  | some k =>
    rw [generatorAfter, List.take_zero, Option.map_some, List.map_nil, pending_nil, collected_nil]
    rfl

/-- Nothing is sent behind the last frame. -/
lemma wire_length (fecK : Option UInt16) (packets : List CustomJpegPacket) (n : UInt16)
    (draws : List (Bool × Bool)) : wire fecK packets packets.length n draws = [] := by
  cases draws with
  | nil => rfl
  | cons draw draws =>
    rw [wire, List.getElem?_eq_none le_rfl]

/-- Other steps send nothing. -/
lemma Sender.HasSent.other (h : s.HasSent ssrc first frames fecK i n) {e : SenderEvent}
    (he : e.draws = none) (hstep : s.step e = some s') :
    s'.HasSent ssrc first frames fecK i n ∧ s'.sent = s.sent := by
  obtain ⟨hssrc, hchannel, hle, hsource, hnumber, hfec, hgenerator⟩ := h
  cases e with
  | start =>
    cases hstep
    unfold Sender.start
    split_ifs <;> exact ⟨⟨hssrc, hchannel, hle, hsource, hnumber, hfec, hgenerator⟩, rfl⟩
  | stop =>
    cases hstep
    unfold Sender.stop
    split_ifs <;> exact ⟨⟨hssrc, hchannel, hle, hsource, hnumber, hfec, hgenerator⟩, rfl⟩
  | strand =>
    rcases hs : s.strand with - | ⟨c, cs⟩ <;> simp only [Sender.step, hs] at hstep
    · cases hstep
    · cases hstep
      exact ⟨⟨hssrc, hchannel, hle, hsource, hnumber, hfec, hgenerator⟩, rfl⟩
  | expire =>
    simp only [Sender.step] at hstep
    split_ifs at hstep
    cases hstep
    exact ⟨⟨hssrc, hchannel, hle, hsource, hnumber, hfec, hgenerator⟩, rfl⟩
  | handler dropMedia dropFec => cases he
  | abortedHandler =>
    simp only [Sender.step] at hstep
    split_ifs at hstep
    cases hstep
    exact ⟨⟨hssrc, hchannel, hle, hsource, hnumber, hfec, hgenerator⟩, rfl⟩

/-- Behind the last frame a call of the handler sends nothing. -/
lemma Sender.HasSent.ended (h : s.HasSent ssrc first frames fecK frames.length n)
    (dropMedia dropFec : Bool) :
    (s.sendNextPacketHandler false dropMedia dropFec).1.HasSent ssrc first frames fecK
        frames.length n ∧
      (s.sendNextPacketHandler false dropMedia dropFec).1.sent = s.sent := by
  obtain ⟨hssrc, hchannel, hle, hsource, hnumber, hfec, hgenerator⟩ := h
  have hread : s.jpegSource.readFrame = (.noLength, { chars := [], good := false }) := by
    rcases hsource with hsource | ⟨-, hsource⟩
    · rw [hsource, List.drop_length, readFrame_movie_nil]
    · rw [hsource]
      rfl
  rw [Sender.sendNextPacketHandler, if_neg Bool.false_ne_true, hread]
  exact ⟨⟨hssrc, hchannel, hle, Or.inr ⟨rfl, rfl⟩, hnumber, hfec, hgenerator⟩, rfl⟩

/-- A datagram is sent if the channel simulation does not drop it. -/
lemma sendTo_eq (s : Sender) (drop : Bool) (datagram : Octets) : s.sendTo drop datagram =
    { s with sent := s.sent ++ if s.channelFailure && drop then [] else [datagram] } := by
  unfold Sender.sendTo
  split_ifs
  · rw [List.append_nil]
  · rfl

/-- The handler with a frame to send, by its two parts. -/
lemma handler_of_data {s₁ s₂ : Sender} {data : Octets} {source : IStream} {p : CustomJpegPacket}
    {dropMedia dropFec : Bool} (hread : s.jpegSource.readFrame = (.data data, source))
    (hp : p = sentPacket s.ssrc s.currentSequenceNumber data)
    (hmedia : { s with jpegSource := source }.sendTo dropMedia (raw p) = s₁)
    (hfec : s₁.sendFec (raw p) p.header.timestamp dropFec = (s₂, none)) :
    s.sendNextPacketHandler false dropMedia dropFec = ({ s₂ with
      currentSequenceNumber := s₂.currentSequenceNumber + 1
      timer := s₂.timer.arm }, none) := by
  rw [Sender.sendNextPacketHandler, if_neg Bool.false_ne_true, hread]
  dsimp only
  rw [← hp, ← raw, hmedia, hfec]

/-- The frame that is read next. -/
lemma Sender.HasSent.readFrame (hframes : ∀ frame ∈ frames, FitsMovie frame)
    (h : s.HasSent ssrc first frames fecK i n) (hlt : i < frames.length) :
    s.jpegSource.readFrame = (.data frames[i], movie (frames.drop (i + 1))) := by
  rcases h.source with hsource | ⟨heq, -⟩
  · rw [hsource, List.drop_eq_getElem_cons hlt,
      readFrame_movie_cons (hframes _ (List.getElem_mem hlt))]
  · exact absurd heq hlt.ne

lemma take_succ_sentPackets {p : CustomJpegPacket}
    (hp : (sentPackets ssrc first frames)[i]? = some p) :
    (sentPackets ssrc first frames).take (i + 1) =
      (sentPackets ssrc first frames).take i ++ [p] := by
  rw [List.take_add_one, hp]
  rfl

/-- The media packet of frame `i` has been sent, and its FEC part comes next. -/
structure Sender.MediaSent (ssrc : UInt32) (first : ℕ) (frames : List Octets)
    (fecK : Option UInt16) (i : ℕ) (n : UInt16) (s : Sender) : Prop where
  ssrc_eq : s.ssrc = ssrc
  channel : s.channelFailure = fecK.isSome
  lt_length : i < frames.length
  source : s.jpegSource = movie (frames.drop (i + 1))
  number : s.currentSequenceNumber = UInt16.ofNat (first + i)
  fecNumber : s.currentFecSequenceNumber = n
  generator : s.fecGenerator = generatorAfter fecK ((sentPackets ssrc first frames).take i)

/-- The media part sends the packet, unless it is dropped. -/
lemma Sender.HasSent.sendMedia (h : s.HasSent ssrc first frames fecK i n) (hlt : i < frames.length)
    (dropMedia : Bool) (datagram : Octets) :
    ({ s with jpegSource := movie (frames.drop (i + 1)) }.sendTo dropMedia datagram).MediaSent ssrc
        first frames fecK i n ∧
      ({ s with jpegSource := movie (frames.drop (i + 1)) }.sendTo dropMedia datagram).sent =
        s.sent ++ if fecK.isSome && dropMedia then [] else [datagram] := by
  rw [sendTo_eq, ← h.channel]
  exact ⟨⟨h.ssrc_eq, h.channel, hlt, rfl, h.number, h.fecNumber, h.generator⟩, rfl⟩

/-- Behind the FEC part the next packet follows. -/
lemma Sender.MediaSent.next (h : s.MediaSent ssrc first frames fecK i n) (m : UInt16)
    (sent : List Octets) :
    Sender.HasSent ssrc first frames fecK (i + 1) m { s with
      fecGenerator := generatorAfter fecK ((sentPackets ssrc first frames).take (i + 1))
      currentFecSequenceNumber := m
      sent := sent
      currentSequenceNumber := s.currentSequenceNumber + 1
      timer := s.timer.arm } := by
  have hnumber : s.currentSequenceNumber + 1 = UInt16.ofNat (first + (i + 1)) := by
    rw [h.number]
    exact (UInt16.ofNat_add (first + i) 1).symm
  exact ⟨h.ssrc_eq, h.channel, h.lt_length, Or.inl h.source, hnumber, rfl, rfl⟩

/-- The FEC part sends what the wire has behind the packet. -/
lemma Sender.MediaSent.sendFec (hfecK : FitsMask fecK)
    (h : s.MediaSent ssrc first frames fecK i n) (hlt : i < frames.length) {p : CustomJpegPacket}
    (hp : p = sentPacket ssrc (UInt16.ofNat (first + i)) frames[i])
    {sent : List Octets} {dropMedia : Bool}
    (hsent : s.sent = sent ++ if fecK.isSome && dropMedia then [] else [raw p]) (dropFec : Bool) :
    ∃ s₂ m, s.sendFec (raw p) p.header.timestamp dropFec = (s₂, none) ∧
      Sender.HasSent ssrc first frames fecK (i + 1) m { s₂ with
        currentSequenceNumber := s₂.currentSequenceNumber + 1
        timer := s₂.timer.arm } ∧
      ∀ draws, sent ++ wire fecK (sentPackets ssrc first frames) i n
          ((dropMedia, dropFec) :: draws) =
        s₂.sent ++ wire fecK (sentPackets ssrc first frames) (i + 1) m draws := by
  have hpacket : (sentPackets ssrc first frames)[i]? = some p := by
    rw [getElem?_sentPackets, List.getElem?_eq_getElem hlt, hp]
    rfl
  have htake := take_succ_sentPackets hpacket
  have hsize : ∀ q ∈ (sentPackets ssrc first frames).take i ++ [p], 12 ≤ (raw q).length := by
    intro q hq
    rw [← htake] at hq
    exact le_length_raw_of_mem (List.mem_of_mem_take hq)
  have hfec := sendFec_eq hfecK s _ p h.generator h.channel (by rw [hp]; exact h.number)
    (by rw [hp]; exact h.ssrc_eq) hsize dropFec
  have hwire : ∀ draws, wire fecK (sentPackets ssrc first frames) i n
      ((dropMedia, dropFec) :: draws) = _ := fun draws => by
    rw [wire, hpacket]
  rw [← htake, h.fecNumber] at hfec
  cases hdatagram : fecDatagram fecK ((sentPackets ssrc first frames).take (i + 1)) n with
  | none =>
    rw [hdatagram] at hfec
    refine ⟨_, n, hfec, ?_, fun draws => ?_⟩
    · rw [← h.fecNumber]
      exact h.next s.currentFecSequenceNumber s.sent
    · rw [hwire, hdatagram, ← List.append_assoc, ← hsent]
  | some fec =>
    rw [hdatagram] at hfec
    cases dropFec with
    | true =>
      refine ⟨_, n, hfec, ?_, fun draws => ?_⟩
      · rw [← h.fecNumber]
        exact h.next s.currentFecSequenceNumber s.sent
      · rw [hwire, hdatagram, ← List.append_assoc, ← hsent]
        rfl
    | false =>
      refine ⟨_, n + 1, hfec, h.next (n + 1) (s.sent ++ [fec]), fun draws => ?_⟩
      rw [hwire, hdatagram, ← List.append_assoc, ← hsent]
      exact List.append_cons _ _ _

/-- A call of the handler sends what the wire has for the next frame. -/
lemma Sender.HasSent.handler (hfecK : FitsMask fecK) (hframes : ∀ frame ∈ frames, FitsMovie frame)
    (h : s.HasSent ssrc first frames fecK i n) (dropMedia dropFec : Bool) :
    ∃ j m, (s.sendNextPacketHandler false dropMedia dropFec).1.HasSent ssrc first frames fecK j m ∧
      ∀ draws, s.sent ++ wire fecK (sentPackets ssrc first frames) i n
          ((dropMedia, dropFec) :: draws) =
        (s.sendNextPacketHandler false dropMedia dropFec).1.sent ++
          wire fecK (sentPackets ssrc first frames) j m draws := by
  rcases h.le_length.lt_or_eq with hlt | rfl
  · obtain ⟨p, hp⟩ : ∃ p, p = sentPacket ssrc (UInt16.ofNat (first + i)) frames[i] := ⟨_, rfl⟩
    obtain ⟨hmedia, hsent⟩ := h.sendMedia hlt dropMedia (raw p)
    obtain ⟨s₂, m, hfec, hstate, hwire⟩ := hmedia.sendFec hfecK hlt hp hsent dropFec
    have hpacket : p = sentPacket s.ssrc s.currentSequenceNumber frames[i] := by
      rw [h.ssrc_eq, h.number, hp]
    rw [handler_of_data (h.readFrame hframes hlt) hpacket rfl hfec]
    exact ⟨i + 1, m, hstate, hwire⟩
  · obtain ⟨hstate, hsent⟩ := h.ended dropMedia dropFec
    refine ⟨frames.length, n, hstate, fun draws => ?_⟩
    have hnothing := wire_length fecK (sentPackets ssrc first frames) n
    rw [length_sentPackets] at hnothing
    rw [hnothing, hnothing, hsent]

/-- A run goes on with the wire where it was. -/
lemma Sender.HasSent.run (hfecK : FitsMask fecK) (hframes : ∀ frame ∈ frames, FitsMovie frame)
    (h : s.HasSent ssrc first frames fecK i n) {events : List SenderEvent}
    (hrun : senderSystem.run s events = some s') :
    (∃ j m, s'.HasSent ssrc first frames fecK j m) ∧
      s'.sent = s.sent ++ wire fecK (sentPackets ssrc first frames) i n
        (events.filterMap SenderEvent.draws) := by
  induction events generalizing s i n with
  | nil =>
    cases hrun
    exact ⟨⟨i, n, h⟩, (List.append_nil _).symm⟩
  | cons e events ih =>
    simp only [System.run, Option.bind_eq_some_iff] at hrun
    obtain ⟨t, ht, hrun⟩ := hrun
    rcases hdraws : e.draws with - | ⟨dropMedia, dropFec⟩
    · obtain ⟨hstate, hsent⟩ := h.other hdraws ht
      rw [List.filterMap_cons_none hdraws, ← hsent]
      exact ih hstate hrun
    · obtain rfl : e = .handler dropMedia dropFec := by
        cases e with
        | handler dropMedia' dropFec' =>
          cases hdraws
          rfl
        | start | stop | strand | expire | abortedHandler => cases hdraws
      obtain ⟨-, rfl⟩ := Sender.step_handler ht
      have hhandled : s.handled.HasSent ssrc first frames fecK i n :=
        ⟨h.ssrc_eq, h.channel, h.le_length, h.source, h.number, h.fecNumber, h.generator⟩
      obtain ⟨j, m, hstate, hwire⟩ := hhandled.handler hfecK hframes dropMedia dropFec
      obtain ⟨hlast, hsent⟩ := ih hstate hrun
      rw [List.filterMap_cons_some hdraws]
      exact ⟨hlast, hsent.trans (hwire _).symm⟩

end HasSent

/-- In every run of the sender of a movie, with any starts, stops and delays, the datagrams it has
sent are the wire of the draws so far. -/
theorem sender_wire {fecK : Option UInt16} (hfecK : FitsMask fecK) {frames : List Octets}
    (hframes : ∀ frame ∈ frames, FitsMovie frame) (ssrc : UInt32)
    (sequenceNumber fecSequenceNumber : UInt16) {events : List SenderEvent} {s : Sender}
    (hrun : senderSystem.run (.new ssrc (movie frames) fecK sequenceNumber fecSequenceNumber)
      events = some s) :
    s.sent = wire fecK (sentPackets ssrc sequenceNumber.toNat frames) 0 fecSequenceNumber
      (events.filterMap SenderEvent.draws) :=
  ((hasSent_new ssrc frames fecK sequenceNumber fecSequenceNumber).run hfecK hframes hrun).2

/-- A step of the timer with the call of its handler. -/
def nextPacket (dropMedia dropFec : Bool) : List SenderEvent :=
  [.expire, .handler dropMedia dropFec]

/-- The second of three frames is dropped, and the FEC packet of the first two is sent. -/
theorem sender_wire_dropped :
    ∃ s, senderSystem.run (.new 7 (movie [[1], [2], [3]]) (some 2) 65535 1) ([.start, .strand] ++
        nextPacket false false ++ nextPacket true false ++ nextPacket false false) = some s ∧
      s.sent.length = 3 ∧
      s.sent = wire (some 2) (sentPackets 7 65535 [[1], [2], [3]]) 0 1
        [(false, false), (true, false), (false, false)] := by
  have hframes : ∀ frame ∈ ([[1], [2], [3]] : List Octets), FitsMovie frame := by
    simp [FitsMovie]
  obtain ⟨s, hrun, hcount⟩ : ∃ s, senderSystem.run (.new 7 (movie [[1], [2], [3]]) (some 2) 65535 1)
      ([.start, .strand] ++ nextPacket false false ++ nextPacket true false ++
        nextPacket false false) = some s ∧ s.sent.length = 3 := ⟨_, rfl, rfl⟩
  exact ⟨s, hrun, hcount, sender_wire (by decide) hframes 7 65535 1 hrun⟩

end Rtp
