import StreamingLib.Rtp.GroupRecovery

/-!
# From the sender to the receiver

A sender and a receiver with a network between them that delivers each datagram at any time, any
number of times and in any order, or not at all. Whatever it does, the receiver only shows packets
of the movie, and packets that were recovered from them.
-/

namespace Rtp

open Groups Transition

/-! ### The link -/

/-- The sender of a movie and its receiver. The datagrams on the way are those that were sent. -/
structure MediaLink where
  sender : Sender
  reception : Reception
deriving DecidableEq

inductive LinkEvent
  | sender (event : SenderEvent)
  /-- The network delivers the datagram that was sent as number `i`. -/
  | deliver (i : ℕ)
  /-- `async_receive_from` completes with an error. -/
  | socketError
  | tick (error : Bool)
  | setStatisticsHandler (present : Bool)
deriving DecidableEq

/-- What the receiver is called with. -/
def MediaLink.receiverEvent (s : MediaLink) : LinkEvent → Option ReceiverEvent
  | .sender _ => none
  | .deliver i => (s.sender.sent[i]?).map (.datagram false ·)
  | .socketError => some (.datagram true [])
  | .tick error => some (.tick error)
  | .setStatisticsHandler present => some (.setStatisticsHandler present)

def MediaLink.step (s : MediaLink) : LinkEvent → Option MediaLink
  | .sender event => (s.sender.step event).map fun sender => { s with sender := sender }
  | event =>
    match s.receiverEvent event with
    | none => none
    | some event => (s.reception.step event).map fun reception => { s with reception := reception }

/-- A new sender for a movie, with its numbers, and a new receiver for its packets. -/
def MediaLink.new (ssrc : UInt32) (frames : List Octets) (fecK : Option UInt16)
    (sequenceNumber fecSequenceNumber : UInt16) (statisticsHandler : Bool) : MediaLink where
  sender := .new ssrc (movie frames) fecK sequenceNumber fecSequenceNumber
  reception := { receiver := { ssrc := ssrc, statisticsHandler := statisticsHandler } }

def mediaLinkSystem : System MediaLink LinkEvent where
  init s := ∃ ssrc frames fecK sequenceNumber fecSequenceNumber statisticsHandler,
    s = .new ssrc frames fecK sequenceNumber fecSequenceNumber statisticsHandler
  step := MediaLink.step

/-- The steps of the sender. -/
def LinkEvent.senderEvent : LinkEvent → Option SenderEvent
  | .sender event => some event
  | .deliver _ | .socketError | .tick _ | .setStatisticsHandler _ => none

section Steps

variable {s s' : MediaLink} {event : LinkEvent} {events : List LinkEvent}

/-- A step is one of the sender or one of the receiver with a datagram of the sender. -/
lemma MediaLink.step_cases (h : s.step event = some s') :
    (∃ e, event.senderEvent = some e ∧ s.sender.step e = some s'.sender ∧
      s'.reception = s.reception) ∨
    event.senderEvent = none ∧ s'.sender = s.sender ∧
      ∃ e, s.reception.step e = some s'.reception ∧ ∀ message ∈ e.message,
        message ∈ s.sender.sent := by
  cases event with
  | sender e =>
    simp only [MediaLink.step, Option.map_eq_some_iff] at h
    obtain ⟨sender, hsender, rfl⟩ := h
    exact Or.inl ⟨e, rfl, hsender, rfl⟩
  | deliver i =>
    simp only [MediaLink.step, MediaLink.receiverEvent] at h
    cases hsent : s.sender.sent[i]? with
    | none =>
      rw [hsent] at h
      cases h
    | some message =>
      rw [hsent] at h
      cases h
      refine Or.inr ⟨rfl, rfl, .datagram false message, rfl, ?_⟩
      rintro _ ⟨⟩
      exact List.mem_of_getElem? hsent
  | socketError =>
    cases h
    exact Or.inr ⟨rfl, rfl, .datagram true [], rfl, nofun⟩
  | tick error =>
    cases h
    exact Or.inr ⟨rfl, rfl, .tick error, rfl, nofun⟩
  | setStatisticsHandler present =>
    cases h
    exact Or.inr ⟨rfl, rfl, .setStatisticsHandler present, rfl, nofun⟩

/-- The sender does not notice the receiver. -/
lemma MediaLink.run_sender (h : mediaLinkSystem.run s events = some s') :
    senderSystem.run s.sender (events.filterMap LinkEvent.senderEvent) = some s'.sender := by
  induction events generalizing s with
  | nil =>
    cases h
    rfl
  | cons event events ih =>
    simp only [System.run, Option.bind_eq_some_iff] at h
    obtain ⟨t, ht, h⟩ := h
    rcases MediaLink.step_cases ht with ⟨e, he, hsender, -⟩ | ⟨he, hsender, -⟩
    · rw [List.filterMap_cons_some he, System.run]
      exact Option.bind_eq_some_iff.mpr ⟨_, hsender, ih h⟩
    · rw [List.filterMap_cons_none he, ← hsender]
      exact ih h

end Steps

/-! ### Datagrams of the wire -/

/-- A FEC datagram behind packet number `i` is the one of the group that this packet completes. -/
lemma fecDatagram_take {fecK : Option UInt16} {packets : List CustomJpegPacket} {i : ℕ} {n : UInt16}
    {fec : Octets} (hi : i < packets.length)
    (h : fecDatagram fecK (packets.take (i + 1)) n = some fec) :
    ∃ k ∈ fecK, ∃ j, (j + 1) * k.toNat = i + 1 ∧
      fullFecPacket (group k.toNat j packets) n = some fec := by
  cases fecK with
  | none => cases h
  | some k =>
    rw [fecDatagram, List.length_take_of_le hi] at h
    split_ifs at h with hdvd
    obtain ⟨j, hj⟩ := hdvd
    cases j with
    | zero => cases hj
    | succ j =>
      have hcount : i + 1 = (j + 1) * k.toNat := hj.trans (Nat.mul_comm _ _)
      rw [hcount, newest_take (hcount ▸ hi)] at h
      exact ⟨k, rfl, j, hcount.symm, h⟩

/-- A datagram of one of the packets, or of one of their groups. -/
def OnWire (fecK : Option UInt16) (packets : List CustomJpegPacket) (datagram : Octets) : Prop :=
  (∃ p ∈ packets, datagram = raw p) ∨ ∃ k ∈ fecK, ∃ j m, (j + 1) * k.toNat ≤ packets.length ∧
    fullFecPacket (group k.toNat j packets) m = some datagram

/-- What is sent is a datagram of a packet, or of a group. -/
lemma mem_wire {fecK : Option UInt16} {packets : List CustomJpegPacket} {i : ℕ} {n : UInt16}
    {draws : List (Bool × Bool)} {datagram : Octets}
    (h : datagram ∈ wire fecK packets i n draws) : OnWire fecK packets datagram := by
  induction draws generalizing i n with
  | nil => cases h
  | cons draw draws ih =>
    obtain ⟨dropMedia, dropFec⟩ := draw
    rw [wire] at h
    cases hpacket : packets[i]? with
    | none =>
      rw [hpacket] at h
      cases h
    | some p =>
      obtain ⟨hi, -⟩ := List.getElem?_eq_some_iff.mp hpacket
      rw [hpacket] at h
      dsimp only at h
      rcases List.mem_append.mp h with hmedia | hrest
      · split_ifs at hmedia
        · cases hmedia
        · exact Or.inl ⟨p, List.mem_of_getElem? hpacket, List.mem_singleton.mp hmedia⟩
      · cases hfec : fecDatagram fecK (packets.take (i + 1)) n with
        | none =>
          rw [hfec] at hrest
          exact ih hrest
        | some fec =>
          rw [hfec] at hrest
          dsimp only at hrest
          split_ifs at hrest
          · exact ih hrest
          · rcases List.mem_cons.mp hrest with rfl | hrest
            · obtain ⟨k, hk, j, hj, hgroup⟩ := fecDatagram_take hi hfec
              exact Or.inr ⟨k, hk, j, n, hj ▸ hi, hgroup⟩
            · exact ih hrest

/-! ### Authenticity -/

section Authentic

variable {ssrc : UInt32} {first : ℕ} {frames : List Octets} {fecK : Option UInt16}

/-- The datagram of a packet of the movie is read as this packet. -/
lemma customJpegPacketGrammar_sent {p : CustomJpegPacket}
    (hp : p ∈ sentPackets ssrc first frames) :
    customJpegPacketGrammar {} (raw p) = .ok (p, []) := by
  obtain ⟨number, frame, -, rfl⟩ := mem_sentPackets hp
  exact customJpegPacketGrammar_generated (sentPacket_plain ssrc number frame)

/-- What is accepted from the wire is a packet of the movie. -/
lemma accepted_of_onWire (hfecK : FitsMask fecK) {datagram : Octets}
    (h : OnWire fecK (sentPackets ssrc first frames) datagram) :
    (∃ p ∈ sentPackets ssrc first frames, datagram = raw p ∧
      customJpegPacketGrammar {} datagram = .ok (p, [])) ∨
    (∃ error, customJpegPacketGrammar {} datagram = .error error) ∧ ∃ k ∈ fecK, ∃ j m,
      (j + 1) * k.toNat ≤ (sentPackets ssrc first frames).length ∧
        fullFecPacket (group k.toNat j (sentPackets ssrc first frames)) m = some datagram := by
  rcases h with ⟨p, hp, rfl⟩ | ⟨k, hk, j, m, hj, hfull⟩
  · exact Or.inl ⟨p, hp, rfl, customJpegPacketGrammar_sent hp⟩
  · refine Or.inr ⟨?_, k, hk, j, m, hj, hfull⟩
    obtain ⟨hpos, hle⟩ := hfecK k hk
    rw [length_sentPackets] at hj
    rw [group_sentPackets] at hfull
    obtain ⟨last, -, mask, -, hsent⟩ := fullFecPacket_group ssrc (first + j * k.toNat) hpos hle
      (length_group hj) m
    obtain rfl := Option.some.inj (hfull.symm.trans hsent)
    exact customJpegPacketGrammar_error (fecRtpHeader_plain m _ _) rfl
      (by decide : (100 : UInt8) ≠ 26) _

end Authentic

/-! ### Handlers -/

namespace Receiver

variable {r : Receiver} {message : Octets}

lemma report_fst (r : Receiver) : ∃ reported, r.report.1 = { r with reported := reported } := by
  unfold report
  split_ifs
  · split
    · exact ⟨r.reported, rfl⟩
    · exact ⟨_, rfl⟩
  · exact ⟨r.reported, rfl⟩

/-- What is read as a JPEG packet is not handled as a FEC packet. -/
lemma handleNewJpegPacket_ne_false {packet : CustomJpegPacket} {rest : Octets}
    (h : customJpegPacketGrammar {} message = .ok (packet, rest)) :
    (r.handleNewJpegPacket message).2 ≠ .ok false := by
  cases hmedia : mediaPacket r.ssrc message with
  | none =>
    rcases (handleNewJpegPacket_of_no_media hmedia).2 with
      ⟨error, herror, -⟩ | ⟨-, fault, -, hfault⟩
    · rw [h] at herror
      cases herror
    · rw [hfault]
      nofun
  | some packet =>
    rcases hupdate : updateUtility r.jpegSequenceUtility packet.header.sequenceNumber with
      ⟨utility, - | -⟩
    · rw [handleNewJpegPacket_of_rejected hmedia hupdate]
      nofun
    · rw [handleNewJpegPacket_of_accepted hmedia hupdate]
      split_ifs
      · nofun
      · split <;> nofun

lemma handleNewIncomingMessage_of_jpeg {packet : CustomJpegPacket} {rest : Octets}
    (h : customJpegPacketGrammar {} message = .ok (packet, rest)) :
    ∃ reported, (r.handleNewIncomingMessage message).1 =
      { (r.handleNewJpegPacket message).1 with reported := reported } := by
  have hne := handleNewJpegPacket_ne_false (r := r) h
  unfold handleNewIncomingMessage
  rcases hjpeg : r.handleNewJpegPacket message with ⟨r', fault | - | -⟩
  · exact ⟨r'.reported, rfl⟩
  · rw [hjpeg] at hne
    exact absurd rfl hne
  · exact r'.report_fst

lemma handleNewIncomingMessage_of_error {error : CustomJpegPacket}
    (h : customJpegPacketGrammar {} message = .error error) :
    ∃ reported, (r.handleNewIncomingMessage message).1 =
      { (r.handleNewFecPacket message).1 with reported := reported } := by
  have hjpeg : r.handleNewJpegPacket message = (r, .ok false) := by
    rw [handleNewJpegPacket, h]
  rw [handleNewIncomingMessage, hjpeg]
  dsimp only
  rcases r.handleNewFecPacket message with ⟨r', fault | result⟩
  · exact ⟨r'.reported, rfl⟩
  · exact r'.report_fst

/-- The FEC buffer with a new packet, without its oldest one if it has got too long. -/
def fecsWith (r : Receiver) (fec : CustomFecPacket × Octets) : List (CustomFecPacket × Octets) :=
  let buffer := r.fecPacketIncomingBuffer ++ [fec]
  if buffer.length > bufferSize then buffer.tail else buffer

lemma mem_fecsWith {fec new : CustomFecPacket × Octets} (h : fec ∈ r.fecsWith new) :
    fec ∈ r.fecPacketIncomingBuffer ∨ fec = new := by
  have hmem : fec ∈ r.fecPacketIncomingBuffer ++ [new] := by
    unfold fecsWith at h
    dsimp only at h
    split_ifs at h
    · exact List.mem_of_mem_tail h
    · exact h
  exact (List.mem_append.mp hmem).imp_right List.mem_singleton.mp

/-- A FEC packet with the ssrc of the receiver. -/
lemma handleNewFecPacket_of_fec {fec : CustomFecPacket} {rest : Octets}
    (h : customFecPacketGrammar {} message = .ok (fec, rest))
    (htype : fec.header.payloadTypeField = 100) (hssrc : fec.header.ssrc = r.ssrc)
    {utility : SequenceUtility} {valid : Bool}
    (hupdate : updateUtility r.fecSequenceUtility fec.header.sequenceNumber = (utility, valid)) :
    r.handleNewFecPacket message = ({ r with
      fecSequenceUtility := some utility
      fecPacketIncomingBuffer :=
        if valid then r.fecsWith (fec, message) else r.fecPacketIncomingBuffer }, .ok true) := by
  unfold handleNewFecPacket
  rw [h]
  dsimp only
  rw [if_neg (not_not.mpr htype), if_neg (not_not.mpr hssrc), hupdate]
  cases valid <;> rfl

/-- A FEC packet gets into its buffer with the bytes it was read from, or changes nothing in it. -/
lemma mem_fecs_handleNewFecPacket {fec : CustomFecPacket × Octets}
    (h : fec ∈ (r.handleNewFecPacket message).1.fecPacketIncomingBuffer) :
    fec ∈ r.fecPacketIncomingBuffer ∨
      fec.2 = message ∧ ∃ rest, customFecPacketGrammar {} message = .ok (fec.1, rest) := by
  rcases handleNewFecPacket_cases r message with ⟨-, hcase⟩ | ⟨_, _, -, -, -, hcase⟩ |
    ⟨new, rest, hparse, htype, hssrc, -⟩
  · rw [hcase] at h
    exact Or.inl h
  · rw [hcase] at h
    exact Or.inl h
  · rcases hupdate : updateUtility r.fecSequenceUtility new.header.sequenceNumber with
      ⟨utility, - | -⟩ <;> rw [handleNewFecPacket_of_fec hparse htype hssrc hupdate] at h
    · exact Or.inl h
    · rcases mem_fecsWith h with h | rfl
      · exact Or.inl h
      · exact Or.inr ⟨rfl, rest, hparse⟩

end Receiver

/-! ### What arrives -/

section Movie

variable {ssrc : UInt32} {first : ℕ} {frames : List Octets} {fecK : Option UInt16} {r : Receiver}
  {message : Octets}

/-- The buffers of a receiver hold packets of the movie and datagrams of its groups only. -/
structure HoldsMovie (ssrc : UInt32) (first : ℕ) (frames : List Octets) (fecK : Option UInt16)
    (r : Receiver) : Prop where
  buffer : ∀ e ∈ r.jpegPacketIncomingBuffer, Authentic (sentPackets ssrc first frames) e
  fecs : ∀ fec ∈ r.fecPacketIncomingBuffer, ∃ k ∈ fecK, ∃ j,
    IsGroupDatagram k (sentPackets ssrc first frames) fec j

lemma HoldsMovie.closeGap (hfecK : FitsMask fecK) (hstream : Streamable first frames)
    (h : HoldsMovie ssrc first frames fecK r) :
    HoldsMovie ssrc first frames fecK r.closeGap.1 := by
  rcases r.closeGap_cases with ⟨-, hclose⟩ | ⟨d, -, -, hclose⟩ | ⟨d, -, -, hclose⟩ |
    ⟨hgap, ⟨fault, -, hclose⟩ | ⟨-, hclose⟩ | ⟨q, hq, hclose⟩⟩ <;> rw [hclose]
  · exact h
  · exact h
  · exact ⟨h.buffer, h.fecs⟩
  · exact h
  · exact ⟨h.buffer, h.fecs⟩
  · refine ⟨fun e he => ?_, h.fecs⟩
    obtain ⟨closing, -, -, -, -, hclosing, -⟩ := recoveredPacket_eq_some hq
    obtain ⟨k, -, hstands⟩ :=
      recoveredPacket_standsFor hfecK hstream h.buffer h.fecs hclosing hq
    rcases List.eq_or_mem_of_mem_insertIdx he with rfl | he
    · exact Or.inr hstands.unnumbered
    · exact h.buffer e he

lemma HoldsMovie.moveFront (h : HoldsMovie ssrc first frames fecK r) :
    HoldsMovie ssrc first frames fecK r.moveFront := by
  unfold Receiver.moveFront
  cases hbuffer : r.jpegPacketIncomingBuffer with
  | nil => exact h
  | cons e buffer =>
    refine ⟨fun e' he' => h.buffer e' ?_, h.fecs⟩
    rw [hbuffer]
    exact List.mem_cons_of_mem _ he'

/-- A packet of the movie gets to the end of the buffer. -/
lemma HoldsMovie.append (h : HoldsMovie ssrc first frames fecK r) {packet : CustomJpegPacket}
    (hpacket : packet ∈ sentPackets ssrc first frames) (utility : SequenceUtility) :
    HoldsMovie ssrc first frames fecK (r.append utility (packet, raw packet)) := by
  refine ⟨fun e he => ?_, h.fecs⟩
  rcases List.mem_append.mp he with he | he
  · exact h.buffer e he
  · exact Or.inl ⟨packet, hpacket, List.mem_singleton.mp he⟩

/-- A datagram of the wire leaves only packets of the movie in the buffers. -/
lemma HoldsMovie.handleNewIncomingMessage (hfecK : FitsMask fecK)
    (hstream : Streamable first frames) (h : HoldsMovie ssrc first frames fecK r)
    (hwire : OnWire fecK (sentPackets ssrc first frames) message) :
    HoldsMovie ssrc first frames fecK (r.handleNewIncomingMessage message).1 := by
  rcases accepted_of_onWire hfecK hwire with ⟨p, hp, rfl, hparse⟩ |
    ⟨⟨error, hparse⟩, k, hk, j, n, hj, hfull⟩
  · obtain ⟨reported, hhandled⟩ := Receiver.handleNewIncomingMessage_of_jpeg (r := r) hparse
    have hjpeg : HoldsMovie ssrc first frames fecK (r.handleNewJpegPacket (raw p)).1 := by
      apply Receiver.handleNewJpegPacket_rule (P := HoldsMovie ssrc first frames fecK) h
      · exact fun _ _ _ => ⟨h.buffer, h.fecs⟩
      · intro packet utility haccepted
        obtain ⟨rest, hread, -⟩ := mediaPacket_eq_some (Receiver.media_of_accepted haccepted).1
        rw [hparse] at hread
        obtain ⟨rfl, -⟩ := Prod.mk.inj (Except.ok.inj hread)
        exact h.append hp utility
      · exact fun r' hr' => hr'.closeGap hfecK hstream
      · exact fun r' hr' => hr'.moveFront
    rw [hhandled]
    exact ⟨hjpeg.buffer, hjpeg.fecs⟩
  · obtain ⟨reported, hhandled⟩ := Receiver.handleNewIncomingMessage_of_error (r := r) hparse
    have hbuffer : (r.handleNewFecPacket message).1.jpegPacketIncomingBuffer =
        r.jpegPacketIncomingBuffer :=
      congrArg Receiver.MediaPart.buffer (r.mediaPart_handleNewFecPacket message)
    rw [hhandled]
    refine ⟨fun e he => h.buffer e (hbuffer ▸ he), fun fec hfec => ?_⟩
    rcases Receiver.mem_fecs_handleNewFecPacket hfec with hfec | ⟨hsame, rest, hread⟩
    · exact h.fecs fec hfec
    · exact ⟨k, hk, j, hj, ⟨n, hsame ▸ hfull⟩, rest, hsame ▸ hread⟩

end Movie

/-! ### Runs -/

lemma fromEnd_append_right {α : Type} (xs : List α) {ys : List α} {n : ℕ} (h : n ≤ ys.length) :
    fromEnd (xs ++ ys) n = fromEnd ys n := by
  unfold fromEnd
  rw [List.length_append, if_pos (h.trans (Nat.le_add_left _ _)), if_pos h,
    Nat.add_sub_assoc h, List.getElem?_append_right (Nat.le_add_right _ _), Nat.add_sub_cancel_left]

/-- The packet that closes a gap is the one of the arrival at its place. -/
lemma closing_eq {moved : List CustomJpegPacket} {buffer : List MediaPacket}
    {before after : List Arrival} {g : Arrival} {closing : MediaPacket}
    (hstream : moved ++ buffer.map Prod.fst = (before ++ g :: after).flatMap Arrival.packets)
    (hafter : after.length = mediaPacketDelay - 1) (hnone : ∀ a ∈ after, a.recovered = none)
    (hlen : mediaPacketDelay ≤ buffer.length)
    (hclosing : fromEnd buffer mediaPacketDelay = some closing) : closing.1 = g.packet := by
  have hnewest := fromEnd_append (before.flatMap Arrival.packets ++ g.recovered.toList)
    (after.map (·.packet)) g.packet
  have hall : (before.flatMap Arrival.packets ++ g.recovered.toList) ++
      g.packet :: after.map (·.packet) = moved ++ buffer.map Prod.fst := by
    rw [hstream, List.flatMap_append, List.flatMap_cons, Arrival.packets, flatMap_packets hnone]
    simp
  have hcount : (after.map (·.packet)).length + 1 = mediaPacketDelay := by
    rw [List.length_map, hafter]
    rfl
  rw [hall, hcount, fromEnd_append_right _ (by rwa [List.length_map]), fromEnd_map, hclosing]
    at hnewest
  exact Option.some.inj hnewest

/-- What a receiver has got from the wire of a movie. -/
structure FromMovie (ssrc : UInt32) (first : ℕ) (frames : List Octets) (fecK : Option UInt16)
    (s : Reception) : Prop where
  reachable : receptionSystem.Reachable Always s
  holds : HoldsMovie ssrc first frames fecK s.receiver
  arrived : ∀ a ∈ s.arrivals, a.packet ∈ sentPackets ssrc first frames ∧
    ∀ q ∈ a.recovered, ∃ k ∈ fecK, StandsFor k (sentPackets ssrc first frames) q
      (a.packet.number - 1)

section Runs

variable {ssrc : UInt32} {first : ℕ} {frames : List Octets} {fecK : Option UInt16} {s : Reception}
  {message : Octets}

lemma fromMovie_new (ssrc : UInt32) (first : ℕ) (frames : List Octets) (fecK : Option UInt16)
    (statisticsHandler : Bool) : FromMovie ssrc first frames fecK
      { receiver := { ssrc := ssrc, statisticsHandler := statisticsHandler } } where
  reachable := .init ⟨ssrc, statisticsHandler, rfl⟩
  holds := ⟨by simp, by simp⟩
  arrived := by simp

/-- The arrivals after another packet of the movie. -/
lemma FromMovie.arrive (hfecK : FitsMask fecK) (hstream : Streamable first frames)
    (h : FromMovie ssrc first frames fecK s) {packet : CustomJpegPacket}
    (hpacket : packet ∈ sentPackets ssrc first frames) :
    ∀ a ∈ arrive s.arrivals packet (s.receiver.recovers (raw packet) packet),
      a.packet ∈ sentPackets ssrc first frames ∧ ∀ q ∈ a.recovered, ∃ k ∈ fecK,
        StandsFor k (sentPackets ssrc first frames) q (a.packet.number - 1) := by
  have hnew : ∀ a ∈ s.arrivals ++ [({ packet := packet } : Arrival)],
      a.packet ∈ sentPackets ssrc first frames ∧ ∀ q ∈ a.recovered, ∃ k ∈ fecK,
        StandsFor k (sentPackets ssrc first frames) q (a.packet.number - 1) := by
    intro a ha
    rcases List.mem_append.mp ha with ha | ha
    · exact h.arrived a ha
    · obtain rfl := List.mem_singleton.mp ha
      exact ⟨hpacket, nofun⟩
  cases hrecovers : s.receiver.recovers (raw packet) packet with
  | none => exact hnew
  | some q =>
    have hconserved := conserved_of_reachable h.reachable
    simp only [Receiver.recovers, recoveredInGap] at hrecovers
    split_ifs at hrecovers with hlen hgap
    have hbuffer : s.receiver.shown ++ s.receiver.jpegPacketFrameBuffer ++
        (s.receiver.jpegPacketIncomingBuffer ++ [(packet, raw packet)]).map Prod.fst =
          (s.arrivals ++ [({ packet := packet } : Arrival)]).flatMap Arrival.packets := by
      rw [List.flatMap_append, ← hconserved.stream, List.map_append, ← List.append_assoc]
      rfl
    obtain ⟨before, g, after, hsplit, harrive, hafter, hnone, -⟩ :=
      arrive_recovered (q := q) hbuffer hlen hgap hconserved.recent
    rw [harrive]
    rcases hpacketRecovered : recoveredPacket (s.receiver.jpegPacketIncomingBuffer ++
      [(packet, raw packet)]) s.receiver.fecPacketIncomingBuffer with fault | - | recovered <;>
      rw [hpacketRecovered] at hrecovers
    · cases hrecovers
    · cases hrecovers
    · obtain rfl := Option.some.inj hrecovers
      obtain ⟨closing, -, -, -, -, hclosing, -⟩ := recoveredPacket_eq_some hpacketRecovered
      have hheld := h.holds.append hpacket
        ((s.receiver.jpegSequenceUtility).getD (.new packet.header.sequenceNumber))
      obtain ⟨k, hk, hstands⟩ := recoveredPacket_standsFor hfecK hstream hheld.buffer hheld.fecs
        hclosing hpacketRecovered
      rw [hsplit] at hbuffer hnew
      rw [closing_eq hbuffer hafter hnone (le_trans (by decide) hlen) hclosing] at hstands
      intro a ha
      rcases List.mem_append.mp ha with ha | ha
      · exact hnew a (List.mem_append_left _ ha)
      · rcases List.mem_cons.mp ha with rfl | ha
        · refine ⟨(hnew g (List.mem_append_right _ List.mem_cons_self)).1, ?_⟩
          rintro _ ⟨⟩
          exact ⟨k, hk, hstands⟩
        · exact hnew a (List.mem_append_right _ (List.mem_cons_of_mem _ ha))

/-- A step of the receiver with a datagram of the wire. -/
lemma FromMovie.step (hfecK : FitsMask fecK) (hstream : Streamable first frames)
    (h : FromMovie ssrc first frames fecK s) {event : ReceiverEvent} {s' : Reception}
    (hstep : s.step event = some s')
    (hwire : ∀ message ∈ event.message, OnWire fecK (sentPackets ssrc first frames) message) :
    FromMovie ssrc first frames fecK s' := by
  have hreachable : receptionSystem.Reachable Always s' :=
    h.reachable.step (e := event) trivial hstep
  cases event with
  | datagram error message =>
    cases error with
    | true =>
      cases hstep
      exact h
    | false =>
      cases hstep
      have hmessage := hwire message rfl
      refine ⟨hreachable, ?_, ?_⟩
      · rw [Reception.receive_receiver]
        exact h.holds.handleNewIncomingMessage hfecK hstream hmessage
      · unfold Reception.receive
        cases haccepted : s.receiver.accepted message with
        | none => exact h.arrived
        | some packet =>
          obtain ⟨rest, hread, -⟩ := mediaPacket_eq_some (Receiver.media_of_accepted haccepted).1
          rcases accepted_of_onWire hfecK hmessage with ⟨p, hp, rfl, hparse⟩ | ⟨⟨error, hparse⟩, -⟩
          · rw [hparse] at hread
            obtain ⟨rfl, -⟩ := Prod.mk.inj (Except.ok.inj hread)
            exact h.arrive hfecK hstream hp
          · rw [hparse] at hread
            cases hread
  | tick error =>
    cases hstep
    refine ⟨hreachable, ?_, h.arrived⟩
    unfold Receiver.displayNextFrameTimerHandler
    split_ifs
    · exact h.holds
    · cases s.receiver.jpegPacketFrameBuffer with
      | nil => exact h.holds
      | cons packet buffer => exact ⟨h.holds.buffer, h.holds.fecs⟩
  | setStatisticsHandler present =>
    cases hstep
    exact ⟨hreachable, ⟨h.holds.buffer, h.holds.fecs⟩, h.arrived⟩

end Runs

/-- In every run, whatever the network loses, duplicates and reorders, all that is shown and to be
shown are packets of the movie, and recovered packets directly before one of the movie. A recovered
packet has no number and stands for the packet before that one, whose data it has exactly if they
are `Recoverable`. -/
theorem link_authentic {fecK : Option UInt16} (hfecK : FitsMask fecK) {frames : List Octets}
    (hframes : ∀ frame ∈ frames, FitsMovie frame) {sequenceNumber : UInt16}
    (hstream : Streamable sequenceNumber.toNat frames) (ssrc : UInt32) (fecSequenceNumber : UInt16)
    (statisticsHandler : Bool) {events : List LinkEvent} {s : MediaLink}
    (hrun : mediaLinkSystem.run (.new ssrc frames fecK sequenceNumber fecSequenceNumber
      statisticsHandler) events = some s) :
    s.reception.receiver.stream = s.reception.arrivals.flatMap Arrival.packets ∧
      ∀ a ∈ s.reception.arrivals, a.packet ∈ sentPackets ssrc sequenceNumber.toNat frames ∧
        ∀ q ∈ a.recovered, ∃ k ∈ fecK,
          StandsFor k (sentPackets ssrc sequenceNumber.toNat frames) q (a.packet.number - 1) := by
  have h : senderSystem.run (.new ssrc (movie frames) fecK sequenceNumber fecSequenceNumber)
        (events.filterMap LinkEvent.senderEvent) = some s.sender ∧
      FromMovie ssrc sequenceNumber.toNat frames fecK s.reception := by
    refine System.run_invariant (I := fun es s =>
        senderSystem.run (.new ssrc (movie frames) fecK sequenceNumber fecSequenceNumber)
            (es.filterMap LinkEvent.senderEvent) = some s.sender ∧
          FromMovie ssrc sequenceNumber.toNat frames fecK s.reception)
      (System.meets_always mediaLinkSystem _ events) hrun ?_ ?_
    · exact ⟨rfl, fromMovie_new ssrc sequenceNumber.toNat frames fecK statisticsHandler⟩
    · rintro es event t t' ⟨hsender, hmovie⟩ - hstep
      rcases MediaLink.step_cases hstep with ⟨e, he, hnext, hsame⟩ | ⟨he, hsame, e, hnext, hsent⟩
      · rw [List.filterMap_append, List.filterMap_cons_some he, List.filterMap_nil,
          System.run_concat, hsender, hsame]
        exact ⟨hnext, hmovie⟩
      · rw [List.filterMap_append, List.filterMap_cons_none he, List.filterMap_nil,
          List.append_nil, hsame]
        have hwire : t.sender.sent = wire fecK (sentPackets ssrc sequenceNumber.toNat frames) 0
            fecSequenceNumber _ :=
          ((hasSent_new ssrc frames fecK sequenceNumber fecSequenceNumber).run hfecK hframes
            hsender).2
        refine ⟨hsender, hmovie.step hfecK hstream hnext fun message hmessage => ?_⟩
        have hmem := hsent message hmessage
        rw [hwire] at hmem
        exact mem_wire hmem
  exact ⟨(conserved_of_reachable h.2.reachable).stream, h.2.arrived⟩

/-- Sixty frames in groups of two. The network loses one packet, swaps two datagrams and delivers
one of them twice. -/
def reorderedEvents : List LinkEvent :=
  ([SenderEvent.start, .strand] ++
    (List.replicate 60 (nextPacket false false)).flatten).map .sender ++
  (List.range 48 ++ List.range' 49 36 ++ [86, 85, 86, 87]).map .deliver ++ [.tick false]

theorem link_authentic_reordered :
    ∃ s ∈ mediaLinkSystem.run (.new 7 (List.replicate 60 [0xFF, 0xD9]) (some 2) 5 65535 false)
        reorderedEvents,
      s.reception.receiver.corrected = 1 ∧ s.reception.arrivals.length = 57 ∧
      s.reception.receiver.stream = s.reception.arrivals.flatMap Arrival.packets ∧
      ∀ a ∈ s.reception.arrivals, a.packet ∈ sentPackets 7 5 (List.replicate 60 [0xFF, 0xD9]) ∧
        ∀ q ∈ a.recovered, ∃ k ∈ some 2,
          StandsFor k (sentPackets 7 5 (List.replicate 60 [0xFF, 0xD9])) q
            (a.packet.number - 1) := by
  have hframes : ∀ frame ∈ List.replicate 60 [0xFF, 0xD9], FitsMovie frame := by
    intro frame hframe
    obtain rfl := List.eq_of_mem_replicate hframe
    exact ⟨by decide, by decide⟩
  have hstream : Streamable (5 : UInt16).toNat (List.replicate 60 [0xFF, 0xD9]) := by
    refine ⟨by decide, by decide, fun frame hframe => ?_⟩
    obtain rfl := List.eq_of_mem_replicate hframe
    exact ⟨[], rfl⟩
  obtain ⟨s, hrun, hcorrected, hlength⟩ : ∃ s ∈ mediaLinkSystem.run
      (.new 7 (List.replicate 60 [0xFF, 0xD9]) (some 2) 5 65535 false) reorderedEvents,
      s.reception.receiver.corrected = 1 ∧ s.reception.arrivals.length = 57 := by
    decide +kernel
  obtain ⟨hshown, harrived⟩ := link_authentic (by decide) hframes hstream 7 65535 false hrun
  exact ⟨s, hrun, hcorrected, hlength, hshown, harrived⟩

end Rtp
