import StreamingLib.Rtp.GapClosing
import StreamingLib.Transition.Simulation

/-!
# Isolated losses are repaired

With a network that delivers everything in order, and isolated losses of the channel simulation,
the receiver shows one packet for every frame: the frame's own one, or the one that was recovered
for it.
-/

namespace Rtp

open Groups Transition

namespace Receiver

/-- What only FEC packets change. -/
def fecPart (r : Receiver) : Option SequenceUtility × List (CustomFecPacket × Octets) :=
  (r.fecSequenceUtility, r.fecPacketIncomingBuffer)

lemma fecPart_closeGap (r : Receiver) : r.closeGap.1.fecPart = r.fecPart := by
  rcases closeGap_cases r with ⟨-, h⟩ | ⟨d, -, -, h⟩ | ⟨d, -, -, h⟩ |
    ⟨-, ⟨fault, -, h⟩ | ⟨-, h⟩ | ⟨q, -, h⟩⟩ <;> rw [h] <;> rfl

lemma fecPart_moveFront (r : Receiver) : r.moveFront.fecPart = r.fecPart := by
  unfold moveFront
  cases r.jpegPacketIncomingBuffer <;> rfl

lemma fecPart_handleNewJpegPacket (r : Receiver) (message : Octets) :
    (r.handleNewJpegPacket message).1.fecPart = r.fecPart := by
  apply handleNewJpegPacket_rule (P := fun r' => r'.fecPart = r.fecPart) rfl
  · exact fun _ _ _ => rfl
  · exact fun _ _ _ => rfl
  · exact fun r' h => (fecPart_closeGap r').trans h
  · exact fun r' h => (fecPart_moveFront r').trans h

end Receiver

namespace Broadcast

variable {b : Broadcast} {a d g h i j n : ℕ} {s s' : Reception}

/-! ### Steps -/

/-- The receiver when the packets before `a` and the FEC packets of the first `h` groups were
sent. -/
structure InSync (b : Broadcast) (a h : ℕ) (s : Reception) : Prop where
  ssrc : s.receiver.ssrc = b.ssrc
  holds : HoldsMovie b.ssrc b.first b.frames (some b.k) s.receiver
  numbers : b.Follows a s.receiver.jpegSequenceUtility
  fecNumbers : b.FollowsFec (b.fecsSent h) s.receiver.fecSequenceUtility
  fecs : b.HoldsFecs h s.receiver.fecPacketIncomingBuffer
  inStep : ∃ n d shown, b.InStep a n d shown s.receiver s.accepted.length

namespace InSync

lemma start (b : Broadcast) (statisticsHandler : Bool) : b.InSync 0 0
    { receiver := { ssrc := b.ssrc, statisticsHandler := statisticsHandler } } where
  ssrc := rfl
  holds := ⟨by simp, by simp⟩
  numbers := .start
  fecNumbers := .start
  fecs := fun j hj => by cases hj
  inStep := ⟨0, 0, [], .start b _ rfl rfl⟩

/-- Packets that are lost change nothing. -/
lemma skip (hb : b.Repairable) (hsync : b.InSync a h s) (ha : a < b.frames.length)
    (hlost : b.lost a = true) : b.InSync (a + 1) h s := by
  obtain ⟨hssrc, hholds, hnumbers, hfecNumbers, hfecs, n, d, shown, hstep⟩ := hsync
  have hfull := (hb.isolated a ha hlost).full
  exact ⟨hssrc, hholds, hnumbers.lost hb ha hlost, hfecNumbers, hfecs, n, d + 1, shown,
    hstep.skip (by omega) hlost⟩

lemma skipFec (hsync : b.InSync a h s) (hlost : b.fecLost h = true) : b.InSync a (h + 1) s := by
  obtain ⟨hssrc, hholds, hnumbers, hfecNumbers, hfecs, hstep⟩ := hsync
  refine ⟨hssrc, hholds, hnumbers, ?_, hfecs.lost hlost, hstep⟩
  rwa [fecsSent_succ, if_pos hlost]

/-- The timer and the statistics handler change nothing here. -/
lemma quiet (hsync : b.InSync a h s) {e : ReceiverEvent} (hstep : s.step e = some s')
    (hquiet : e.message = none) : b.InSync a h s' := by
  obtain ⟨hssrc, hholds, hnumbers, hfecNumbers, hfecs, n, d, shown, hinStep⟩ := hsync
  cases e with
  | datagram error message =>
    cases error with
    | true =>
      cases hstep
      exact ⟨hssrc, hholds, hnumbers, hfecNumbers, hfecs, n, d, shown, hinStep⟩
    | false => cases hquiet
  | tick error =>
    cases hstep
    have hstream := s.receiver.stream_displayNextFrameTimerHandler error
    unfold Receiver.displayNextFrameTimerHandler at hstream ⊢
    split_ifs at hstream ⊢
    · exact ⟨hssrc, hholds, hnumbers, hfecNumbers, hfecs, n, d, shown, hinStep⟩
    · cases hbuffer : s.receiver.jpegPacketFrameBuffer with
      | nil => exact ⟨hssrc, hholds, hnumbers, hfecNumbers, hfecs, n, d, shown, hinStep⟩
      | cons packet buffer =>
        rw [hbuffer] at hstream
        refine ⟨hssrc, ⟨hholds.buffer, hholds.fecs⟩, hnumbers, hfecNumbers, hfecs, n, d, shown,
          hinStep.congr hstream ?_ rfl rfl⟩
        rw [hbuffer]
        simp [Nat.add_left_comm]
  | setStatisticsHandler present =>
    cases hstep
    exact ⟨hssrc, ⟨hholds.buffer, hholds.fecs⟩, hnumbers, hfecNumbers, hfecs, n, d, shown,
      hinStep.congr rfl rfl rfl rfl⟩

/-- A packet that arrives behind the first one is accepted. -/
lemma accepts (hb : b.Repairable) (hsync : b.InSync a (a / b.k.toNat) s)
    (ha : a < b.frames.length) (hpos : 0 < a) (hkept : b.lost a = false) {u : SequenceUtility}
    (hmedia : mediaPacket s.receiver.ssrc (raw (b.packet a)) = some (b.packet a))
    (hupdate : updateUtility s.receiver.jpegSequenceUtility (b.packet a).header.sequenceNumber =
      (u, true)) :
    ∃ r', s.receiver.handleNewJpegPacket (raw (b.packet a)) = (r', .ok true) ∧
      r'.jpegSequenceUtility = some u ∧
      ∃ n d shown, b.InStep (a + 1) n d shown r' (s.accepted.length + 1) := by
  obtain ⟨n, d, shown, hinStep⟩ := hsync.inStep
  have hmovie := hsync.holds.append (packet_mem ha) u
  rw [Receiver.handleNewJpegPacket_of_accepted hmedia hupdate]
  split_ifs with hshort
  · exact ⟨_, rfl, rfl, hinStep.append hb hpos ha hkept hshort u _⟩
  · obtain ⟨r', hclose, hinStep'⟩ :=
      hinStep.close hb hpos ha hkept (not_lt.mp hshort) hmovie hsync.fecs
    have hutility := Receiver.closeGap_jpegSequenceUtility
      (s.receiver.append u (b.packet a, raw (b.packet a)))
    rw [hclose] at hutility ⊢
    exact ⟨r'.moveFront, rfl, (Receiver.moveFront_jpegSequenceUtility r').trans hutility, hinStep'⟩

/-- A packet that arrives. -/
lemma media (hb : b.Repairable) (hsync : b.InSync a (a / b.k.toNat) s) (ha : a < b.frames.length)
    (hkept : b.lost a = false) :
    b.InSync (a + 1) (a / b.k.toNat) (s.receive (raw (b.packet a))) := by
  have hpacket : b.packet a ∈ sentPackets b.ssrc b.first b.frames := packet_mem ha
  have hparse := customJpegPacketGrammar_sent hpacket
  have hmedia : mediaPacket s.receiver.ssrc (raw (b.packet a)) = some (b.packet a) := by
    obtain ⟨data, hdata⟩ := hb.streamable.endOfImage _ (List.getElem_mem ha)
    have hlength : 2 ≤ (b.packet a).data.length := by
      rw [packet, List.getD_eq_getElem _ _ ha, hdata, sentPacket]
      simp
    unfold mediaPacket
    rw [hparse]
    exact if_pos ⟨hsync.ssrc.symm, hlength⟩
  obtain ⟨u, hupdate, hnumbers⟩ := hsync.numbers.media hb ha
  obtain ⟨reported, hhandled⟩ := Receiver.handleNewIncomingMessage_of_jpeg (r := s.receiver) hparse
  have hfecPart := s.receiver.fecPart_handleNewJpegPacket (raw (b.packet a))
  obtain ⟨r', hr', hutility, hinStep⟩ : ∃ r',
      (s.receiver.handleNewJpegPacket (raw (b.packet a))).1 = r' ∧
        r'.jpegSequenceUtility = some u ∧ ∃ n d shown, b.InStep (a + 1) n d shown r'
          (s.receive (raw (b.packet a))).accepted.length := by
    rw [Reception.receive_accepted]
    rcases Nat.eq_zero_or_pos a with rfl | hpos
    · obtain ⟨n, d, shown, hinStep⟩ := hsync.inStep
      have hrejected : updateUtility s.receiver.jpegSequenceUtility
          (b.packet 0).header.sequenceNumber = (u, false) := hupdate
      rw [Receiver.handleNewJpegPacket_of_rejected hmedia hrejected,
        Receiver.accepted_of_rejected hmedia (congrArg Prod.snd hrejected)]
      refine ⟨_, rfl, rfl, n, d, shown, ?_⟩
      rw [Option.toList_none, List.append_nil]
      exact hinStep.first.congr rfl rfl rfl rfl
    · rw [decide_eq_true hpos] at hupdate
      obtain ⟨r', hr', hutility, hinStep⟩ := hsync.accepts hb ha hpos hkept hmedia hupdate
      rw [hr', Receiver.accepted_of_media hmedia (congrArg Prod.snd hupdate), List.length_append]
      exact ⟨r', rfl, hutility, hinStep⟩
  have hwire : OnWire (some b.k) (sentPackets b.ssrc b.first b.frames) (raw (b.packet a)) :=
    Or.inl ⟨_, hpacket, rfl⟩
  have hholds := hsync.holds.handleNewIncomingMessage hb.fits hb.streamable hwire
  have hsettings := s.receiver.settings_handleNewIncomingMessage (raw (b.packet a))
  rw [hr'] at hhandled hfecPart
  obtain ⟨hfecUtility, hfecBuffer⟩ := Prod.mk.inj hfecPart
  obtain ⟨n, d, shown, hinStep⟩ := hinStep
  refine ⟨?_, ?_, ?_, ?_, ?_, n, d, shown, ?_⟩
  · rw [Reception.receive_receiver]
    exact (congrArg Prod.fst hsettings).trans hsync.ssrc
  · rwa [Reception.receive_receiver]
  · rw [Reception.receive_receiver, hhandled]
    exact hutility.symm ▸ hnumbers
  · rw [Reception.receive_receiver, hhandled]
    exact hfecUtility.symm ▸ hsync.fecNumbers
  · rw [Reception.receive_receiver, hhandled]
    exact hfecBuffer.symm ▸ hsync.fecs
  · rw [Reception.receive_receiver, hhandled]
    exact hinStep.congr rfl rfl rfl rfl

/-- A FEC packet that arrives. -/
lemma fec (hb : b.Repairable) (hsync : b.InSync a h s)
    (hh : (h + 1) * b.k.toNat ≤ b.frames.length) (hsent : b.fecLost h = false) {full : Octets}
    (hfull : fullFecPacket (group b.k.toNat h b.packets)
      (b.firstFec + UInt16.ofNat (b.fecsSent h)) = some full) :
    b.InSync a (h + 1) (s.receive full) := by
  obtain ⟨sent, fec, rest, hgenerated, ⟨error, herror⟩, hparse, htype, hssrc, hnumber, hdatagram⟩ :=
    hb.exists_fec hh (b.firstFec + UInt16.ofNat (b.fecsSent h))
  obtain rfl : sent = full := Option.some.inj (hgenerated.symm.trans hfull)
  obtain ⟨u, valid, hupdate, hfecNumbers, hvalid⟩ := hsync.fecNumbers.step
  rw [← hnumber] at hupdate
  obtain ⟨reported, hhandled⟩ := Receiver.handleNewIncomingMessage_of_error (r := s.receiver) herror
  rw [Receiver.handleNewFecPacket_of_fec hparse htype (hssrc.trans hsync.ssrc.symm) hupdate]
    at hhandled
  have hrejected : s.receiver.accepted sent = none := by
    rw [Receiver.accepted, herror]
  have hwire : OnWire (some b.k) (sentPackets b.ssrc b.first b.frames) sent :=
    Or.inr ⟨b.k, rfl, h, _, by rwa [length_sentPackets], hfull⟩
  have hholds := hsync.holds.handleNewIncomingMessage hb.fits hb.streamable hwire
  obtain ⟨n, d, shown, hinStep⟩ := hsync.inStep
  refine ⟨?_, ?_, ?_, ?_, ?_, n, d, shown, ?_⟩
  · rw [Reception.receive_receiver, hhandled]
    exact hsync.ssrc
  · rwa [Reception.receive_receiver]
  · rw [Reception.receive_receiver, hhandled]
    exact hsync.numbers
  · rw [Reception.receive_receiver, hhandled, fecsSent_succ, if_neg (by simp [hsent])]
    exact hfecNumbers
  · rw [Reception.receive_receiver, hhandled]
    cases valid with
    | true => exact hsync.fecs.push hsent hdatagram
    | false =>
      apply holdsFecs_of_lt
      exact not_le.mp fun hle => Bool.false_ne_true (hvalid hle)
  · rw [Reception.receive_receiver, Reception.receive_accepted, hrejected, hhandled,
      Option.toList_none, List.append_nil]
    exact hinStep.congr rfl rfl rfl rfl

/-! ### Runs -/

lemma quiet_run (hsync : b.InSync a h s) {events : List ReceiverEvent}
    (hrun : receptionSystem.run s events = some s')
    (hquiet : events.filterMap ReceiverEvent.message = []) : b.InSync a h s' := by
  induction events generalizing s with
  | nil =>
    cases hrun
    exact hsync
  | cons e events ih =>
    simp only [System.run, Option.bind_eq_some_iff] at hrun
    obtain ⟨t, ht, hrun⟩ := hrun
    rw [List.filterMap_eq_nil_iff, List.forall_mem_cons, ← List.filterMap_eq_nil_iff] at hquiet
    exact ih (hsync.quiet ht hquiet.1) hrun hquiet.2

/-- Up to the next datagram nothing changes. -/
lemma next_datagram (hsync : b.InSync a h s) {events : List ReceiverEvent}
    (hrun : receptionSystem.run s events = some s') {datagram : Octets} {rest : List Octets}
    (hbegins : events.filterMap ReceiverEvent.message <+: datagram :: rest) :
    b.InSync a h s' ∨ ∃ t events', b.InSync a h t ∧
      receptionSystem.run (t.receive datagram) events' = some s' ∧
      events'.filterMap ReceiverEvent.message <+: rest := by
  cases hmessages : events.filterMap ReceiverEvent.message with
  | nil => exact Or.inl (hsync.quiet_run hrun hmessages)
  | cons message messages =>
    right
    rw [hmessages, List.cons_prefix_cons] at hbegins
    obtain ⟨rfl, hbegins⟩ := hbegins
    obtain ⟨before, e, after, rfl, hbefore, he, rfl⟩ := List.filterMap_eq_cons_iff.mp hmessages
    rw [System.run_append, Option.bind_eq_some_iff] at hrun
    obtain ⟨t, ht, hrun⟩ := hrun
    have hsync' := hsync.quiet_run ht (List.filterMap_eq_nil_iff.mpr hbefore)
    obtain ⟨t', ht', hrun⟩ := Option.bind_eq_some_iff.mp hrun
    obtain ⟨message', hmessage', rfl⟩ | ⟨hnone, -⟩ := Reception.step_cases ht'
    · rw [he] at hmessage'
      obtain rfl := Option.some.inj hmessage'
      exact ⟨t, after, hsync', hrun, hbegins⟩
    · rw [he] at hnone
      cases hnone

/-- What is sent with a packet: the packet itself, and behind the last one of a group its FEC
packet. -/
lemma wire_cons (hb : b.Repairable) (ha : a < b.frames.length) (number : UInt16)
    (dropMedia dropFec : Bool) (draws : List (Bool × Bool)) :
    ∃ rest, wire (some b.k) b.packets a number ((dropMedia, dropFec) :: draws) =
        (if dropMedia then [] else [raw (b.packet a)]) ++ rest ∧
      ((a + 1) / b.k.toNat = a / b.k.toNat ∧
          rest = wire (some b.k) b.packets (a + 1) number draws ∨
        (a + 1) / b.k.toNat = a / b.k.toNat + 1 ∧ (a / b.k.toNat + 1) * b.k.toNat = a + 1 ∧
          ∃ full, fullFecPacket (group b.k.toNat (a / b.k.toNat) b.packets) number = some full ∧
            rest = if dropFec then wire (some b.k) b.packets (a + 1) number draws
              else full :: wire (some b.k) b.packets (a + 1) (number + 1) draws) := by
  have hlength : (b.packets.take (a + 1)).length = a + 1 := by
    rw [List.length_take, packets, length_sentPackets]
    omega
  rw [wire, getElem?_packets ha]
  refine ⟨_, rfl, ?_⟩
  rw [fecDatagram, hlength]
  by_cases hdvd : b.k.toNat ∣ a + 1
  · have hdiv := Nat.succ_div_of_dvd hdvd
    have hcount : (a / b.k.toNat + 1) * b.k.toNat = a + 1 := by
      rw [← hdiv, Nat.div_mul_cancel hdvd]
    obtain ⟨full, -, -, hfull, -⟩ := hb.exists_fec (j := a / b.k.toNat) (by omega) number
    have hnewest : newest b.k.toNat (b.packets.take (a + 1)) =
        group b.k.toNat (a / b.k.toNat) b.packets := by
      rw [← hcount, newest_take]
      rw [packets, length_sentPackets]
      omega
    rw [if_pos hdvd, hnewest, hfull]
    exact Or.inr ⟨hdiv, hcount, full, rfl, rfl⟩
  · rw [if_neg hdvd]
    exact Or.inl ⟨Nat.succ_div_of_not_dvd hdvd, rfl⟩

/-- What is delivered of the rest of the wire keeps the receiver in step. -/
lemma run (hb : b.Repairable) {draws : List (Bool × Bool)} (hdraws : b.draws.drop a = draws)
    (hsync : b.InSync a (a / b.k.toNat) s) {events : List ReceiverEvent}
    (hrun : receptionSystem.run s events = some s')
    (hbegins : events.filterMap ReceiverEvent.message <+: wire (some b.k) b.packets a
      (b.firstFec + UInt16.ofNat (b.fecsSent (a / b.k.toNat))) draws) :
    ∃ a h, b.InSync a h s' := by
  induction draws generalizing a s events with
  | nil => exact ⟨_, _, hsync.quiet_run hrun (List.prefix_nil.mp hbegins)⟩
  | cons draw draws ih =>
    obtain ⟨dropMedia, dropFec⟩ := draw
    have hdraw : b.draws[a]? = some (dropMedia, dropFec) := by
      rw [← Nat.add_zero a, ← List.getElem?_drop, hdraws]
      rfl
    have hrest : b.draws.drop (a + 1) = draws := by
      rw [← List.drop_drop, hdraws]
      rfl
    rcases Nat.lt_or_ge a b.frames.length with ha | ha
    · obtain ⟨rest, hwire, hfec⟩ := wire_cons hb ha
        (b.firstFec + UInt16.ofNat (b.fecsSent (a / b.k.toNat))) dropMedia dropFec draws
      rw [hwire] at hbegins
      -- behind the packet, and behind the FEC packet if there is one
      have htail : ∀ {t : Reception} {events : List ReceiverEvent},
          b.InSync (a + 1) (a / b.k.toNat) t → receptionSystem.run t events = some s' →
          events.filterMap ReceiverEvent.message <+: rest → ∃ a h, b.InSync a h s' := by
        intro t events hsync hrun hbegins
        rcases hfec with ⟨hdiv, rfl⟩ | ⟨hdiv, hcount, full, hfull, rfl⟩
        · rw [← hdiv] at hsync hbegins
          exact ih hrest hsync hrun hbegins
        · have hdrop : b.fecLost (a / b.k.toNat) = dropFec := by
            rw [fecLost, hcount, Nat.add_sub_cancel, hdraw]
            rfl
          have hsent := b.fecsSent_succ (a / b.k.toNat)
          rw [hdrop, ← hdiv] at hsent
          cases dropFec with
          | true =>
            have hsync' := hsync.skipFec hdrop
            rw [← hdiv] at hsync'
            rw [if_pos rfl] at hbegins
            rw [if_pos rfl, Nat.add_zero] at hsent
            exact ih hrest hsync' hrun (by rwa [hsent])
          | false =>
            rw [if_neg Bool.false_ne_true] at hbegins
            rw [if_neg Bool.false_ne_true] at hsent
            rcases hsync.next_datagram hrun hbegins with
              hdone | ⟨t', events', hsync', hrun', hrest'⟩
            · exact ⟨_, _, hdone⟩
            · have hsync'' := hsync'.fec hb (by omega) hdrop hfull
              rw [← hdiv] at hsync''
              refine ih hrest hsync'' hrun' ?_
              rw [hsent, UInt16.ofNat_add, ← UInt16.add_assoc]
              exact hrest'
      have hlost : b.lost a = dropMedia := by
        rw [lost, hdraw]
        rfl
      cases dropMedia with
      | true => exact htail (hsync.skip hb ha hlost) hrun hbegins
      | false =>
        rcases hsync.next_datagram hrun hbegins with hdone | ⟨t, events', hsync', hrun', hrest'⟩
        · exact ⟨_, _, hdone⟩
        · exact htail (hsync'.media hb ha hlost) hrun' hrest'
    · have hnone : b.packets[a]? = none := by
        rw [List.getElem?_eq_none_iff, packets, length_sentPackets]
        exact ha
      rw [wire, hnone] at hbegins
      exact ⟨_, _, hsync.quiet_run hrun (List.prefix_nil.mp hbegins)⟩

end InSync

/-- The packets that were shown or are in the frame buffer are those of the first frames. -/
lemma InStep.shows_moved {shown : List CustomJpegPacket} {r : Receiver} {count : ℕ}
    (h : b.InStep a n d shown r count) :
    List.Forall₂ b.Shows (List.range' 1 (count - (bufferSize - 1)))
      (r.shown ++ r.jpegPacketFrameBuffer) := by
  have hmoved := h.filled.moved
  have hstream := h.stream
  have hshown := h.shows.length_eq
  rw [List.length_range'] at hshown
  have hlength := congrArg List.length hstream
  rw [Receiver.stream, List.length_append, @List.length_append _ shown, List.length_map,
    List.length_map, hmoved] at hlength
  have hwaiting : (b.arrived (n + 1) d).length < mediaPacketDelay := by
    rcases h.waiting with hwaiting | ⟨-, hwaiting⟩ <;> omega
  have hle : count - (bufferSize - 1) ≤ shown.length := by
    rcases Nat.lt_or_ge (count + 1) bufferSize with hlt | hge
    · omega
    · have hfull := h.filled.full hge
      simp only [bufferSize, mediaPacketDelay] at hfull hwaiting hlength ⊢
      omega
  have htake : r.shown ++ r.jpegPacketFrameBuffer = shown.take (count - (bufferSize - 1)) := by
    have hbegins := congrArg (List.take (count - (bufferSize - 1))) hstream
    rwa [Receiver.stream, List.take_left' hmoved, List.take_append_of_le_length hle] at hbegins
  rw [htake]
  have htaken := List.forall₂_take (count - (bufferSize - 1)) h.shows
  rwa [List.take_range'_of_length_ge (by omega)] at htaken

end Broadcast

/-! ### The link -/

/-- The datagrams that the network delivers. -/
def LinkEvent.delivery : LinkEvent → Option ℕ
  | .deliver i => some i
  | .sender _ | .socketError | .tick _ | .setStatisticsHandler _ => none

section Link

variable {s s' : MediaLink} {event : LinkEvent}

/-- A step of the receiver, by what is delivered. -/
lemma MediaLink.step_receiver (h : s.step event = some s') (hsender : event.senderEvent = none) :
    s'.sender = s.sender ∧ ∃ e, s.reception.step e = some s'.reception ∧
      (event.delivery = none ∧ e.message = none ∨ ∃ i message, event.delivery = some i ∧
        s.sender.sent[i]? = some message ∧ e.message = some message) := by
  cases event with
  | sender e => cases hsender
  | deliver i =>
    simp only [MediaLink.step, MediaLink.receiverEvent] at h
    cases hsent : s.sender.sent[i]? with
    | none =>
      rw [hsent] at h
      cases h
    | some message =>
      rw [hsent] at h
      cases h
      exact ⟨rfl, .datagram false message, rfl, Or.inr ⟨i, message, rfl, hsent, rfl⟩⟩
  | socketError =>
    cases h
    exact ⟨rfl, .datagram true [], rfl, Or.inl ⟨rfl, rfl⟩⟩
  | tick error =>
    cases h
    exact ⟨rfl, .tick error, rfl, Or.inl ⟨rfl, rfl⟩⟩
  | setStatisticsHandler present =>
    cases h
    exact ⟨rfl, .setStatisticsHandler present, rfl, Or.inl ⟨rfl, rfl⟩⟩

/-- The receiver has handled the first `count` datagrams that were sent. -/
def HandlesInOrder (start : Reception) (s : MediaLink) (count : ℕ) : Prop :=
  ∃ events, receptionSystem.run start events = some s.reception ∧
    events.filterMap ReceiverEvent.message = s.sender.sent.take count ∧
    count ≤ s.sender.sent.length

/-- The sender may send more. -/
lemma HandlesInOrder.sender {start : Reception} {count : ℕ} (h : HandlesInOrder start s count)
    (hsame : s'.reception = s.reception) {more : List Octets}
    (hsent : s'.sender.sent = s.sender.sent ++ more) : HandlesInOrder start s' count := by
  obtain ⟨events, hrun, hmessages, hle⟩ := h
  refine ⟨events, hsame ▸ hrun, ?_, ?_⟩
  · rw [hsent, List.take_append_of_le_length hle, hmessages]
  · rw [hsent, List.length_append]
    exact Nat.le_add_right_of_le hle

/-- A step without a datagram, or with the next one. -/
lemma HandlesInOrder.receiver {start : Reception} {count : ℕ} (h : HandlesInOrder start s count)
    (hsame : s'.sender = s.sender) {e : ReceiverEvent}
    (hstep : s.reception.step e = some s'.reception) :
    (e.message = none → HandlesInOrder start s' count) ∧
      (∀ message, e.message = some message → s.sender.sent[count]? = some message →
        HandlesInOrder start s' (count + 1)) := by
  obtain ⟨events, hrun, hmessages, hle⟩ := h
  have hnext : receptionSystem.run start (events ++ [e]) = some s'.reception := by
    rw [System.run_concat, hrun]
    exact hstep
  refine ⟨fun hnone => ⟨_, hnext, ?_, hsame.symm ▸ hle⟩, fun message hmessage hsent =>
    ⟨_, hnext, ?_, ?_⟩⟩
  · rw [List.filterMap_append, List.filterMap_cons_none hnone, List.filterMap_nil, List.append_nil,
      hsame, hmessages]
  · rw [List.filterMap_append, List.filterMap_cons_some hmessage, List.filterMap_nil, hsame,
      hmessages, List.take_add_one, hsent, Option.toList_some]
  · rw [hsame]
    exact (List.getElem?_eq_some_iff.mp hsent).1

/-- Where everything that is delivered comes in order, the receiver has handled the first of the
datagrams that were sent. -/
lemma MediaLink.run_inOrder {fecK : Option UInt16} (hfecK : FitsMask fecK) {frames : List Octets}
    (hframes : ∀ frame ∈ frames, FitsMovie frame) {ssrc : UInt32}
    {sequenceNumber fecSequenceNumber : UInt16} {statisticsHandler : Bool}
    {events : List LinkEvent}
    (hrun : mediaLinkSystem.run (.new ssrc frames fecK sequenceNumber fecSequenceNumber
      statisticsHandler) events = some s) {count : ℕ}
    (hinOrder : events.filterMap LinkEvent.delivery = List.range count) :
    HandlesInOrder { receiver := { ssrc := ssrc, statisticsHandler := statisticsHandler } } s
      count := by
  obtain ⟨start, hstart⟩ : ∃ start : Reception, start =
    { receiver := { ssrc := ssrc, statisticsHandler := statisticsHandler } } := ⟨_, rfl⟩
  have h : senderSystem.run (.new ssrc (movie frames) fecK sequenceNumber fecSequenceNumber)
        (events.filterMap LinkEvent.senderEvent) = some s.sender ∧
      ∀ count, events.filterMap LinkEvent.delivery = List.range count →
        HandlesInOrder start s count := by
    refine System.run_invariant (I := fun es s =>
        senderSystem.run (.new ssrc (movie frames) fecK sequenceNumber fecSequenceNumber)
            (es.filterMap LinkEvent.senderEvent) = some s.sender ∧
          ∀ count, es.filterMap LinkEvent.delivery = List.range count →
            HandlesInOrder start s count)
      (System.meets_always mediaLinkSystem _ events) hrun ?_ ?_
    · refine ⟨rfl, fun count hcount => ?_⟩
      obtain rfl : count = 0 := List.range_eq_nil.mp hcount.symm
      exact ⟨[], congrArg some hstart, rfl, Nat.zero_le _⟩
    · rintro es event t t' ⟨hsender, hdelivered⟩ - hstep
      rcases MediaLink.step_cases hstep with ⟨e, he, hnext, hsame⟩ | ⟨hnone, -⟩
      · obtain rfl : event = .sender e := by
          cases event with
          | sender e' =>
            cases he
            rfl
          | deliver | socketError | tick | setStatisticsHandler => cases he
        have hrun' : senderSystem.run t.sender [e] = some t'.sender := by
          rw [System.run]
          exact Option.bind_eq_some_iff.mpr ⟨_, hnext, rfl⟩
        obtain ⟨⟨i, n, hsent⟩, -⟩ :=
          (hasSent_new ssrc frames fecK sequenceNumber fecSequenceNumber).run hfecK hframes hsender
        rw [List.filterMap_append, List.filterMap_cons_some he, List.filterMap_nil,
          System.run_concat, hsender]
        refine ⟨hnext, fun count hcount => ?_⟩
        rw [List.filterMap_append, List.filterMap_cons_none rfl, List.filterMap_nil,
          List.append_nil] at hcount
        exact (hdelivered count hcount).sender hsame (hsent.run hfecK hframes hrun').2
      · obtain ⟨hsame, e, hnext, hdelivery⟩ := MediaLink.step_receiver hstep hnone
        rw [List.filterMap_append, List.filterMap_cons_none hnone, List.filterMap_nil,
          List.append_nil, hsame]
        refine ⟨hsender, fun count hcount => ?_⟩
        rw [List.filterMap_append] at hcount
        rcases hdelivery with ⟨hnothing, hmessage⟩ | ⟨i, message, hdeliver, hsent, hmessage⟩
        · rw [List.filterMap_cons_none hnothing, List.filterMap_nil, List.append_nil] at hcount
          exact ((hdelivered count hcount).receiver hsame hnext).1 hmessage
        · rw [List.filterMap_cons_some hdeliver, List.filterMap_nil] at hcount
          cases count with
          | zero => exact absurd hcount (by simp)
          | succ count =>
            rw [List.range_succ] at hcount
            obtain ⟨hbefore, hlast⟩ := List.append_inj' hcount rfl
            obtain rfl := List.singleton_inj.mp hlast
            exact ((hdelivered _ hbefore).receiver hsame hnext).2 message hmessage hsent
  rw [← hstart]
  exact h.2 count hinOrder

end Link

/-- In every run in which the network delivers in order, and the losses of the channel simulation
are isolated, the packets that were shown or are about to be are one for each frame from the second
one on, in their order: the one of the frame or, if that is lost, one that stands for it. No gap is
left open. -/
theorem isolated_losses_repaired {b : Broadcast} (hb : b.Repairable) {statisticsHandler : Bool}
    {events : List LinkEvent} {s : MediaLink}
    (hrun : mediaLinkSystem.run (.new b.ssrc b.frames (some b.k) b.sequenceNumber b.firstFec
      statisticsHandler) events = some s)
    (hdraws : (events.filterMap LinkEvent.senderEvent).filterMap SenderEvent.draws = b.draws)
    {count : ℕ} (hinOrder : events.filterMap LinkEvent.delivery = List.range count) :
    List.Forall₂ b.Shows (List.range' 1 (s.reception.accepted.length - (bufferSize - 1)))
        (s.reception.receiver.shown ++ s.reception.receiver.jpegPacketFrameBuffer) ∧
      s.reception.receiver.uncorrectable = 0 := by
  have hframes : ∀ frame ∈ b.frames, FitsMovie frame := by
    intro frame hframe
    obtain ⟨data, rfl⟩ := hb.streamable.endOfImage frame hframe
    refine ⟨?_, lt_of_le_of_lt (hb.fitsDatagram _ hframe) (by decide)⟩
    simp
  obtain ⟨receiverEvents, hreception, hmessages, -⟩ :=
    MediaLink.run_inOrder hb.fits hframes hrun hinOrder
  have hsent : s.sender.sent = wire (some b.k) b.packets 0 b.firstFec b.draws := by
    rw [← hdraws]
    exact ((hasSent_new b.ssrc b.frames (some b.k) b.sequenceNumber b.firstFec).run hb.fits hframes
      (MediaLink.run_sender hrun)).2
  have hsync : b.InSync 0 (0 / b.k.toNat)
      { receiver := { ssrc := b.ssrc, statisticsHandler := statisticsHandler } } := by
    rw [Nat.zero_div]
    exact .start b statisticsHandler
  have hzero : b.firstFec + UInt16.ofNat (b.fecsSent (0 / b.k.toNat)) = b.firstFec := by
    rw [Nat.zero_div]
    exact UInt16.add_zero _
  obtain ⟨a, h, hsync'⟩ := hsync.run hb List.drop_zero hreception (by
    rw [hmessages, hsent, hzero]
    exact List.take_prefix _ _)
  obtain ⟨n, d, shown, hinStep⟩ := hsync'.inStep
  exact ⟨hinStep.shows_moved, hinStep.uncorrectable⟩

/-- Sixty frames in groups of two, of which one is lost. -/
def lossyBroadcast : Broadcast where
  ssrc := 7
  frames := List.replicate 60 [0xFF, 0xD9]
  k := 2
  sequenceNumber := 5
  firstFec := 65535
  draws := (List.range 60).map fun i => (i == 32, false)

def lossyEvents : List LinkEvent :=
  ([SenderEvent.start, .strand] ++
    lossyBroadcast.draws.flatMap fun draw => nextPacket draw.1 draw.2).map .sender ++
  (List.range 89).map .deliver

lemma lossyBroadcast_repairable : lossyBroadcast.Repairable where
  two_le := by decide
  le_twenty := by decide
  streamable := by
    refine ⟨by decide, by decide, fun frame hframe => ?_⟩
    obtain rfl := List.eq_of_mem_replicate hframe
    exact ⟨[], rfl⟩
  fitsDatagram frame hframe := by
    obtain rfl := List.eq_of_mem_replicate hframe
    decide
  isolated i hi hlost := by
    have honly : ∀ i < 60, lossyBroadcast.lost i = true → i = 32 := by decide
    obtain rfl := honly i hi hlost
    refine ⟨by decide, fun _ => by decide, fun l hl hlost => ?_, by decide, by decide, by decide⟩
    have hpair : l < 60 := by
      have : l / 2 = 16 := hl
      omega
    exact honly l hpair hlost

theorem isolated_losses_repaired_one :
    ∃ s ∈ mediaLinkSystem.run (.new 7 lossyBroadcast.frames (some 2) 5 65535 false) lossyEvents,
      s.reception.receiver.corrected = 1 ∧
      List.Forall₂ lossyBroadcast.Shows
        (List.range' 1 (s.reception.accepted.length - (bufferSize - 1)))
        (s.reception.receiver.shown ++ s.reception.receiver.jpegPacketFrameBuffer) := by
  obtain ⟨s, hrun, hcorrected⟩ : ∃ s ∈ mediaLinkSystem.run
      (.new 7 lossyBroadcast.frames (some 2) 5 65535 false) lossyEvents,
        s.reception.receiver.corrected = 1 := by
    decide +kernel
  exact ⟨s, hrun, hcorrected, (isolated_losses_repaired lossyBroadcast_repairable hrun
    (by decide +kernel) (by decide +kernel : _ = List.range 89)).1⟩

end Rtp
